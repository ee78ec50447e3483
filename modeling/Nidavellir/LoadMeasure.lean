import Nidavellir.F2Transaction
import Nidavellir.Lib.OrderStatistics
import Nidavellir.QualificationRun

namespace Nidavellir.LoadMeasure

open OrderStatistics VfQualifier

def rampDiscardMs : Nat := 6000
def powerPeakPercentile : Nat := 99
def powerPeakMinSamples : Nat := 100
def voltSaneMinMv : Nat := 500
def voltSaneMaxMv : Nat := 1250
def prehangStallMs : Nat := 300
def f2ClockDropTolMhz : Nat := 0
def f2ClockCeilingTolMhz : Nat := 15
def f2VoltageCeilingTolMv : Nat := 0
def f2VoltageAuthorityMinSamples : Nat := 3

/-- The workloads of the current contract. -/
inductive RenderStressPurpose
  | powerCharacterization
  | vfQualification (pattern : VfQualifierPattern) (goldens : RenderGoldens)
deriving DecidableEq

/-- What NVML answers about the first card. -/
structure GpuReading where
  coreClockMhz : Option Nat
  powerW : Option Float32
  powerCapped : Option Bool
  temperatureC : Option Float32
  thermalThrottled : Option Bool

/-- One turn of the sampler, on the clock of the dwell; the voltage is what a read would answer,
and when. -/
structure SamplerTick where
  reading : Option GpuReading
  atMs : Nat
  phaseCode : Nat := 0
  voltageMv : Option Nat := none
  voltageAtMs : Nat := 0

/-- A turn is valid when it read a clock and a power. -/
def SamplerTick.sample (self : SamplerTick) : Option PhaseSample :=
  self.reading.bind fun r => r.coreClockMhz.bind fun c => r.powerW.map fun p =>
    { clockMhz := c
      powerW := p
      powerCapped := r.powerCapped == some true
      temperatureC := r.temperatureC
      phaseCode := self.phaseCode
      thermalThrottled := r.thermalThrottled == some true }

def RenderStressPurpose.keeps : RenderStressPurpose → Nat → Bool
  | .powerCharacterization, atMs => decide (rampDiscardMs ≤ atMs)
  | .vfQualification _ _, _ => true

def prehangStallSignal (sawValidSample : Bool) (elapsedSinceValidMs : Nat) : Bool :=
  sawValidSample && decide (prehangStallMs ≤ elapsedSinceValidMs)

structure Sampler where
  tick : Nat := 0
  sawValidSample : Bool := false
  lastValidMs : Nat := 0
  samples : List PhaseSample := []
  prehang : Bool := false
  voltMv : Nat := 0
  volts : List Nat := []

/-- A voltage past the ramp that no sensor glitch explains. -/
def plausibleVoltage (mv atMs : Nat) : Bool :=
  decide (rampDiscardMs ≤ atMs) && decide (voltSaneMinMv ≤ mv) && decide (mv ≤ voltSaneMaxMv)

def Sampler.readVoltage (self : Sampler) (t : SamplerTick) : Sampler :=
  match t.voltageMv with
  | none => self
  | some mv => { self with
      voltMv := max self.voltMv mv
      volts := if plausibleVoltage mv t.voltageAtMs then self.volts ++ [mv] else self.volts }

def Sampler.step (purpose : RenderStressPurpose) (self : Sampler) (t : SamplerTick) : Sampler :=
  let self :=
    match t.sample with
    | some sample => { self with
        sawValidSample := true
        lastValidMs := t.atMs
        samples := if purpose.keeps t.atMs then self.samples ++ [sample] else self.samples }
    | none => { self with
        prehang := self.prehang ||
          prehangStallSignal self.sawValidSample (t.atMs - self.lastValidMs) }
  let self := { self with tick := self.tick + 1 }
  if self.tick % 16 = 0 then self.readVoltage t else self

def runSampler (purpose : RenderStressPurpose) (ticks : List SamplerTick) : Sampler :=
  ticks.foldl (Sampler.step purpose) {}

/-- `floor ((n - 1) * 0.05)` of the ascending clocks. -/
def p5ClockMhz (clocks : List Nat) : Option Nat := nth clocks ((clocks.length - 1) / 20)

/-- `ceil ((n - 1) * 0.95)` of the ascending clocks. -/
def p95ClockMhz (clocks : List Nat) : Option Nat :=
  nth clocks (clocks.length - 1 - (clocks.length - 1) / 20)

def usablePower (w : Float32) : Bool := w.isFinite && decide (0 < w)

/-- The nearest rank, or the maximum where a hundredth of the samples is less than one. -/
def sustainedPowerPercentile (samples : List Float32) : Option Float32 :=
  let sorted := (samples.filter usablePower).mergeSort fun a b => !decide (b < a)
  if sorted.isEmpty then none
  else if sorted.length < powerPeakMinSamples then sorted.getLast?
  else
    let rank := (powerPeakPercentile * sorted.length + 99) / 100
    sorted[min (rank - 1) (sorted.length - 1)]?

/-- Minimum, mean, maximum and count. -/
def voltageStats (samples : List Nat) : Option (Nat × Nat × Nat × Nat) :=
  if samples.isEmpty then none
  else some (samples.min?.getD 0, samples.sum / samples.length, samples.max?.getD 0, samples.length)

structure Measured where
  result : StabilityResult
  cancelled : Bool := false
  clockMhz : Nat := 0
  powerW : Float32 := 0
  maxPowerW : Float32 := 0
  powerP99W : Option Float32 := none
  powerStdW : Float32 := 0
  cappedFrac : Float32 := 0
  voltMv : Nat
  sampleCount : Nat := 0
  durationMs : Nat := 0
  minClockMhz : Nat := 0
  p5ClockMhz : Nat := 0
  p95ClockMhz : Nat := 0
  voltMinMv : Option Nat := none
  voltAvgMv : Option Nat := none
  voltMaxMv : Option Nat := none
  voltSampleCount : Nat := 0
  startTempC : Option Float32 := none
  endTempC : Option Float32 := none
  avgTempC : Option Float32 := none
  maxTempC : Option Float32 := none
  thermalThrottled : Bool := false
  renderFrames : Option Nat := none
  renderFps : Option Float := none
  qualificationCoverage : Option F2QualificationCoverage := none
  evidenceProvenance : Option F2EvidenceProvenance := none
  prehangStallDetected : Bool := false

def Measured.degenerate (result : StabilityResult) (voltMv : Nat) : Measured := { result, voltMv }

/-- How the workload returned. -/
structure RenderDone where
  run : RenderResult
  fps : Float

/-- One dwell: whether its context could be made, the turns of the sampler beside it, and how the
workload ended, unless it panicked. -/
structure LoadRun where
  session : Except String F2EvidenceProvenance
  powerLimitW : Option Float32
  ticks : List SamplerTick
  render : Option RenderDone
  cancelled : Bool
  durationMs : Nat

def LoadRun.result (self : LoadRun) : StabilityResult :=
  self.render.elim .crash fun done => done.run.result

def LoadRun.coverage (self : LoadRun) (purpose : RenderStressPurpose) (targetMhz : Option Nat)
    (samples : List PhaseSample) : Option F2QualificationCoverage :=
  match purpose with
  | .powerCharacterization => none
  | .vfQualification pattern _ =>
    some (qualificationCoverageFromRun self.result
      (self.render.elim [] fun done => done.run.phaseReports) samples targetMhz pattern
      self.powerLimitW (self.render.bind fun done => done.run.inconclusiveReason))

def meanF32 (values : List Float32) : Float32 :=
  values.foldl (· + ·) 0 / values.length.toFloat32

def loadAndMeasureFor (run : LoadRun) (purpose : RenderStressPurpose) (targetMhz : Option Nat) :
    Measured :=
  match run.session with
  | .error _ => .degenerate .crash 0
  | .ok provenance =>
    let sampler := runSampler purpose run.ticks
    let v := sampler.samples
    let volts := voltageStats sampler.volts
    let empty : Measured :=
      { result := run.result
        voltMv := sampler.voltMv
        cancelled := run.cancelled
        voltMinMv := volts.map fun stats => stats.1
        voltAvgMv := volts.map fun stats => stats.2.1
        voltMaxMv := volts.map fun stats => stats.2.2.1
        voltSampleCount := volts.elim 0 fun stats => stats.2.2.2
        durationMs := run.durationMs
        renderFrames := run.render.map fun done => done.run.frames
        renderFps := run.render.bind fun done =>
          if done.fps.isFinite && decide (0 ≤ done.fps) then some done.fps else none
        qualificationCoverage := run.coverage purpose targetMhz v
        evidenceProvenance := some provenance
        prehangStallDetected := sampler.prehang }
    if v.isEmpty then empty
    else
      let powers := v.map PhaseSample.powerW
      let clocks := v.map PhaseSample.clockMhz
      let temps := v.filterMap PhaseSample.temperatureC
      let meanP := meanF32 powers
      { empty with
        clockMhz := clocks.sum / v.length
        powerW := meanP
        maxPowerW := powers.foldl maxF32 0
        powerP99W := sustainedPowerPercentile powers
        powerStdW := (meanF32 (powers.map fun p => (p - meanP) * (p - meanP))).sqrt
        cappedFrac := (v.countP PhaseSample.powerCapped).toFloat32 / v.length.toFloat32
        sampleCount := v.length
        minClockMhz := clocks.min?.getD 0
        p5ClockMhz := (LoadMeasure.p5ClockMhz clocks).getD 0
        p95ClockMhz := (LoadMeasure.p95ClockMhz clocks).getD 0
        startTempC := temps.head?
        endTempC := temps.getLast?
        avgTempC := if temps.isEmpty then none else some (meanF32 temps)
        maxTempC := if temps.isEmpty then none else some (temps.foldl maxF32 (-1 / 0))
        thermalThrottled := v.any PhaseSample.thermalThrottled }

structure SingleDwell where
  cancelled : Bool
  crashed : Bool
  silentError : Bool
  stable : Bool
  avgClockMhz : Nat
  p5ClockMhz : Nat
  p95ClockMhz : Nat
  powerW : Float32
  maxPowerW : Float32
  powerP99W : Option Float32
  powerCappedFrac : Float32
  maxTempC : Option Float32
  thermalThrottled : Bool
  voltMinMv : Option Nat
  voltAvgMv : Option Nat
  voltMaxMv : Option Nat
  voltSampleCount : Nat
  renderFrames : Option Nat
  renderFps : Option Float
  durationMs : Nat
  sampleCount : Nat
  qualificationCoverage : Option F2QualificationCoverage
  evidenceProvenance : Option F2EvidenceProvenance
  prehangStallDetected : Bool

def singleDwellFromMeasured (m : Measured) : SingleDwell where
  cancelled := m.cancelled
  crashed := m.result == .crash
  silentError := m.result == .silentError
  stable := m.result == .stable
  avgClockMhz := m.clockMhz
  p5ClockMhz := m.p5ClockMhz
  p95ClockMhz := m.p95ClockMhz
  powerW := m.powerW
  maxPowerW := m.maxPowerW
  powerP99W := m.powerP99W
  powerCappedFrac := m.cappedFrac
  maxTempC := m.maxTempC
  thermalThrottled := m.thermalThrottled
  voltMinMv := m.voltMinMv
  voltAvgMv := m.voltAvgMv
  voltMaxMv := m.voltMaxMv
  voltSampleCount := m.voltSampleCount
  renderFrames := m.renderFrames
  renderFps := m.renderFps
  durationMs := m.durationMs
  sampleCount := m.sampleCount
  qualificationCoverage := m.qualificationCoverage
  evidenceProvenance := m.evidenceProvenance
  prehangStallDetected := m.prehangStallDetected

def isQualification (purpose : F2StressPurpose) : Bool := purpose != .powerDiscovery

/-- The exact-Apply patterns that hold the clock throughout; a transition shock idles by design. -/
def holdsClock : F2StressPurpose → Bool
  | .applyQualification pattern _ => pattern != .transitionShock
  | _ => false

def classifyF2StressDwell (s : SingleDwell) (targetMhz : Nat) (purpose : F2StressPurpose) :
    F2DwellOutcome :=
  if s.cancelled then .inconclusive
  else if s.crashed then .deviceLost
  else if s.silentError then .silentError
  else if !s.stable then .unstable
  else if targetMhz + f2ClockCeilingTolMhz < s.p95ClockMhz then .inconclusive
  else if purpose = .powerDiscovery ∧ s.thermalThrottled then .inconclusive
  else if holdsClock purpose ∧ s.thermalThrottled ∧
      s.p5ClockMhz + f2ClockDropTolMhz < targetMhz then .inconclusive
  else if purpose = .powerDiscovery ∧ s.powerP99W.isNone then .inconclusive
  else if isQualification purpose ∧
      ¬ s.qualificationCoverage.any fun coverage => coverage.verdict == .pass then .inconclusive
  else if isQualification purpose ∧ s.prehangStallDetected then .unstable
  else if purpose = .powerDiscovery ∧ s.p5ClockMhz + f2ClockDropTolMhz < targetMhz then .clockDrop
  else .stable

/-- Only a voltage that was seen at or below the anchor leaves a dwell stable. -/
def enforceVoltageAuthority (outcome : F2DwellOutcome) (s : SingleDwell) (anchorMv : Nat) :
    F2DwellOutcome :=
  if outcome ≠ .stable then outcome
  else if s.voltSampleCount < f2VoltageAuthorityMinSamples then .inconclusive
  else
    match s.voltMaxMv with
    | some observedMv =>
      if observedMv ≤ anchorMv + f2VoltageCeilingTolMv then .stable else .inconclusive
    | none => .inconclusive

/-- The qualifier pattern of a purpose; the DX11 workload is not one of them. -/
def qualifierPattern : F2StressPurpose → Option VfQualifierPattern
  | .powerDiscovery => none
  | .v8Qualification pattern _ | .applyQualification pattern _ =>
    match pattern with
    | .a => some .fsgl3A
    | .b => some .fsgl3B
    | .highFps => some .v8HighFps
    | .texture => some .v8Texture
    | .transitions => some .v8Transitions
    | .memory => some .v8Memory
    | .endurance => some .endurance
    | .transitionShock => some .transitionShock
    | .dx11Game => none

/-- What the executor makes of a measured dwell. -/
def f2DwellResult (targetMhz : Nat) (purpose : F2StressPurpose) (anchorMv : Nat) (m : Measured) :
    F2DwellResult :=
  let s := singleDwellFromMeasured m
  { outcome := enforceVoltageAuthority (classifyF2StressDwell s targetMhz purpose) s anchorMv
    avgClockMhz := s.avgClockMhz
    p5ClockMhz := s.p5ClockMhz
    p95ClockMhz := s.p95ClockMhz
    powerW := s.powerW
    maxPowerW := s.maxPowerW
    powerP99W := s.powerP99W
    powerCappedFrac := s.powerCappedFrac
    maxTempC := s.maxTempC
    thermalThrottled := s.thermalThrottled
    measuredVoltageMinMv := s.voltMinMv
    measuredVoltageAvgMv := s.voltAvgMv
    measuredVoltageMaxMv := s.voltMaxMv
    measuredVoltageSampleCount := s.voltSampleCount
    renderFrames := s.renderFrames
    renderFps := s.renderFps
    durationMs := s.durationMs
    sampleCount := s.sampleCount
    qualificationCoverage := s.qualificationCoverage
    evidenceProvenance := s.evidenceProvenance }

/-- The dwell of the executor, under a purpose that the qualifier runs. -/
def f2Dwell (run : LoadRun) (targetMhz : Nat) (purpose : F2StressPurpose) (anchorMv : Nat) :
    Option F2DwellResult :=
  let measured : Option Measured :=
    match purpose with
    | .powerDiscovery => some (loadAndMeasureFor run .powerCharacterization none)
    | .v8Qualification _ goldens | .applyQualification _ goldens =>
      (qualifierPattern purpose).map fun pattern =>
        loadAndMeasureFor run (.vfQualification pattern goldens) (some targetMhz)
  measured.map (f2DwellResult targetMhz purpose anchorMv)

/-- The samples of the turns that count for the purpose. -/
def retained (purpose : RenderStressPurpose) (ticks : List SamplerTick) : List PhaseSample :=
  ticks.filterMap fun t => if purpose.keeps t.atMs then t.sample else none

/-- What a turn of that number adds to the voltages: every sixteenth reads one. -/
def voltageRead (turn : SamplerTick × Nat) : Option Nat :=
  if turn.2 % 16 = 0 then
    turn.1.voltageMv.filter (plausibleVoltage · turn.1.voltageAtMs)
  else none

def voltageReads (ticks : List SamplerTick) : List Nat := (ticks.zipIdx 1).filterMap voltageRead

/-- A turn without a valid sample, long after the last one that had one. -/
def Stalled (ticks : List SamplerTick) : Prop :=
  ∃ before t later, ticks = before ++ t :: later ∧ t.sample = none ∧
    ∃ v, (before.filter fun t => t.sample.isSome).getLast? = some v ∧
      prehangStallMs ≤ t.atMs - v.atMs

section Sampler

variable {purpose : RenderStressPurpose} {ticks : List SamplerTick}

@[simp] theorem readVoltage_samples (s : Sampler) (t : SamplerTick) :
    (s.readVoltage t).samples = s.samples := by
  unfold Sampler.readVoltage
  split <;> rfl

@[simp] theorem readVoltage_prehang (s : Sampler) (t : SamplerTick) :
    (s.readVoltage t).prehang = s.prehang ∧ (s.readVoltage t).sawValidSample = s.sawValidSample ∧
      (s.readVoltage t).lastValidMs = s.lastValidMs ∧ (s.readVoltage t).tick = s.tick := by
  unfold Sampler.readVoltage
  split <;> exact ⟨rfl, rfl, rfl, rfl⟩

theorem readVoltage_volts (s : Sampler) (t : SamplerTick) :
    (s.readVoltage t).volts =
      s.volts ++ (t.voltageMv.filter (plausibleVoltage · t.voltageAtMs)).toList := by
  unfold Sampler.readVoltage
  cases t.voltageMv with
  | none => simp
  | some mv =>
    by_cases h : plausibleVoltage mv t.voltageAtMs = true
    · simp [h, Option.filter]
    · simp [h, Option.filter]

theorem step_samples (s : Sampler) (t : SamplerTick) :
    (s.step purpose t).samples =
      s.samples ++ (if purpose.keeps t.atMs then t.sample else none).toList := by
  unfold Sampler.step
  cases hsample : t.sample with
  | none =>
    simp only
    split <;> simp
  | some sample =>
    by_cases hkeeps : purpose.keeps t.atMs = true
    · simp only [hkeeps, if_true]
      split <;> simp
    · simp only [hkeeps]
      split <;> simp

theorem step_tick (s : Sampler) (t : SamplerTick) : (s.step purpose t).tick = s.tick + 1 := by
  unfold Sampler.step
  cases t.sample <;> simp only <;> split <;> simp

theorem step_volts (s : Sampler) (t : SamplerTick) :
    (s.step purpose t).volts = s.volts ++ (voltageRead (t, s.tick + 1)).toList := by
  unfold Sampler.step voltageRead
  by_cases hturn : (s.tick + 1) % 16 = 0
  · cases t.sample <;> simp [hturn, readVoltage_volts]
  · cases t.sample <;> simp [hturn]

theorem foldl_samples (s : Sampler) :
    (ticks.foldl (Sampler.step purpose) s).samples = s.samples ++ retained purpose ticks := by
  induction ticks generalizing s with
  | nil => simp [retained]
  | cons t ticks ih =>
    have hcons : retained purpose (t :: ticks) =
        (if purpose.keeps t.atMs then t.sample else none).toList ++ retained purpose ticks := by
      unfold retained
      rw [List.filterMap_cons]
      cases (if purpose.keeps t.atMs then t.sample else none) <;> rfl
    rw [List.foldl_cons, ih, step_samples, hcons, List.append_assoc]

theorem foldl_volts (s : Sampler) :
    (ticks.foldl (Sampler.step purpose) s).volts =
      s.volts ++ (ticks.zipIdx (s.tick + 1)).filterMap voltageRead := by
  induction ticks generalizing s with
  | nil => simp
  | cons t ticks ih =>
    rw [List.foldl_cons, ih, step_volts, step_tick, List.zipIdx_cons, List.filterMap_cons,
      List.append_assoc]
    congr 1
    cases voltageRead (t, s.tick + 1) <;> rfl

theorem runSampler_samples : (runSampler purpose ticks).samples = retained purpose ticks := by
  rw [runSampler, foldl_samples]
  rfl

theorem runSampler_volts : (runSampler purpose ticks).volts = voltageReads ticks := by
  rw [runSampler, foldl_volts]
  rfl

theorem runSampler_concat (t : SamplerTick) :
    runSampler purpose (ticks ++ [t]) = (runSampler purpose ticks).step purpose t := by
  rw [runSampler, List.foldl_append]
  rfl

/-- The sampler remembers the last valid turn. -/
theorem runSampler_lastValid (purpose : RenderStressPurpose) (ticks : List SamplerTick) :
    match (ticks.filter fun t => t.sample.isSome).getLast? with
    | none => (runSampler purpose ticks).sawValidSample = false
    | some v => (runSampler purpose ticks).sawValidSample = true ∧
        (runSampler purpose ticks).lastValidMs = v.atMs := by
  induction ticks using List.reverseRecOn with
  | nil => rfl
  | append_singleton ticks t ih =>
    rw [runSampler_concat, List.filter_append]
    unfold Sampler.step
    cases hsample : t.sample with
    | none =>
      simp only [List.filter_cons, hsample, Option.isSome_none, Bool.false_eq_true, if_false,
        List.filter_nil, List.append_nil]
      split
      next hnone =>
        rw [hnone] at ih
        split <;> simpa using ih
      next v hv =>
        rw [hv] at ih
        split <;> simpa using ih
    | some sample =>
      simp only [List.filter_cons, hsample, Option.isSome_some, if_true, List.filter_nil,
        List.getLast?_concat]
      split <;> simp

theorem step_prehang (s : Sampler) (t : SamplerTick) :
    (s.step purpose t).prehang = (s.prehang ||
      (t.sample.isNone && prehangStallSignal s.sawValidSample (t.atMs - s.lastValidMs))) := by
  unfold Sampler.step
  cases t.sample <;> simp only <;> split <;> simp

theorem stalled_concat (t : SamplerTick) :
    Stalled (ticks ++ [t]) ↔ Stalled ticks ∨ (t.sample = none ∧
      ∃ v, (ticks.filter fun t => t.sample.isSome).getLast? = some v ∧
        prehangStallMs ≤ t.atMs - v.atMs) := by
  constructor
  · rintro ⟨before, u, later, heq, hstall⟩
    rcases List.eq_nil_or_concat' later with rfl | ⟨init, last, rfl⟩
    · obtain ⟨rfl, hlast⟩ := List.append_inj' heq rfl
      obtain rfl := List.singleton_inj.mp hlast
      exact .inr hstall
    · have hsplit : ticks ++ [t] = (before ++ u :: init) ++ [last] := by simpa using heq
      obtain ⟨rfl, -⟩ := List.append_inj' hsplit rfl
      exact .inl ⟨before, u, init, rfl, hstall⟩
  · rintro (⟨before, u, later, rfl, hstall⟩ | hstall)
    · exact ⟨before, u, later ++ [t], by simp, hstall⟩
    · exact ⟨ticks, t, [], rfl, hstall⟩

/-- The sampler raises the flag exactly when some turn was stalled. -/
theorem runSampler_prehang : (runSampler purpose ticks).prehang = true ↔ Stalled ticks := by
  induction ticks using List.reverseRecOn with
  | nil =>
    refine iff_of_false Bool.false_ne_true ?_
    rintro ⟨before, t, later, heq, -⟩
    exact absurd heq (by simp)
  | append_singleton ticks t ih =>
    rw [runSampler_concat, step_prehang, Bool.or_eq_true, ih, stalled_concat, Bool.and_eq_true,
      Option.isNone_iff_eq_none]
    have hlast := runSampler_lastValid purpose ticks
    unfold prehangStallSignal
    cases hvalid : (ticks.filter fun t => t.sample.isSome).getLast? with
    | none =>
      rw [hvalid] at hlast
      simp [hlast]
    | some v =>
      rw [hvalid] at hlast
      simp [hlast.1, hlast.2]

end Sampler

section Percentiles

variable {clocks : List Nat} {t : Nat}

/-- The fifth percentile holds a clock when fewer than one sample in twenty is below it. -/
theorem le_p5_iff (hne : clocks ≠ []) :
    t ≤ (p5ClockMhz clocks).getD 0 ↔ 20 * clocks.countP (· < t) < clocks.length := by
  have hpos := List.length_pos_iff.mpr hne
  have hrank : (clocks.length - 1) / 20 < clocks.length := by omega
  obtain ⟨v, hv⟩ := Option.isSome_iff_exists.mp (nth_isSome_iff.mpr hrank)
  rw [p5ClockMhz, hv, Option.getD_some, le_nth_iff hv]
  omega

theorem p95_le_iff (hne : clocks ≠ []) :
    (p95ClockMhz clocks).getD 0 ≤ t ↔ 20 * clocks.countP (t < ·) < clocks.length := by
  have hpos := List.length_pos_iff.mpr hne
  have hrank : clocks.length - 1 - (clocks.length - 1) / 20 < clocks.length := by omega
  obtain ⟨v, hv⟩ := Option.isSome_iff_exists.mp (nth_isSome_iff.mpr hrank)
  rw [p95ClockMhz, hv, Option.getD_some, nth_le_iff hv]
  omega

theorem sustainedPower_isSome_iff {powers : List Float32} :
    (sustainedPowerPercentile powers).isSome = true ↔ ∃ p ∈ powers, usablePower p = true := by
  unfold sustainedPowerPercentile
  simp only
  generalize hsorted : (powers.filter usablePower).mergeSort (fun a b => !decide (b < a)) = sorted
  have hlength : sorted.length = (powers.filter usablePower).length := by
    rw [← hsorted, List.length_mergeSort]
  have hiff : 0 < sorted.length ↔ ∃ p ∈ powers, usablePower p = true := by
    rw [hlength, List.length_pos_iff_exists_mem]
    simp [List.mem_filter]
  rw [← hiff]
  cases sorted with
  | nil => simp
  | cons p rest =>
    simp only [List.isEmpty_cons, Bool.false_eq_true, if_false, List.length_cons]
    split
    next => simp
    next =>
      refine iff_of_true ?_ (Nat.succ_pos _)
      have hin : min ((powerPeakPercentile * (rest.length + 1) + 99) / 100 - 1)
          (rest.length + 1 - 1) < (p :: rest).length := by
        simp only [List.length_cons]
        omega
      rw [List.getElem?_eq_getElem hin]
      rfl

end Percentiles

/-- The voltage authority holds over the reads behind the statistics. -/
theorem enforceVoltageAuthority_iff {outcome : F2DwellOutcome} {s : SingleDwell}
    {volts : List Nat} {anchorMv : Nat}
    (hcount : s.voltSampleCount = (voltageStats volts).elim 0 fun stats => stats.2.2.2)
    (hmax : s.voltMaxMv = (voltageStats volts).map fun stats => stats.2.2.1) :
    enforceVoltageAuthority outcome s anchorMv = .stable ↔
      outcome = .stable ∧ f2VoltageAuthorityMinSamples ≤ volts.length ∧
        ∀ v ∈ volts, v ≤ anchorMv := by
  unfold enforceVoltageAuthority
  by_cases houtcome : outcome = .stable
  · rw [if_neg (not_not.mpr houtcome), and_iff_right houtcome]
    cases volts with
    | nil => simp [hcount, voltageStats, f2VoltageAuthorityMinSamples]
    | cons v rest =>
      obtain ⟨top, htop⟩ : ∃ top, (v :: rest).max? = some top := ⟨_, rfl⟩
      obtain ⟨hmem, hle⟩ := List.max?_eq_some_iff.mp htop
      have hstats : voltageStats (v :: rest) = some ((v :: rest).min?.getD 0,
          (v :: rest).sum / (v :: rest).length, top, (v :: rest).length) := by
        unfold voltageStats
        rw [htop]
        rfl
      rw [hstats] at hcount hmax
      have hcount' : s.voltSampleCount = (v :: rest).length := hcount
      have hmax' : s.voltMaxMv = some top := hmax
      rw [hcount', hmax']
      by_cases hfew : (v :: rest).length < f2VoltageAuthorityMinSamples
      · rw [if_pos hfew]
        exact iff_of_false F2DwellOutcome.noConfusion fun h => absurd h.1 (Nat.not_le.mpr hfew)
      · rw [if_neg hfew, and_iff_right (Nat.not_lt.mp hfew)]
        dsimp only
        by_cases hanchor : top ≤ anchorMv + f2VoltageCeilingTolMv
        · rw [if_pos hanchor]
          exact iff_of_true rfl fun x hx => (hle x hx).trans hanchor
        · rw [if_neg hanchor]
          exact iff_of_false F2DwellOutcome.noConfusion fun h => hanchor (h top hmem)
  · rw [if_pos houtcome]
    exact iff_of_false houtcome fun h => houtcome h.1

theorem guarded_stable_iff {c : Prop} [Decidable c] {refusal rest : F2DwellOutcome}
    (h : refusal ≠ .stable) : (if c then refusal else rest) = .stable ↔ ¬ c ∧ rest = .stable := by
  by_cases hc : c
  · rw [if_pos hc]
    exact iff_of_false h fun hrest => hrest.1 hc
  · rw [if_neg hc, and_iff_right hc]

theorem classify_discovery_iff (s : SingleDwell) (targetMhz : Nat) :
    classifyF2StressDwell s targetMhz .powerDiscovery = .stable ↔
      s.cancelled = false ∧ s.crashed = false ∧ s.silentError = false ∧ s.stable = true ∧
        s.p95ClockMhz ≤ targetMhz + f2ClockCeilingTolMhz ∧ s.thermalThrottled = false ∧
        s.powerP99W.isSome = true ∧ targetMhz ≤ s.p5ClockMhz := by
  have hholds : holdsClock .powerDiscovery = false := rfl
  have hqualifies : isQualification .powerDiscovery = false := rfl
  unfold classifyF2StressDwell
  simp only [hholds, hqualifies, guarded_stable_iff, ne_eq, reduceCtorEq, not_false_eq_true,
    Bool.not_eq_true, Bool.false_eq_true, false_and, true_and, and_true, Nat.not_lt,
    Option.isNone_eq_false_iff, Bool.not_eq_false', f2ClockDropTolMhz, Nat.add_zero]

theorem classify_qualification_iff (s : SingleDwell) (targetMhz : Nat)
    {purpose : F2StressPurpose} (hpurpose : purpose ≠ .powerDiscovery) :
    classifyF2StressDwell s targetMhz purpose = .stable ↔
      s.cancelled = false ∧ s.crashed = false ∧ s.silentError = false ∧ s.stable = true ∧
        s.p95ClockMhz ≤ targetMhz + f2ClockCeilingTolMhz ∧
        (holdsClock purpose = true → s.thermalThrottled = true → targetMhz ≤ s.p5ClockMhz) ∧
        s.qualificationCoverage.any (fun coverage => coverage.verdict == .pass) = true ∧
        s.prehangStallDetected = false := by
  have hqualifies : isQualification purpose = true := by simp [isQualification, hpurpose]
  unfold classifyF2StressDwell
  generalize s.qualificationCoverage.any (fun coverage => coverage.verdict == .pass) = passed
  simp only [hpurpose, hqualifies, guarded_stable_iff, ne_eq, reduceCtorEq, not_false_eq_true,
    Bool.not_eq_true, false_and, true_and, and_true, Nat.not_lt, Bool.not_eq_false', not_and,
    Bool.not_eq_false, f2ClockDropTolMhz, Nat.add_zero]

section Dwell

variable {run : LoadRun} {purpose : RenderStressPurpose} {targetMhz : Nat}

/-- What a dwell with a context reads off its sampler. -/
structure ReadOff (run : LoadRun) (purpose : RenderStressPurpose) (targetMhz : Option Nat)
    (m : Measured) : Prop where
  result : m.result = run.result
  cancelled : m.cancelled = run.cancelled
  p5 : m.p5ClockMhz =
    (p5ClockMhz ((retained purpose run.ticks).map PhaseSample.clockMhz)).getD 0
  p95 : m.p95ClockMhz =
    (p95ClockMhz ((retained purpose run.ticks).map PhaseSample.clockMhz)).getD 0
  power : m.powerP99W =
    sustainedPowerPercentile ((retained purpose run.ticks).map PhaseSample.powerW)
  throttled : m.thermalThrottled =
    (retained purpose run.ticks).any PhaseSample.thermalThrottled
  voltCount : m.voltSampleCount =
    (voltageStats (voltageReads run.ticks)).elim 0 fun stats => stats.2.2.2
  voltMax : m.voltMaxMv = (voltageStats (voltageReads run.ticks)).map fun stats => stats.2.2.1
  coverage : m.qualificationCoverage =
    run.coverage purpose targetMhz (retained purpose run.ticks)
  prehang : m.prehangStallDetected = true ↔ Stalled run.ticks

theorem loadAndMeasureFor_readOff (purpose : RenderStressPurpose) (targetMhz : Option Nat)
    {provenance : F2EvidenceProvenance} (h : run.session = .ok provenance) :
    ReadOff run purpose targetMhz (loadAndMeasureFor run purpose targetMhz) := by
  unfold loadAndMeasureFor
  rw [h]
  simp only [runSampler_samples, runSampler_volts]
  split
  next hempty =>
    have hnil : retained purpose run.ticks = [] := List.isEmpty_iff.mp hempty
    have hpower : sustainedPowerPercentile [] = none := by simp [sustainedPowerPercentile]
    exact ⟨rfl, rfl, by rw [hnil]; rfl, by rw [hnil]; rfl, by rw [hnil]; exact hpower.symm,
      by rw [hnil]; rfl, rfl, rfl, rfl, runSampler_prehang⟩
  next => exact ⟨rfl, rfl, rfl, rfl, rfl, rfl, rfl, rfl, rfl, runSampler_prehang⟩

theorem clock_counts {kept : List PhaseSample} {t : Nat} :
    (kept.map PhaseSample.clockMhz).countP (· < t) =
        kept.countP (fun s => decide (s.clockMhz < t)) ∧
      (kept.map PhaseSample.clockMhz).countP (t < ·) =
        kept.countP (fun s => decide (t < s.clockMhz)) := by
  rw [List.countP_map, List.countP_map]
  exact ⟨rfl, rfl⟩

theorem ReadOff.p5_iff {targetMhz : Option Nat} {m : Measured}
    (h : ReadOff run purpose targetMhz m) (hne : retained purpose run.ticks ≠ []) {t : Nat} :
    t ≤ (singleDwellFromMeasured m).p5ClockMhz ↔
      20 * (retained purpose run.ticks).countP (fun s => decide (s.clockMhz < t)) <
        (retained purpose run.ticks).length := by
  have hclocks : (retained purpose run.ticks).map PhaseSample.clockMhz ≠ [] := by simpa using hne
  show t ≤ m.p5ClockMhz ↔ _
  rw [h.p5, le_p5_iff hclocks, clock_counts.1, List.length_map]

theorem ReadOff.p95_iff {targetMhz : Option Nat} {m : Measured}
    (h : ReadOff run purpose targetMhz m) (hne : retained purpose run.ticks ≠ []) {t : Nat} :
    (singleDwellFromMeasured m).p95ClockMhz ≤ t ↔
      20 * (retained purpose run.ticks).countP (fun s => decide (t < s.clockMhz)) <
        (retained purpose run.ticks).length := by
  have hclocks : (retained purpose run.ticks).map PhaseSample.clockMhz ≠ [] := by simpa using hne
  show m.p95ClockMhz ≤ t ↔ _
  rw [h.p95, p95_le_iff hclocks, clock_counts.2, List.length_map]

theorem result_stable_iff :
    run.result = .stable ↔ ∃ done, run.render = some done ∧ done.run.result = .stable := by
  unfold LoadRun.result
  cases run.render with
  | none => simp
  | some done => simp

theorem stable_flags {m : Measured} :
    ((singleDwellFromMeasured m).crashed = false ∧ (singleDwellFromMeasured m).silentError = false ∧
      (singleDwellFromMeasured m).stable = true) ↔ m.result = .stable := by
  unfold singleDwellFromMeasured
  cases m.result <;> simp

/-- A discovery dwell is stable exactly when the workload ended stable and was not cancelled, fewer
than one in twenty of the samples past the ramp are below the target and fewer than one in twenty
above its ceiling, none is throttled, one has a power, and three voltages or more were read, all of
them at or below the anchor. -/
theorem f2Dwell_discovery_stable_iff (run : LoadRun) (targetMhz anchorMv : Nat) :
    (f2Dwell run targetMhz .powerDiscovery anchorMv).map F2DwellResult.outcome = some .stable ↔
      run.cancelled = false ∧ run.session.isOk = true ∧
        (∃ done, run.render = some done ∧ done.run.result = .stable) ∧
        let kept := retained .powerCharacterization run.ticks
        20 * kept.countP (fun s => decide (s.clockMhz < targetMhz)) < kept.length ∧
          20 * kept.countP (fun s => decide (targetMhz + f2ClockCeilingTolMhz < s.clockMhz)) <
            kept.length ∧
          (∀ s ∈ kept, s.thermalThrottled = false) ∧
          (∃ s ∈ kept, usablePower s.powerW = true) ∧
          f2VoltageAuthorityMinSamples ≤ (voltageReads run.ticks).length ∧
          ∀ mv ∈ voltageReads run.ticks, mv ≤ anchorMv := by
  cases hsession : run.session with
  | error e =>
    refine iff_of_false ?_ fun h => absurd h.2.1 (by simp [Except.isOk, Except.toBool])
    simp [f2Dwell, f2DwellResult, loadAndMeasureFor, hsession, Measured.degenerate,
      singleDwellFromMeasured, classifyF2StressDwell, enforceVoltageAuthority]
  | ok provenance =>
    have hread := loadAndMeasureFor_readOff .powerCharacterization none hsession
    generalize hm : loadAndMeasureFor run .powerCharacterization none = m at hread
    simp only [f2Dwell, Option.map_some, Option.some.injEq]
    rw [hm, f2DwellResult, enforceVoltageAuthority_iff hread.voltCount hread.voltMax,
      classify_discovery_iff]
    have hpower : (singleDwellFromMeasured m).powerP99W.isSome = true ↔
        ∃ s ∈ retained .powerCharacterization run.ticks, usablePower s.powerW = true := by
      show m.powerP99W.isSome = true ↔ _
      rw [hread.power, sustainedPower_isSome_iff]
      simp [List.mem_map]
    have hthrottled : (singleDwellFromMeasured m).thermalThrottled = false ↔
        ∀ s ∈ retained .powerCharacterization run.ticks, s.thermalThrottled = false := by
      show m.thermalThrottled = false ↔ _
      rw [hread.throttled]
      simp
    have hcancelled : (singleDwellFromMeasured m).cancelled = run.cancelled := hread.cancelled
    have hresult : m.result = .stable ↔
        ∃ done, run.render = some done ∧ done.run.result = .stable := by
      rw [hread.result, result_stable_iff]
    rw [hpower, hthrottled, hcancelled, ← hresult, ← stable_flags]
    by_cases hempty : retained .powerCharacterization run.ticks = []
    · simp [hempty]
    · rw [hread.p5_iff hempty, hread.p95_iff hempty]
      constructor
      · rintro ⟨⟨hc, hcrashed, hsilent, hstable, hp95, hthrottle, hp, hp5⟩, hvolts, hanchor⟩
        exact ⟨hc, rfl, ⟨hcrashed, hsilent, hstable⟩, hp5, hp95, hthrottle, hp, hvolts, hanchor⟩
      · rintro ⟨hc, -, ⟨hcrashed, hsilent, hstable⟩, hp5, hp95, hthrottle, hp, hvolts, hanchor⟩
        exact ⟨⟨hc, hcrashed, hsilent, hstable, hp95, hthrottle, hp, hp5⟩, hvolts, hanchor⟩

/-- The coverage of the qualifier's own reports over these samples. -/
def LoadRun.qualifies (run : LoadRun) (targetMhz : Nat) (pattern : VfQualifierPattern)
    (samples : List PhaseSample) : Prop :=
  (coverageVerdict run.result (run.render.elim [] fun done => done.run.phaseReports) samples
    (some targetMhz) pattern run.powerLimitW
    (run.render.bind fun done => done.run.inconclusiveReason)).1 = .pass

/-- A passing coverage saw a phase. -/
theorem LoadRun.qualifies.sampled {pattern : VfQualifierPattern} {samples : List PhaseSample}
    (h : run.qualifies targetMhz pattern samples) : samples ≠ [] := by
  rintro rfl
  unfold qualifies coverageVerdict at h
  have hnone : phaseSampleCount [] = 0 := rfl
  revert h
  simp only [hnone, if_true]
  repeat' split
  all_goals exact F2QualificationVerdict.noConfusion

/-- A qualification dwell is stable exactly when the workload ended stable and was not cancelled,
its reports and samples pass the coverage, fewer than one sample in twenty is above the ceiling of
the target, a throttled one does not let a pattern that holds its clock sag, no turn stalled, and
three voltages or more were read, all of them at or below the anchor. -/
theorem f2Dwell_qualification_stable_iff (run : LoadRun) (targetMhz anchorMv : Nat)
    {purpose : F2StressPurpose} {pattern : VfQualifierPattern}
    (hpattern : qualifierPattern purpose = some pattern) :
    (f2Dwell run targetMhz purpose anchorMv).map F2DwellResult.outcome = some .stable ↔
      run.cancelled = false ∧ run.session.isOk = true ∧
        (∃ done, run.render = some done ∧ done.run.result = .stable) ∧
        let kept := run.ticks.filterMap SamplerTick.sample
        run.qualifies targetMhz pattern kept ∧
          20 * kept.countP (fun s => decide (targetMhz + f2ClockCeilingTolMhz < s.clockMhz)) <
            kept.length ∧
          (holdsClock purpose = true → (∃ s ∈ kept, s.thermalThrottled = true) →
            20 * kept.countP (fun s => decide (s.clockMhz < targetMhz)) < kept.length) ∧
          ¬ Stalled run.ticks ∧
          f2VoltageAuthorityMinSamples ≤ (voltageReads run.ticks).length ∧
          ∀ mv ∈ voltageReads run.ticks, mv ≤ anchorMv := by
  obtain ⟨goldens, hdwell⟩ : ∃ goldens, f2Dwell run targetMhz purpose anchorMv =
      (some (loadAndMeasureFor run (.vfQualification pattern goldens) (some targetMhz))).map
        (f2DwellResult targetMhz purpose anchorMv) := by
    cases purpose with
    | powerDiscovery => exact absurd hpattern (by simp [qualifierPattern])
    | v8Qualification p goldens => exact ⟨goldens, by rw [f2Dwell, hpattern]; rfl⟩
    | applyQualification p goldens => exact ⟨goldens, by rw [f2Dwell, hpattern]; rfl⟩
  have hpurpose : purpose ≠ .powerDiscovery := by
    rintro rfl
    exact absurd hpattern (by simp [qualifierPattern])
  have hkept : retained (.vfQualification pattern goldens) run.ticks =
      run.ticks.filterMap SamplerTick.sample := rfl
  rw [hdwell]
  cases hsession : run.session with
  | error e =>
    refine iff_of_false ?_ fun h => absurd h.2.1 (by simp [Except.isOk, Except.toBool])
    simp [f2DwellResult, loadAndMeasureFor, hsession, Measured.degenerate,
      singleDwellFromMeasured, classifyF2StressDwell, enforceVoltageAuthority]
  | ok provenance =>
    have hread :=
      loadAndMeasureFor_readOff (.vfQualification pattern goldens) (some targetMhz) hsession
    generalize loadAndMeasureFor run (.vfQualification pattern goldens) (some targetMhz) = m
      at hread ⊢
    have hcancelled : (singleDwellFromMeasured m).cancelled = run.cancelled := hread.cancelled
    have hprehang : (singleDwellFromMeasured m).prehangStallDetected = false ↔
        ¬ Stalled run.ticks := by
      rw [← hread.prehang, Bool.not_eq_true]
      rfl
    have hthrottled : (singleDwellFromMeasured m).thermalThrottled = true ↔
        ∃ s ∈ run.ticks.filterMap SamplerTick.sample, s.thermalThrottled = true := by
      show m.thermalThrottled = true ↔ _
      rw [hread.throttled, hkept, List.any_eq_true]
    have hcoverage : (singleDwellFromMeasured m).qualificationCoverage.any
        (fun coverage => coverage.verdict == .pass) = true ↔
        run.qualifies targetMhz pattern (run.ticks.filterMap SamplerTick.sample) := by
      show m.qualificationCoverage.any _ = true ↔ _
      rw [hread.coverage, hkept]
      exact beq_iff_eq
    have hresult : m.result = .stable ↔
        ∃ done, run.render = some done ∧ done.run.result = .stable := by
      rw [hread.result, result_stable_iff]
    simp only [Option.map_some, Option.some.injEq]
    rw [f2DwellResult, enforceVoltageAuthority_iff hread.voltCount hread.voltMax,
      classify_qualification_iff _ _ hpurpose, hcancelled, hprehang, hthrottled, hcoverage,
      ← hresult, ← stable_flags]
    constructor
    · rintro ⟨⟨hc, hcrashed, hsilent, hstable, hp95, hheld, hpass, hstall⟩, hvolts, hanchor⟩
      have hne := hkept ▸ hpass.sampled
      exact ⟨hc, rfl, ⟨hcrashed, hsilent, hstable⟩, hpass, (hread.p95_iff hne).mp hp95,
        fun hholds hthrottle => (hread.p5_iff hne).mp (hheld hholds hthrottle), hstall, hvolts,
        hanchor⟩
    · rintro ⟨hc, -, ⟨hcrashed, hsilent, hstable⟩, hpass, hp95, hheld, hstall, hvolts, hanchor⟩
      have hne := hkept ▸ hpass.sampled
      exact ⟨⟨hc, hcrashed, hsilent, hstable, (hread.p95_iff hne).mpr hp95,
        fun hholds hthrottle => (hread.p5_iff hne).mpr (hheld hholds hthrottle), hpass, hstall⟩,
        hvolts, hanchor⟩

/-- Twelve seconds past the ramp at the target clock, and a workload that ends stable with all its
segments checked. Of the three voltages the last is 5 mV above the anchor. -/
def overAnchorRun : LoadRun where
  session := .ok {}
  powerLimitW := some 250
  ticks := (List.range 48).map fun i =>
    { reading := some ⟨some 2700, some 212, some false, some 61, some false⟩
      atMs := 6000 + 250 * i
      phaseCode := i % VfQualifierPhase.count
      voltageMv := some (if i < 40 then 900 else 905)
      voltageAtMs := 6000 + 250 * i }
  render := some
    { run := (runVfQualifierStress 18000 .v8Texture (fun _ => false) fun _ =>
        { run := { result := .stable, frames := 40, checksumCount := 20, elapsedMs := 1400 }
          worker := none }).result
      fps := 30 }
  cancelled := false
  durationMs := 18000

def textureGoldens : RenderGoldens := ⟨1, 2, 3, 4, 5, 6, 16, 2000, ⟨7, 0, 2000⟩⟩

theorem f2Dwell_qualification_over_anchor :
    (overAnchorRun.ticks.filterMap SamplerTick.sample).length = 48 ∧
      overAnchorRun.result = .stable ∧ voltageReads overAnchorRun.ticks = [900, 900, 905] ∧
      (f2Dwell overAnchorRun 2700 (.v8Qualification .texture textureGoldens) 900).map
        F2DwellResult.outcome ≠ some .stable := by
  have hreads : voltageReads overAnchorRun.ticks = [900, 900, 905] := by decide
  refine ⟨rfl, rfl, hreads, fun h => ?_⟩
  have hiff := f2Dwell_qualification_stable_iff overAnchorRun 2700 900
    (rfl : qualifierPattern (.v8Qualification .texture textureGoldens) = some .v8Texture)
  obtain ⟨-, -, -, -, -, -, -, -, hanchor⟩ := hiff.mp h
  rw [hreads] at hanchor
  exact absurd (hanchor 905 (by decide)) (by decide)

end Dwell

end Nidavellir.LoadMeasure

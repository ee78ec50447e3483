import Nidavellir.F2Observation
import Nidavellir.FieldCanary

namespace Nidavellir.VfQualifier

/-- What the devices do during one segment. -/
structure SegmentOutcome where
  run : RenderRun
  worker : CanaryWorker

/-- A compute stage as a segment reports it. -/
def stageSegment (phase : VfQualifierPhase) (run : RenderRun) : RenderResult where
  result := run.result
  frames := 0
  failurePhase := if run.result ≠ .stable then some phase else none
  inconclusiveReason := none
  phaseReports :=
    [{ phase := phase, result := run.result, frames := 0, checksumCount := 1
       elapsedMs := run.elapsedMs }]

def runSegment (segment : VfQualifierSegment) (outcome : SegmentOutcome) : RenderResult :=
  match segment.workload with
  | .computeBurst | .vramPressure => stageSegment segment.phase outcome.run
  | .compositeGameLoad =>
    runFieldConcurrencyProfile segment.durationMs segment.phase
      (runRenderProfile (some segment.phase) outcome.run) outcome.worker
  | _ => runRenderProfile (some segment.phase) outcome.run

/-- The result, and the calls of the segment hook in their order. -/
structure QualifierRun where
  result : RenderResult
  hooks : List (Nat × VfQualifierPhase × Nat)

def hookOf (entry : VfQualifierSegment × Nat) : Nat × VfQualifierPhase × Nat :=
  (entry.2, entry.1.phase, entry.1.durationMs)

/-- The loop over the plan; `play` says what a segment comes to, `cancelled` what the token says
before it. -/
def runSegments (cancelled : Nat → Bool) (play : Nat → VfQualifierSegment → RenderResult) :
    Nat → List VfQualifierSegment → Nat → List VfPhaseReport → QualifierRun
  | _, [], frames, reports =>
    { result :=
        { result := .stable, frames := frames, failurePhase := none, inconclusiveReason := none
          phaseReports := reports }
      hooks := [] }
  | index, segment :: rest, frames, reports =>
    if cancelled index then
      { result :=
          { result := .stable, frames := frames, failurePhase := none, inconclusiveReason := none
            phaseReports := reports }
        hooks := [] }
    else
      let result := play index segment
      let frames := saturatingAdd64 frames result.frames
      let reports := reports ++ result.phaseReports
      if result.result ≠ .stable then
        { result :=
            { result := result.result, frames := frames
              failurePhase := result.failurePhase.or (some segment.phase)
              inconclusiveReason := none, phaseReports := reports }
          hooks := [hookOf (segment, index)] }
      else
        match result.inconclusiveReason with
        | some reason =>
          { result :=
              { result := .stable, frames := frames, failurePhase := none
                inconclusiveReason := some reason, phaseReports := reports }
            hooks := [hookOf (segment, index)] }
        | none =>
          let later := runSegments cancelled play (index + 1) rest frames reports
          { later with hooks := hookOf (segment, index) :: later.hooks }

def runVfQualifierStress (targetMs : Nat) (pattern : VfQualifierPattern)
    (cancelled : Nat → Bool) (outcome : Nat → SegmentOutcome) : QualifierRun :=
  runSegments cancelled (fun index segment => runSegment segment (outcome index)) 0
    (vfQualifierPlan targetMs pattern) 0 []

structure PhaseSample where
  clockMhz : Nat
  powerW : Float32
  powerCapped : Bool
  temperatureC : Option Float32
  phaseCode : Nat
  thermalThrottled : Bool

namespace PhaseSample

def phase (self : PhaseSample) : Option VfQualifierPhase :=
  VfQualifierPhase.fromCode self.phaseCode

end PhaseSample

def f2QualifierTargetTolMhz : Nat := 0
def f2QualifierTargetResidencyMin : Float32 := 0.35
def f2QualifierBoostEdgeMinSamples : Nat := 20
def f2QualifierNearCapRatio : Float32 := 0.99

def avgPowerForPhases (samples : List PhaseSample) (phases : List VfQualifierPhase) :
    Option Float32 :=
  let matching := samples.filter fun sample => sample.phase.any (phases.contains ·)
  if matching.isEmpty then none
  else some (matching.foldl (fun total sample => total + sample.powerW) 0 /
    matching.length.toFloat32)

def pctIndex (length : Nat) (pct : Float) : Nat :=
  ((length - 1).toFloat * pct).round.toUInt64.toNat

def pctU32 (values : List Nat) (pct : Float) : Option Nat :=
  if values.isEmpty then none
  else (values.mergeSort fun a b => decide (a ≤ b))[pctIndex values.length pct]?

def pctF32 (values : List Float32) (pct : Float) : Option Float32 :=
  if values.isEmpty then none
  else (values.mergeSort fun a b => !decide (b < a))[pctIndex values.length pct]?

def avgF32 (values : List Float32) : Option Float32 :=
  if values.isEmpty then none
  else some (values.foldl (· + ·) 0 / values.length.toFloat32)

/-- `reduce` by a float operation. -/
def reduceF32 (op : Float32 → Float32 → Float32) : List Float32 → Option Float32
  | [] => none
  | first :: rest => some (rest.foldl op first)

/-- `f32::max` and `f32::min` prefer the operand that is a number. -/
def maxF32 (a b : Float32) : Float32 :=
  if a.isNaN then b else if b.isNaN then a else if a < b then b else a

def minF32 (a b : Float32) : Float32 :=
  if a.isNaN then b else if b.isNaN then a else if b < a then b else a

def currentTextureContract (pattern : VfQualifierPattern) : Bool :=
  pattern == .v8Texture || pattern == .endurance

def qualifierPowerContrast (samples : List PhaseSample) (pattern : VfQualifierPattern) :
    Option Float32 :=
  let pair :=
    if currentTextureContract pattern then
      let heavy : List VfQualifierPhase :=
        [.compositeGameLoad, .mixedGame, .frameCadence, .textureRop, .vramPressure, .heavySpike,
         .powerOpening, .powerClosing]
      let light : List VfQualifierPhase := [.idlePulse, .boostEdge]
      (reduceF32 maxF32 (heavy.filterMap fun phase => avgPowerForPhases samples [phase]),
       reduceF32 minF32 (light.filterMap fun phase => avgPowerForPhases samples [phase]))
    else
      (avgPowerForPhases samples [.powerOpening, .heavySpike, .powerClosing],
       avgPowerForPhases samples [.boostEdge])
  pair.1.bind fun heavy => pair.2.map fun light => heavy - light

def f2PatternFromStress :
    VfQualifierPattern → F2QualificationStrength × Option F2QualificationPattern × String
  | .fsgl1 => (.fsgl1, none, "fsgl1")
  | .fsgl2A => (.fsgl2, some .a, "fsgl2-a")
  | .fsgl2B => (.fsgl2, some .b, "fsgl2-b")
  | .fsgl3A => (.fsgl3, some .a, "fsgl3-a")
  | .fsgl3B => (.fsgl3, some .b, "fsgl3-b")
  | .v8HighFps => (.fsgl4, some .highFps, "v8-high-fps")
  | .v8Texture => (.fsgl4, some .texture, "v13-texture-hop")
  | .v8Transitions => (.fsgl4, some .transitions, "v8-transitions")
  | .v8Memory => (.fsgl4, some .memory, "v8-memory")
  | .endurance => (.fsgl4, some .endurance, "endurance")
  | .transitionShock => (.fsgl4, some .transitionShock, "transition-shock")
  | .detectorLabDense => (.fsgl4, some .texture, "detector-lab-v14-dense")

def phaseMetric (phasePattern : String) (samples : List PhaseSample) (targetMhz : Option Nat)
    (report : VfPhaseReport) : F2QualificationPhaseMetric :=
  let phaseSamples := samples.filter fun sample => sample.phase = some report.phase
  let count := phaseSamples.length.toFloat32
  let clocks := phaseSamples.map PhaseSample.clockMhz
  let powers := phaseSamples.map PhaseSample.powerW
  let temperatures := phaseSamples.filterMap PhaseSample.temperatureC
  { phaseName := report.phase.label
    phasePattern := phasePattern
    durationMs := report.elapsedMs
    frameCount := report.frames
    checksumCount := report.checksumCount
    computeCheckCount := if report.phase = .computeBurst then report.checksumCount else 0
    clockAvg :=
      if clocks.isEmpty then none
      else some ((clocks.map Nat.toFloat32).foldl (· + ·) 0 / clocks.length.toFloat32)
    clockP5 := pctU32 clocks 0.05
    clockP50 := pctU32 clocks 0.50
    clockP95 := pctU32 clocks 0.95
    targetResidencyPct := targetMhz.bind fun target =>
      if phaseSamples.isEmpty then none
      else some ((phaseSamples.countP fun sample =>
        decide (target - f2QualifierTargetTolMhz ≤ sample.clockMhz)).toFloat32 * 100 / count)
    powerAvg := avgF32 powers
    powerP95 := pctF32 powers 0.95
    powerCappedFraction :=
      if phaseSamples.isEmpty then none
      else some ((phaseSamples.countP PhaseSample.powerCapped).toFloat32 / count)
    temperatureAvg := avgF32 temperatures
    temperatureMax := pctF32 temperatures 1.0
    coverageStatus :=
      if !report.result.isStable then "fail"
      else if phaseSamples.isEmpty then "telemetry_missing"
      else if report.checksumCount = 0 then "checksum_missing"
      else "pass" }

def phasesCompleted (phaseReports : List VfPhaseReport) : Nat :=
  seenCount fun phase =>
    phaseReports.any fun report => report.phase == phase && report.result.isStable

def checksumTotal (phaseReports : List VfPhaseReport) : Nat :=
  phaseReports.foldl (fun total report => saturatingAdd total report.checksumCount) 0

def computeCheckTotal (phaseReports : List VfPhaseReport) : Nat :=
  checksumTotal (phaseReports.filter fun report => report.phase == .computeBurst)

def phaseSampleCount (samples : List PhaseSample) : Nat :=
  samples.countP fun sample => sample.phase.isSome

def targetResidencyFrac (samples : List PhaseSample) (targetMhz : Option Nat) : Option Float32 :=
  targetMhz.bind fun target =>
    let phased := samples.filter fun sample => sample.phase.isSome
    if phased.isEmpty then none
    else some ((phased.countP fun sample =>
      decide (target - f2QualifierTargetTolMhz ≤ sample.clockMhz)).toFloat32 /
        phased.length.toFloat32)

def boostSamples (samples : List PhaseSample) : List PhaseSample :=
  samples.filter fun sample => sample.phase = some .boostEdge

def boostPowerBound (samples : List PhaseSample) (powerLimitW : Option Float32) : Bool :=
  let boost := boostSamples samples
  match powerLimitW.filter fun limit => limit.isFinite && decide (0 < limit) with
  | some limit =>
    (pctF32 (boost.map PhaseSample.powerW) 0.95).any fun power =>
      decide (limit * f2QualifierNearCapRatio ≤ power)
  | none =>
    !boost.isEmpty && decide (0.20 <
      (boost.countP PhaseSample.powerCapped).toFloat32 / boost.length.toFloat32)

/-- The verdict and its reason. -/
def coverageVerdict (result : StabilityResult) (phaseReports : List VfPhaseReport)
    (samples : List PhaseSample) (targetMhz : Option Nat) (pattern : VfQualifierPattern)
    (powerLimitW : Option Float32) (inconclusiveReason : Option String) :
    F2QualificationVerdict × Option String :=
  let expectedPhases := qualifierExpectedPhases pattern
  match inconclusiveReason with
  | some reason => (.inconclusive, some reason)
  | none =>
    if !result.isStable then (.fail, some "workload_failed")
    else if phasesCompleted phaseReports < expectedPhases then
      (.inconclusive, some "phase_not_completed")
    else if checksumTotal phaseReports < expectedPhases then
      (.inconclusive, some "checksum_coverage_low")
    else if phaseSampleCount samples = 0 then (.inconclusive, some "telemetry_missing")
    else if (targetResidencyFrac samples targetMhz).any fun frac =>
        decide (frac < f2QualifierTargetResidencyMin) then
      (.inconclusive, some "target_residency_low")
    else if currentTextureContract pattern &&
        decide ((boostSamples samples).length < f2QualifierBoostEdgeMinSamples) then
      (.inconclusive, some "boost_edge_telemetry_low")
    else if boostPowerBound samples powerLimitW then
      (.inconclusive, some "boost_edge_power_bound")
    else if (qualifierPowerContrast samples pattern).any fun delta => decide (delta < 3.0) then
      (.inconclusive, some "phase_contrast_low")
    else (.pass, none)

def qualificationCoverageFromRun (result : StabilityResult) (phaseReports : List VfPhaseReport)
    (samples : List PhaseSample) (targetMhz : Option Nat) (pattern : VfQualifierPattern)
    (powerLimitW : Option Float32) (inconclusiveReason : Option String) :
    F2QualificationCoverage :=
  let (strength, qualifierPattern, phasePattern) := f2PatternFromStress pattern
  let (verdict, reason) :=
    coverageVerdict result phaseReports samples targetMhz pattern powerLimitW inconclusiveReason
  { strength := strength
    pattern := qualifierPattern
    passIndex := 0
    verdict := verdict
    phasesCompleted := phasesCompleted phaseReports
    phasesExpected := qualifierExpectedPhases pattern
    checksumCount := checksumTotal phaseReports
    sampleCount := phaseSampleCount samples
    computeCheckCount := computeCheckTotal phaseReports
    targetResidencyFrac := targetResidencyFrac samples targetMhz
    heavyLightPowerDeltaW := qualifierPowerContrast samples pattern
    failurePhase :=
      (phaseReports.find? fun report => !report.result.isStable).map fun report =>
        report.phase.label
    retryCount := 0
    reason := reason
    phaseMetrics := phaseReports.map (phaseMetric phasePattern samples targetMhz) }

end Nidavellir.VfQualifier

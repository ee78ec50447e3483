import Nidavellir.GpuSweep

namespace Nidavellir

namespace MemSweep

structure MemSweepPoint where
  offsetMhz : Int
  memMhz : Nat
  bandwidthGbps : ℚ
  minGbps : ℚ
  stable : Bool

structure MemSweepProgress where
  phase : SweepPhase := .idle
  running : Bool := false
  currentOffsetMhz : Int := 0
  currentMemMhz : Nat := 0
  currentGbps : ℚ := 0
  baselineGbps : ℚ := 0
  points : List MemSweepPoint := []
  peakOffsetMhz : Int := 0
  peakGbps : ℚ := 0
  validationNote : Option String := none

/-- What one step of the climb meets. `chase` is `none` where the load panics. -/
structure ClimbAnswer where
  stop : Bool
  armed : Bool
  set : Bool
  chase : Option StabilityResult
  peak : ℚ
  minbw : ℚ
  memMhz : Nat

structure SoakAnswer where
  armed : Bool
  set : Bool
  combined : Option StabilityResult
  setZero : Bool
  recovered : Bool
  peak : ℚ
  minbw : ℚ

/-- A climb tries each offset once, and so do the soaks. -/
structure MemSweepAnswers where
  ctx : Except String Unit
  resetFirst : Bool
  baseline : ℚ
  climb : Int → ClimbAnswer
  stopAfterClimb : Bool
  soak : Int → SoakAnswer
  resetLast : Bool

/-- A combined soak, as it came out. -/
structure Soak where
  offsetMhz : Int
  result : StabilityResult
  consistency : ℚ

def Soak.passes (self : Soak) : Prop := self.result = .stable ∧ 96 / 100 ≤ self.consistency

/-- The progress that is published last, with what was done on the way. -/
structure MemSweepRun where
  prog : MemSweepProgress := {}
  crashed : Bool := false
  events : List LegacyEvent := []
  soaks : List Soak := []

def MemSweepRun.log (s : MemSweepRun) (e : LegacyEvent) : MemSweepRun :=
  { s with events := s.events ++ [e] }

def step : Int := 50

def cap : Int := 1500

def memIntent (offset : Int) : TuningPoint := .fromAxes [("gpu_mem_offset_mhz", offset)]

/-- One step of the climb, and whether the next one follows. -/
def climbStep (a : ClimbAnswer) (offset : Int) (s : MemSweepRun) : MemSweepRun × Bool :=
  let s := (s.log (.armBootFlag (memIntent offset) "gpu_mem_sweep" a.armed)).log
    (.setMemOffsetMhz offset a.set)
  if !a.set then (s, false)
  else
    let integ := caught a.chase
    let crashed := s.crashed || a.chase.isNone
    let s := s.log .load
    let s := if crashed then s else s.log .load
    let (peak, minbw) := if crashed then (0, 0) else (a.peak, a.minbw)
    let consistent := decide (93 / 100 ≤ bandwidthConsistency peak minbw)
    let stable := integ.isStable && !crashed && decide (0 < peak) && consistent
    let s := if stable then s.log .clearBootFlag else s
    let s := { s with
      crashed
      prog := { s.prog with
        currentOffsetMhz := offset
        currentMemMhz := a.memMhz
        currentGbps := peak
        validationNote := none
        points := s.prog.points ++ [⟨offset, a.memMhz, peak, minbw, stable⟩] } }
    -- artifacts or a lost device, then the onset of the retries: the last clean clock stays
    if !integ.isStable || crashed then (s, false)
    else if !consistent then (s, false)
    else ({ s with prog := { s.prog with peakGbps := peak, peakOffsetMhz := offset } }, true)

def climb (climbs : Int → ClimbAnswer) (offset : Int) (s : MemSweepRun) : MemSweepRun :=
  if (climbs offset).stop then s
  else
    match climbStep (climbs offset) offset s with
    | (s, false) => s
    | (s, true) => if cap < offset + step then s else climb climbs (offset + step) s
termination_by (cap - offset).toNat
decreasing_by
  simp only [cap, step] at *
  omega

/-- One combined soak, and whether the next one follows, two steps below. -/
def soakStep (a : SoakAnswer) (off : Int) (s : MemSweepRun) : MemSweepRun × Bool :=
  let s := { s with prog := { s.prog with
    validationNote := some s!"Soak combinado (core+mem) em +{off} MHz…" } }
  let s := ((s.log (.armBootFlag (memIntent off) "gpu_mem_validate" a.armed)).log
    (.setMemOffsetMhz off a.set)).log .load
  let comb := caught a.combined
  if comb = .crash then
    let s := { s.log (.setMemOffsetMhz 0 a.setZero) with soaks := s.soaks ++ [Soak.mk off comb 0] }
    if a.recovered then
      ({ s with prog := { s.prog with peakOffsetMhz := max (off - 2 * step) 0 } }, true)
    else
      ({ s with
          crashed := true
          prog := { s.prog with validationNote := some "GPU não recuperou no soak — pare" } },
        false)
  else
    let consistency := bandwidthConsistency a.peak a.minbw
    let s := { s.log .load with soaks := s.soaks ++ [Soak.mk off comb consistency] }
    if comb.isStable && decide (96 / 100 ≤ consistency) then
      ({ s.log .clearBootFlag with prog := { s.prog with
          peakOffsetMhz := off
          validationNote := some (s!"Validado: +{off} MHz sob carga combinada core+mem — " ++
            "confirme em jogo") } }, false)
    else
      ({ s with prog := { s.prog with peakOffsetMhz := max (off - 2 * step) 0 } }, true)

def soakLoop (soaks : Int → SoakAnswer) (off : Int) (s : MemSweepRun) : MemSweepRun :=
  if off ≤ 0 then
    { s with prog := { s.prog with
        validationNote := some "Sem offset de memória estável sob carga combinada" } }
  else
    match soakStep (soaks off) off s with
    | (s, false) => s
    | (s, true) => soakLoop soaks (off - 2 * step) s
termination_by off.toNat
decreasing_by
  simp only [step]
  omega

def runMemSweep (a : MemSweepAnswers) : MemSweepRun :=
  match a.ctx with
  | .error _ => {}
  | .ok () =>
    let s : MemSweepRun := {
      prog := {
        running := true
        phase := .voltageBisection
        baselineGbps := a.baseline
        peakGbps := a.baseline }
      events := [.resetAll a.resetFirst, .load] }
    let s := climb a.climb step s
    let s :=
      if !s.crashed && !a.stopAfterClimb && decide (0 < s.prog.peakOffsetMhz) then
        soakLoop a.soak s.prog.peakOffsetMhz s
      else s
    let s := (s.log (.resetAll a.resetLast)).log .clearBootFlag
    { s with prog := { s.prog with
        running := false
        currentOffsetMhz := 0
        phase := if s.crashed then .aborted else .done } }

/-- The step is clean: its offset becomes the peak. -/
def ClimbAnswer.Passes (a : ClimbAnswer) : Prop :=
  a.set = true ∧ a.chase = some .stable ∧ 93 / 100 ≤ bandwidthConsistency a.peak a.minbw

/-- The climb from `off` ends with the peak `p`. -/
inductive ClimbsTo (climbs : Int → ClimbAnswer) : Int → Int → Prop
  | stays {off : Int} (h : (climbs off).stop = true ∨ ¬ (climbs off).Passes) :
    ClimbsTo climbs off (off - step)
  | top {off : Int} (go : (climbs off).stop = false) (h : (climbs off).Passes)
    (hcap : cap < off + step) : ClimbsTo climbs off off
  | next {off p : Int} (go : (climbs off).stop = false) (h : (climbs off).Passes)
    (hcap : off + step ≤ cap) (later : ClimbsTo climbs (off + step) p) : ClimbsTo climbs off p

/-- The climb from `off` ends in a panic. -/
inductive ClimbPanics (climbs : Int → ClimbAnswer) : Int → Prop
  | here {off : Int} (go : (climbs off).stop = false) (hset : (climbs off).set = true)
    (h : (climbs off).chase = none) : ClimbPanics climbs off
  | later {off : Int} (go : (climbs off).stop = false) (h : (climbs off).Passes)
    (hcap : off + step ≤ cap) (later : ClimbPanics climbs (off + step)) : ClimbPanics climbs off

/-- The soak lost the device for good. -/
def SoakAnswer.Lost (a : SoakAnswer) : Prop := caught a.combined = .crash ∧ a.recovered = false

def SoakAnswer.Passes (a : SoakAnswer) : Prop :=
  caught a.combined = .stable ∧ 96 / 100 ≤ bandwidthConsistency a.peak a.minbw

/-- The soaks from `off` down end with a device that does not come back. -/
inductive SoakLost (soaks : Int → SoakAnswer) : Int → Prop
  | here {off : Int} (hpos : 0 < off) (h : (soaks off).Lost) : SoakLost soaks off
  | later {off : Int} (hpos : 0 < off) (hlost : ¬ (soaks off).Lost) (h : ¬ (soaks off).Passes)
    (later : SoakLost soaks (off - 2 * step)) : SoakLost soaks off

/-- A peak was found, and no way out of the sweep left it behind. -/
def PeakSettled (a : MemSweepAnswers) : Prop :=
  a.ctx = .ok () → ∀ p, ClimbsTo a.climb step p → 0 < p →
    ¬ ClimbPanics a.climb step ∧ a.stopAfterClimb = false ∧ ¬ SoakLost a.soak p

/-- The peak is zero, or the last soak at its offset passed. -/
def PeakValidated (r : MemSweepRun) : Prop :=
  r.prog.peakOffsetMhz = 0 ∨ ∃ before soak after, r.soaks = before ++ soak :: after ∧
    soak.offsetMhz = r.prog.peakOffsetMhz ∧ soak.passes ∧
      ∀ s ∈ after, s.offsetMhz ≠ r.prog.peakOffsetMhz

variable {climbs : Int → ClimbAnswer} {soaks : Int → SoakAnswer} {off : Int} {s : MemSweepRun}

theorem ClimbAnswer.Passes.peak_pos {a : ClimbAnswer} (h : a.Passes) : 0 < a.peak := by
  by_contra hpeak
  have hbandwidth := h.2.2
  unfold bandwidthConsistency at hbandwidth
  rw [if_neg hpeak] at hbandwidth
  norm_num at hbandwidth

/-- The loads of a step that set its offset: none behind a panic but the one that panicked. -/
def ClimbAnswer.loads (a : ClimbAnswer) : List LegacyEvent :=
  if a.set then .load :: (if a.chase.isNone then [] else [.load]) else []

def climbEvents (a : ClimbAnswer) (off : Int) : List LegacyEvent :=
  .armBootFlag (memIntent off) "gpu_mem_sweep" a.armed :: .setMemOffsetMhz off a.set :: a.loads

/-- A clean step moves the peak and clears the flag, and the climb goes on. -/
theorem climbStep_passes {a : ClimbAnswer} (off : Int) (h : a.Passes) (hs : s.crashed = false) :
    (climbStep a off s).2 = true ∧ (climbStep a off s).1.prog.peakOffsetMhz = off ∧
      (climbStep a off s).1.crashed = false ∧ (climbStep a off s).1.soaks = s.soaks ∧
        (climbStep a off s).1.events = s.events ++ climbEvents a off ++ [.clearBootFlag] := by
  have hpeak := h.peak_pos
  obtain ⟨hset, hchase, hbandwidth⟩ := h
  unfold climbStep climbEvents ClimbAnswer.loads
  simp [MemSweepRun.log, hset, hchase, hs, caught, StabilityResult.isStable, hbandwidth, hpeak]

/-- Any other step ends the climb at the peak that it found. -/
theorem climbStep_ends {a : ClimbAnswer} (off : Int) (h : ¬ a.Passes) (hs : s.crashed = false) :
    (climbStep a off s).2 = false ∧
      (climbStep a off s).1.prog.peakOffsetMhz = s.prog.peakOffsetMhz ∧
      (climbStep a off s).1.crashed = (a.set && a.chase.isNone) ∧
      (climbStep a off s).1.soaks = s.soaks ∧
        (climbStep a off s).1.events = s.events ++ climbEvents a off := by
  unfold climbStep climbEvents ClimbAnswer.loads
  cases hset : a.set with
  | false => simp [MemSweepRun.log, hs]
  | true =>
    cases hchase : a.chase with
    | none => simp [MemSweepRun.log, hs, caught, StabilityResult.isStable]
    | some result =>
      by_cases hresult : result = .stable
      · have hbandwidth : ¬ 93 / 100 ≤ bandwidthConsistency a.peak a.minbw := by
          intro hbandwidth
          rw [hresult] at hchase
          exact h ⟨hset, hchase, hbandwidth⟩
        simp [MemSweepRun.log, hs, caught, StabilityResult.isStable, hresult, hbandwidth]
      · simp [MemSweepRun.log, hs, caught, StabilityResult.isStable, hresult]

theorem climb_stop (hstop : (climbs off).stop = true) : climb climbs off s = s := by
  rw [climb, if_pos hstop]

theorem climb_ends (hgo : (climbs off).stop = false)
    (h : (climbStep (climbs off) off s).2 = false) :
    climb climbs off s = (climbStep (climbs off) off s).1 := by
  rw [climb, hgo]
  generalize climbStep (climbs off) off s = answer at h ⊢
  obtain ⟨s', go⟩ := answer
  obtain rfl : go = false := h
  rfl

theorem climb_goes_on (hgo : (climbs off).stop = false)
    (h : (climbStep (climbs off) off s).2 = true) :
    climb climbs off s =
      if cap < off + step then (climbStep (climbs off) off s).1
      else climb climbs (off + step) (climbStep (climbs off) off s).1 := by
  rw [climb, hgo]
  generalize climbStep (climbs off) off s = answer at h ⊢
  obtain ⟨s', go⟩ := answer
  obtain rfl : go = true := h
  rfl

theorem climbPanics_iff :
    ClimbPanics climbs off ↔ (climbs off).stop = false ∧
      ((climbs off).set = true ∧ (climbs off).chase = none ∨
        (climbs off).Passes ∧ off + step ≤ cap ∧ ClimbPanics climbs (off + step)) := by
  constructor
  · intro h
    cases h with
    | here go hset hchase => exact ⟨go, .inl ⟨hset, hchase⟩⟩
    | later go hpass hcap hlater => exact ⟨go, .inr ⟨hpass, hcap, hlater⟩⟩
  · rintro ⟨go, ⟨hset, hchase⟩ | ⟨hpass, hcap, hlater⟩⟩
    · exact .here go hset hchase
    · exact .later go hpass hcap hlater

/-- The climb finds the peak of its answers, and crashes just when one of its steps panics. -/
theorem climb_spec (climbs : Int → ClimbAnswer) (off : Int) (s : MemSweepRun)
    (hs : s.crashed = false) (hpeak : s.prog.peakOffsetMhz = off - step) :
    ClimbsTo climbs off (climb climbs off s).prog.peakOffsetMhz ∧
      ((climb climbs off s).crashed = true ↔ ClimbPanics climbs off) ∧
        (climb climbs off s).soaks = s.soaks := by
  induction hn : (cap - off).toNat using Nat.strong_induction_on generalizing off s with
  | _ n ih =>
    cases hstop : (climbs off).stop with
    | true =>
      rw [climb_stop hstop, hpeak, hs, climbPanics_iff, hstop]
      exact ⟨.stays (.inl hstop), by simp, rfl⟩
    | false =>
      by_cases hpass : (climbs off).Passes
      · obtain ⟨hon, hat, hsound, hsoaks, -⟩ := climbStep_passes off hpass hs
        have hchase : (climbs off).chase ≠ none := by simp [hpass.2.1]
        rw [climb_goes_on hstop hon, climbPanics_iff]
        by_cases hcap : cap < off + step
        · rw [if_pos hcap, hat, hsound, hsoaks]
          refine ⟨.top hstop hpass hcap, ?_, rfl⟩
          have hend : ¬ off + step ≤ cap := by omega
          simp [hchase, hend]
        · have hsmaller : (cap - (off + step)).toNat < n := by
            simp only [cap, step] at hcap hn ⊢
            omega
          rw [if_neg hcap]
          obtain ⟨hto, hpanics, hkept⟩ := ih _ hsmaller (off + step)
            (climbStep (climbs off) off s).1 hsound (by omega) rfl
          refine ⟨.next hstop hpass (by omega) hto, hpanics.trans ?_, hkept.trans hsoaks⟩
          have hroom : off + step ≤ cap := by omega
          simp [hstop, hchase, hpass, hroom]
      · obtain ⟨hon, hat, hcrashed, hsoaks, -⟩ := climbStep_ends off hpass hs
        rw [climb_ends hstop hon, hat, hpeak, hcrashed, hsoaks, climbPanics_iff]
        refine ⟨.stays (.inr hpass), ?_, rfl⟩
        simp [hstop, hpass]

theorem ClimbsTo.unique {p q : Int} (hp : ClimbsTo climbs off p) (hq : ClimbsTo climbs off q) :
    p = q := by
  induction hp with
  | stays h =>
    cases hq with
    | stays => rfl
    | top go hpass =>
      rcases h with h | h
      · rw [go] at h
        cases h
      · exact absurd hpass h
    | next go hpass =>
      rcases h with h | h
      · rw [go] at h
        cases h
      · exact absurd hpass h
  | top go h hcap =>
    cases hq with
    | stays h' =>
      rcases h' with h' | h'
      · rw [go] at h'
        cases h'
      · exact absurd h h'
    | top => rfl
    | next _ _ hcap' => omega
  | next go h hcap later ih =>
    cases hq with
    | stays h' =>
      rcases h' with h' | h'
      · rw [go] at h'
        cases h'
      · exact absurd h h'
    | top _ _ hcap' => omega
    | next _ _ _ later' => exact ih later'

theorem soakStep_passes {a : SoakAnswer} (off : Int) (s : MemSweepRun) (h : a.Passes) :
    (soakStep a off s).2 = false ∧ (soakStep a off s).1.prog.peakOffsetMhz = off ∧
      (soakStep a off s).1.soaks =
        s.soaks ++ [⟨off, caught a.combined, bandwidthConsistency a.peak a.minbw⟩] := by
  obtain ⟨hstable, hbandwidth⟩ := h
  unfold soakStep
  simp [MemSweepRun.log, hstable, hbandwidth, StabilityResult.isStable]

theorem soakStep_lost {a : SoakAnswer} (off : Int) (s : MemSweepRun) (h : a.Lost) :
    (soakStep a off s).2 = false ∧
      (soakStep a off s).1.prog.peakOffsetMhz = s.prog.peakOffsetMhz ∧
        (soakStep a off s).1.soaks = s.soaks ++ [⟨off, .crash, 0⟩] := by
  obtain ⟨hcrash, hrecovered⟩ := h
  unfold soakStep
  simp [MemSweepRun.log, hcrash, hrecovered]

theorem soakStep_recedes {a : SoakAnswer} (off : Int) (s : MemSweepRun) (hlost : ¬ a.Lost)
    (hpass : ¬ a.Passes) :
    (soakStep a off s).2 = true ∧
      (soakStep a off s).1.prog.peakOffsetMhz = max (off - 2 * step) 0 ∧
        ∃ soak, (soakStep a off s).1.soaks = s.soaks ++ [soak] ∧ soak.offsetMhz = off ∧
          ¬ soak.passes := by
  unfold soakStep
  by_cases hcrash : caught a.combined = .crash
  · have hrecovered : a.recovered = true := by
      by_contra h
      exact hlost ⟨hcrash, by simpa using h⟩
    simp only [MemSweepRun.log, hcrash, hrecovered, if_true]
    refine ⟨trivial, trivial, ⟨off, .crash, 0⟩, rfl, rfl, ?_⟩
    rintro ⟨hstable, -⟩
    cases hstable
  · have hfailed : ¬ ((caught a.combined).isStable &&
        decide (96 / 100 ≤ bandwidthConsistency a.peak a.minbw)) = true := by
      rw [Bool.and_eq_true, decide_eq_true_eq]
      rintro ⟨hstable, hbandwidth⟩
      exact hpass ⟨by simpa [StabilityResult.isStable] using hstable, hbandwidth⟩
    simp only [MemSweepRun.log, if_neg hcrash, if_neg hfailed]
    refine ⟨trivial, trivial, ⟨off, caught a.combined, bandwidthConsistency a.peak a.minbw⟩, rfl,
      rfl, ?_⟩
    rintro ⟨hstable, hbandwidth⟩
    exact hpass ⟨hstable, hbandwidth⟩

theorem soakLoop_floor (soaks : Int → SoakAnswer) (s : MemSweepRun) (h : off ≤ 0) :
    (soakLoop soaks off s).soaks = s.soaks ∧
    (soakLoop soaks off s).prog.peakOffsetMhz = s.prog.peakOffsetMhz := by
  rw [soakLoop, if_pos h]
  exact ⟨rfl, rfl⟩

theorem soakLoop_ends (hpos : 0 < off) (h : (soakStep (soaks off) off s).2 = false) :
    soakLoop soaks off s = (soakStep (soaks off) off s).1 := by
  rw [soakLoop, if_neg (by omega)]
  generalize soakStep (soaks off) off s = answer at h ⊢
  obtain ⟨s', go⟩ := answer
  obtain rfl : go = false := h
  rfl

theorem soakLoop_recedes (hpos : 0 < off) (h : (soakStep (soaks off) off s).2 = true) :
    soakLoop soaks off s = soakLoop soaks (off - 2 * step) (soakStep (soaks off) off s).1 := by
  rw [soakLoop, if_neg (by omega)]
  generalize soakStep (soaks off) off s = answer at h ⊢
  obtain ⟨s', go⟩ := answer
  obtain rfl : go = true := h
  rfl

theorem soakLost_iff : SoakLost soaks off ↔
    0 < off ∧ ((soaks off).Lost ∨
      ¬ (soaks off).Lost ∧ ¬ (soaks off).Passes ∧ SoakLost soaks (off - 2 * step)) := by
  constructor
  · intro h
    cases h with
    | here hpos h => exact ⟨hpos, .inl h⟩
    | later hpos hlost h later => exact ⟨hpos, .inr ⟨hlost, h, later⟩⟩
  · rintro ⟨hpos, h | ⟨hlost, h, later⟩⟩
    · exact .here hpos h
    · exact .later hpos hlost h later

/-- The soaks go down, and the peak that they leave passed its own, unless the device was lost. -/
theorem soakLoop_spec (soaks : Int → SoakAnswer) (off : Int) (s : MemSweepRun)
    (hpeak : s.prog.peakOffsetMhz = max off 0) :
    ∃ new, (soakLoop soaks off s).soaks = s.soaks ++ new ∧
      new.Pairwise (fun earlier later => later.offsetMhz < earlier.offsetMhz) ∧
      (∀ soak ∈ new, soak.offsetMhz ≤ off) ∧
      ((¬ SoakLost soaks off → (soakLoop soaks off s).prog.peakOffsetMhz = 0 ∨
          ∃ soak ∈ new, soak.offsetMhz = (soakLoop soaks off s).prog.peakOffsetMhz ∧
            soak.passes) ∧
        (SoakLost soaks off → 0 < (soakLoop soaks off s).prog.peakOffsetMhz ∧
          ∀ soak ∈ new, soak.offsetMhz = (soakLoop soaks off s).prog.peakOffsetMhz →
            ¬ soak.passes)) := by
  induction hn : off.toNat using Nat.strong_induction_on generalizing off s with
  | _ n ih =>
    rw [soakLost_iff]
    by_cases hpos : 0 < off
    · by_cases hlost : (soaks off).Lost
      · obtain ⟨hon, hat, hsoaks⟩ := soakStep_lost off s hlost
        rw [soakLoop_ends hpos hon, hat, hsoaks, hpeak]
        refine ⟨[⟨off, .crash, 0⟩], rfl, by simp, by simp, ?_, fun _ => ⟨by omega, ?_⟩⟩
        · intro h
          exact absurd ⟨hpos, .inl hlost⟩ h
        · rintro soak hsoak - ⟨hstable, -⟩
          obtain rfl := List.mem_singleton.mp hsoak
          cases hstable
      · by_cases hpass : (soaks off).Passes
        · obtain ⟨hon, hat, hsoaks⟩ := soakStep_passes off s hpass
          rw [soakLoop_ends hpos hon, hat, hsoaks]
          refine ⟨[⟨off, _, _⟩], rfl, by simp, by simp, ?_, ?_⟩
          · intro _
            exact .inr ⟨_, List.mem_singleton.mpr rfl, rfl, hpass⟩
          · rintro ⟨-, h | ⟨-, h, -⟩⟩
            · exact absurd h hlost
            · exact absurd hpass h
        · obtain ⟨hon, hat, soak, hsoaks, hoffset, hfailed⟩ :=
            soakStep_recedes off s hlost hpass
          have hsmaller : (off - 2 * step).toNat < n := by
            simp only [step]
            omega
          obtain ⟨new, hnew, hsorted, hbound, hkept, hgone⟩ := ih _ hsmaller (off - 2 * step)
            (soakStep (soaks off) off s).1 hat rfl
          rw [soakLoop_recedes hpos hon]
          have hbelow : ∀ later ∈ new, later.offsetMhz < off := by
            intro later hlater
            have := hbound later hlater
            simp only [step] at this
            omega
          refine ⟨soak :: new, by rw [hnew, hsoaks, List.append_assoc]; rfl, ?_, ?_, ?_, ?_⟩
          · refine List.pairwise_cons.mpr ⟨fun later hlater => ?_, hsorted⟩
            rw [hoffset]
            exact hbelow later hlater
          · intro later hlater
            rcases List.mem_cons.mp hlater with rfl | hlater
            · omega
            · exact le_of_lt (hbelow later hlater)
          · intro h
            have hnot : ¬ SoakLost soaks (off - 2 * step) := fun hlater =>
              h ⟨hpos, .inr ⟨hlost, hpass, hlater⟩⟩
            rcases hkept hnot with hzero | ⟨later, hlater, heq⟩
            · exact .inl hzero
            · exact .inr ⟨later, List.mem_cons_of_mem _ hlater, heq⟩
          · rintro ⟨-, h | ⟨-, -, hlater⟩⟩
            · exact absurd h hlost
            · obtain ⟨hpositive, hnone⟩ := hgone hlater
              refine ⟨hpositive, fun later hmem heq => ?_⟩
              rcases List.mem_cons.mp hmem with rfl | hmem
              · exact hfailed
              · exact hnone later hmem heq
    · obtain ⟨hsoaks, hat⟩ := soakLoop_floor soaks s (not_lt.mp hpos)
      rw [hsoaks, hat, hpeak]
      refine ⟨[], by simp, .nil, by simp, fun _ => .inl (by omega), ?_⟩
      rintro ⟨h, -⟩
      exact absurd h hpos

theorem climb_extends (climbs : Int → ClimbAnswer) (off : Int) (s : MemSweepRun)
    (hs : s.crashed = false) : ∃ more, (climb climbs off s).events = s.events ++ more := by
  induction hn : (cap - off).toNat using Nat.strong_induction_on generalizing off s with
  | _ n ih =>
    cases hstop : (climbs off).stop with
    | true =>
      rw [climb_stop hstop]
      exact ⟨[], by simp⟩
    | false =>
      by_cases hpass : (climbs off).Passes
      · obtain ⟨hon, -, hsound, -, hevents⟩ := climbStep_passes off hpass hs
        rw [climb_goes_on hstop hon]
        by_cases hcap : cap < off + step
        · rw [if_pos hcap, hevents, List.append_assoc]
          exact ⟨_, rfl⟩
        · have hsmaller : (cap - (off + step)).toNat < n := by
            simp only [cap, step] at hcap hn ⊢
            omega
          obtain ⟨more, hmore⟩ := ih _ hsmaller (off + step) (climbStep (climbs off) off s).1
            hsound rfl
          rw [if_neg hcap, hmore, hevents, List.append_assoc, List.append_assoc]
          exact ⟨_, rfl⟩
      · obtain ⟨hon, -, -, -, hevents⟩ := climbStep_ends off hpass hs
        rw [climb_ends hstop hon, hevents]
        exact ⟨_, rfl⟩

theorem soakStep_extends (a : SoakAnswer) (off : Int) (s : MemSweepRun) :
    ∃ more, (soakStep a off s).1.events = s.events ++ more := by
  unfold soakStep
  simp only [MemSweepRun.log, List.append_assoc]
  split
  · split <;> exact ⟨_, rfl⟩
  · split <;> exact ⟨_, rfl⟩

theorem soakLoop_extends (soaks : Int → SoakAnswer) (off : Int) (s : MemSweepRun) :
    ∃ more, (soakLoop soaks off s).events = s.events ++ more := by
  induction hn : off.toNat using Nat.strong_induction_on generalizing off s with
  | _ n ih =>
    by_cases hpos : 0 < off
    · obtain ⟨more, hmore⟩ := soakStep_extends (soaks off) off s
      cases hon : (soakStep (soaks off) off s).2 with
      | false =>
        rw [soakLoop_ends hpos hon]
        exact ⟨more, hmore⟩
      | true =>
        have hsmaller : (off - 2 * step).toNat < n := by
          simp only [step]
          omega
        obtain ⟨rest, hrest⟩ := ih _ hsmaller (off - 2 * step) (soakStep (soaks off) off s).1 rfl
        rw [soakLoop_recedes hpos hon, hrest, hmore, List.append_assoc]
        exact ⟨_, rfl⟩
    · rw [soakLoop, if_pos (by omega)]
      exact ⟨[], by simp⟩

theorem ClimbsTo.ge {p : Int} (h : ClimbsTo climbs off p) : off - step ≤ p := by
  induction h with
  | stays => omega
  | top =>
    simp only [step]
    omega
  | next _ _ _ _ ih =>
    simp only [step] at ih ⊢
    omega

theorem exists_last_of_mem {l : List Soak} {soak : Soak}
    (hsorted : l.Pairwise fun earlier later => later.offsetMhz < earlier.offsetMhz)
    (h : soak ∈ l) : ∃ before after, l = before ++ soak :: after ∧
      ∀ later ∈ after, later.offsetMhz ≠ soak.offsetMhz := by
  obtain ⟨before, after, rfl⟩ := List.append_of_mem h
  refine ⟨before, after, rfl, fun later hlater => ?_⟩
  have hrest := (List.pairwise_append.mp hsorted).2.1
  exact ne_of_lt ((List.pairwise_cons.mp hrest).1 later hlater)

/-- The state in which the climb starts. -/
def climbStart (a : MemSweepAnswers) : MemSweepRun where
  prog := {
    running := true
    phase := .voltageBisection
    baselineGbps := a.baseline
    peakGbps := a.baseline }
  events := [.resetAll a.resetFirst, .load]

/-- The state behind the soaks, if there are any. -/
def soaked (a : MemSweepAnswers) : MemSweepRun :=
  let s := climb a.climb step (climbStart a)
  if !s.crashed && !a.stopAfterClimb && decide (0 < s.prog.peakOffsetMhz) then
    soakLoop a.soak s.prog.peakOffsetMhz s
  else s

theorem runMemSweep_soaked {a : MemSweepAnswers} (h : a.ctx = .ok ()) :
    (runMemSweep a).prog.peakOffsetMhz = (soaked a).prog.peakOffsetMhz ∧
      (runMemSweep a).soaks = (soaked a).soaks ∧
        (runMemSweep a).events =
          (soaked a).events ++ [.resetAll a.resetLast, .clearBootFlag] := by
  unfold runMemSweep
  rw [h]
  exact ⟨rfl, rfl, List.append_assoc _ _ _⟩

def cleanStep : ClimbAnswer where
  stop := false
  armed := true
  set := true
  chase := some .stable
  peak := 448
  minbw := 440
  memMhz := 7050

/-- One clean step, then a stop. -/
def stoppedSweep : MemSweepAnswers where
  ctx := .ok ()
  resetFirst := true
  baseline := 440
  climb off := { cleanStep with stop := decide (50 < off) }
  stopAfterClimb := true
  soak _ := ⟨true, true, some .stable, true, true, 448, 440⟩
  resetLast := true

end MemSweep

end Nidavellir

import Nidavellir.ConfirmedPaths
import Nidavellir.Lib.Retry

namespace Nidavellir

open Retry

def f2ClockDropTolMhz : Nat := 0

def marginDropTolMhz : Nat := 30

def medianU32 (values : List Nat) : Option Nat :=
  let sorted := values.mergeSort
  let middle := sorted.length / 2
  if sorted.length % 2 = 0 then
    (sorted[middle - 1]?).bind fun lower => (sorted[middle]?).map fun upper => (lower + upper) / 2
  else sorted[middle]?

/-- The sustained clocks of the patterns that passed in this descent. -/
structure F2QualificationMarginHistory where
  patternA : List Nat := []
  patternB : List Nat := []
  highFps : List Nat := []
  texture : List Nat := []
  transitions : List Nat := []
  memory : List Nat := []
deriving DecidableEq

namespace F2QualificationMarginHistory

variable (self : F2QualificationMarginHistory)

def values : F2QualificationPattern → List Nat
  | .a => self.patternA
  | .b => self.patternB
  | .highFps => self.highFps
  | .texture => self.texture
  | .transitions => self.transitions
  | .memory => self.memory
  | .endurance | .transitionShock | .dx11Game => []

def push (pattern : F2QualificationPattern) (p5Mhz : Nat) : F2QualificationMarginHistory :=
  match pattern with
  | .a => { self with patternA := self.patternA ++ [p5Mhz] }
  | .b => { self with patternB := self.patternB ++ [p5Mhz] }
  | .highFps => { self with highFps := self.highFps ++ [p5Mhz] }
  | .texture => { self with texture := self.texture ++ [p5Mhz] }
  | .transitions => { self with transitions := self.transitions ++ [p5Mhz] }
  | .memory => { self with memory := self.memory ++ [p5Mhz] }
  | .endurance | .transitionShock | .dx11Game => self

end F2QualificationMarginHistory

def heavyPhaseNames : List String := ["heavy-spike", "texture-rop", "mixed-game", "power-closing"]

def qualificationMarginP5 (coverage : Option F2QualificationCoverage) : Option Nat :=
  coverage.bind fun coverage =>
    if coverage.verdict ≠ .pass then none
    else medianU32 <| (coverage.phaseMetrics.filter fun metric =>
      metric.coverageStatus == "pass" && heavyPhaseNames.contains metric.phaseName).filterMap
        F2QualificationPhaseMetric.clockP5

def qualificationMarginIsClockDrop (currentP5Mhz : Nat) (stableHistory : List Nat)
    (targetMhz : Nat) : Bool :=
  let belowTarget := decide (saturatingAdd currentP5Mhz f2ClockDropTolMhz < targetMhz)
  let belowRelativeMargin := decide (2 ≤ stableHistory.length) &&
    (medianU32 stableHistory).any fun baseline =>
      decide (saturatingAdd currentP5Mhz marginDropTolMhz < baseline)
  belowTarget || belowRelativeMargin

def qualificationAttemptDwellMs (baseDwellMs retryCount : Nat) : Nat :=
  if retryCount = 0 then baseDwellMs else min (baseDwellMs * 3) (2 ^ 64 - 1) / 2

def qualificationShouldRetryInconclusive (retryCount : Nat) : Bool :=
  decide (retryCount < inconclusiveRetryBudget)

def annotateQualificationReport (report : F2StepReport) (strength : F2QualificationStrength)
    (pattern : Option F2QualificationPattern) (passIndex retryCount : Nat) : F2StepReport :=
  { report with qualificationCoverage := report.qualificationCoverage.map fun coverage =>
      { coverage with strength, pattern, passIndex, retryCount } }

def F2StepReport.inconclusiveReason (self : F2StepReport) : Option String :=
  self.qualificationCoverage.bind F2QualificationCoverage.reason

/-- What follows a dwell of a pattern; without an outcome the pattern has passed. -/
def afterQualificationDwell (inconclusiveRetries : Nat) (report : F2StepReport) :
    Next (Option F2QualificationOutcome) :=
  match report.outcome with
  | .validated => .stop none
  | .deviceLost | .resetFailed | .armFailed _ | .applyFailed _ | .verifyFailed =>
    .stop (some (.aborted s!"QualificationAborted: {report.outcome.debug}"
      (f2OutcomeRetainsBootFlag report.outcome)))
  | .inconclusive =>
    if qualificationInconclusiveReasonRetryable report.inconclusiveReason &&
        qualificationShouldRetryInconclusive inconclusiveRetries then .again
    else .stop (some .inconclusive)
  | outcome => .stop (some (.rejected outcome.debug))

theorem afterQualificationDwell_again {inconclusiveRetries : Nat} {report : F2StepReport}
    (h : afterQualificationDwell inconclusiveRetries report = .again) :
    report.outcome = .inconclusive ∧
      qualificationInconclusiveReasonRetryable report.inconclusiveReason ∧
      inconclusiveRetries < inconclusiveRetryBudget := by
  unfold afterQualificationDwell at h
  split at h
  case h_7 ho =>
    split at h
    next hretry =>
      obtain ⟨hreason, hbudget⟩ := Bool.and_eq_true_iff.mp hretry
      exact ⟨ho, hreason, of_decide_eq_true hbudget⟩
    next => cases h
  all_goals cases h

/-- The retries of one pattern. -/
def inconclusiveRetries : Policy F2StepReport (Option F2QualificationOutcome) where
  budget := inconclusiveRetryBudget
  next := afterQualificationDwell
  bounded _ _ h := (afterQualificationDwell_again h).2.2

/-- What the qualification of one candidate is given. -/
structure F2Qualifier where
  targetMhz : Nat
  qualificationDwellMs : Nat
  qualificationPasses : Nat
  renderGoldens : Option RenderGoldens

/-- The dwells of one pattern, in order. -/
structure F2PatternDwells where
  pattern : F2QualificationPattern
  dwells : List F2StepReport

def qualificationDwells (groups : List F2PatternDwells) : List F2StepReport :=
  groups.flatMap F2PatternDwells.dwells

section Qualify

variable {W : Type*} [F2World W]

/-- The write that stays active and the margins so far. -/
structure F2QualifierState (W : Type*) where
  active : ActiveF2Candidate (RealF2MultiOps W)
  marginHistory : F2QualificationMarginHistory

/-- What a dwell leaves: the collapse of its margin is a clock drop. -/
def checkMargin (targetMhz : Nat) (pattern : F2QualificationPattern)
    (history : F2QualificationMarginHistory) (report : F2StepReport) :
    F2StepReport × F2QualificationMarginHistory :=
  match if report.outcome = .validated then qualificationMarginP5 report.qualificationCoverage
      else none with
  | none => (report, history)
  | some currentP5 =>
    if qualificationMarginIsClockDrop currentP5 (history.values pattern) targetMhz then
      ({ report with outcome := .clockDrop, dwell := some .clockDrop, validated := false },
        history)
    else (report, history.push pattern currentP5)

namespace F2Qualifier

variable (self : F2Qualifier)

def askStop (s : F2QualifierState W) :
    Option (Option F2QualificationOutcome) × F2QualifierState W :=
  let (stop, ops) := s.active.ops.through F2World.stopRequested
  (if stop then some (some .cancelled) else none, { s with active := { s.active with ops } })

def dwell (pattern : F2QualificationPattern) (goldens : RenderGoldens) (passIndex : Nat)
    (retries : Nat) (s : F2QualifierState W) : F2StepReport × F2QualifierState W :=
  let (report, active) := s.active.runPhase
    (qualificationAttemptDwellMs self.qualificationDwellMs retries)
    (.v8Qualification pattern goldens)
  let report := annotateQualificationReport report .fsgl4 (some pattern) passIndex retries
  let (report, marginHistory) := checkMargin self.targetMhz pattern s.marginHistory report
  (report, ⟨active, marginHistory⟩)

/-- The patterns in order, until one does not pass. -/
def runPatterns (goldens : RenderGoldens) (passIndex : Nat) :
    List F2QualificationPattern → F2QualifierState W →
      List F2PatternDwells × F2QualificationOutcome × F2QualifierState W
  | [], s => ([], .qualified, s)
  | pattern :: patterns, s =>
    match Retry.run inconclusiveRetries askStop (self.dwell pattern goldens passIndex) 0 s with
    | (dwells, some outcome, s) => ([⟨pattern, dwells⟩], outcome, s)
    | (dwells, none, s) =>
      let (rest, outcome, s) := runPatterns goldens (passIndex + 1) patterns s
      (⟨pattern, dwells⟩ :: rest, outcome, s)

/-- `qualify_active_anchored_candidate`. -/
def run (s : F2QualifierState W) :
    List F2PatternDwells × F2QualificationOutcome × F2QualifierState W :=
  match self.renderGoldens with
  | none => ([], .aborted "QualificationGoldenMissing" false, s)
  | some goldens =>
    self.runPatterns goldens 1 (requiredQualificationPatterns.take self.qualificationPasses) s

end F2Qualifier

/-- At most one dwell more than the retry budget, and none after a dwell that is not to be
repeated. -/
structure F2PatternDwells.Bounded (self : F2PatternDwells) : Prop where
  count : self.dwells.length ≤ inconclusiveRetryBudget + 1
  repeated : ∀ before report report' after,
    self.dwells = before ++ report :: report' :: after → report.outcome = .inconclusive ∧
      qualificationInconclusiveReasonRetryable report.inconclusiveReason

theorem bounded_of_attempts {pattern : F2QualificationPattern} {dwells : List F2StepReport}
    (h : Attempts inconclusiveRetries 0 dwells) : F2PatternDwells.Bounded ⟨pattern, dwells⟩ where
  count := h.length_le (Nat.zero_le _)
  repeated before report report' after heq := by
    obtain rfl : dwells = _ := heq
    obtain ⟨ho, hreason, -⟩ := afterQualificationDwell_again h.again_of_followed
    exact ⟨ho, hreason⟩

variable {qualifier : F2Qualifier} {s : F2QualifierState W}

theorem F2Qualifier.runPatterns_bounded (goldens : RenderGoldens) (passIndex : Nat)
    (patterns : List F2QualificationPattern) :
    (∀ group ∈ (qualifier.runPatterns goldens passIndex patterns s).1, group.Bounded) ∧
      ((qualifier.runPatterns goldens passIndex patterns s).1.map
        F2PatternDwells.pattern).Sublist patterns := by
  induction patterns generalizing passIndex s with
  | nil => simp [runPatterns]
  | cons pattern patterns ih =>
    have hattempts : Attempts inconclusiveRetries 0 (Retry.run inconclusiveRetries askStop
      (qualifier.dwell pattern goldens passIndex) 0 s).1 := run_attempts
    unfold runPatterns
    split
    next dwells outcome s' hrun =>
      rw [hrun] at hattempts
      exact ⟨by simpa using bounded_of_attempts hattempts, by simp⟩
    next dwells s' hrun =>
      rw [hrun] at hattempts
      obtain ⟨hbounded, hsub⟩ := @ih s' (passIndex + 1)
      refine ⟨?_, hsub.cons_cons pattern⟩
      intro group hgroup
      rcases List.mem_cons.mp hgroup with rfl | hgroup
      · exact bounded_of_attempts hattempts
      · exact hbounded group hgroup

variable (qualifier s) in
/-- Each pattern has one group of dwells, and the group is bounded. -/
theorem F2Qualifier.run_bounded :
    (∀ group ∈ (qualifier.run s).1, group.Bounded) ∧
      ((qualifier.run s).1.map F2PatternDwells.pattern).Nodup := by
  unfold run
  split
  next => simp
  next goldens _ =>
    obtain ⟨hbounded, hsub⟩ := qualifier.runPatterns_bounded (s := s) goldens 1
      (requiredQualificationPatterns.take qualifier.qualificationPasses)
    have hnodup : requiredQualificationPatterns.Nodup := by decide
    exact ⟨hbounded, (hsub.trans (List.take_sublist _ _)).nodup hnodup⟩

theorem afterQualificationDwell_inconclusive {retries : Nat} {report : F2StepReport}
    (h : afterQualificationDwell retries report = .stop (some .inconclusive)) :
    report.outcome = .inconclusive := by
  unfold afterQualificationDwell at h
  split at h
  case h_7 ho => exact ho
  all_goals cases h

theorem F2Qualifier.dwells_inconclusive {pattern : F2QualificationPattern}
    {goldens : RenderGoldens} {passIndex : Nat}
    (h : (Retry.run inconclusiveRetries askStop
      (qualifier.dwell pattern goldens passIndex) 0 s).2.1 = some .inconclusive) :
    ∃ report ∈ (Retry.run inconclusiveRetries askStop
      (qualifier.dwell pattern goldens passIndex) 0 s).1, report.outcome = .inconclusive := by
  refine run_induction inconclusiveRetries askStop (qualifier.dwell pattern goldens passIndex)
    (P := fun _ _ r => r.2.1 = some .inconclusive → ∃ report ∈ r.1, report.outcome = .inconclusive)
    ?_ ?_ ?_ 0 s h
  · intro n s result s' hask hresult
    unfold askStop at hask
    dsimp only at hask hresult
    split at hask
    next =>
      obtain ⟨hask, -⟩ := Prod.mk.inj hask
      obtain rfl := Option.some.inj hask
      cases hresult
    next => cases (Prod.mk.inj hask).1
  · intro n s s' result _ hnext hresult
    obtain rfl : result = some .inconclusive := hresult
    exact ⟨_, List.mem_singleton_self _, afterQualificationDwell_inconclusive hnext⟩
  · intro n s s' as rest _ _ ih hresult
    obtain ⟨report, hmem, ho⟩ := ih hresult
    exact ⟨report, List.mem_cons_of_mem _ hmem, ho⟩

theorem F2Qualifier.runPatterns_inconclusive {goldens : RenderGoldens} {passIndex : Nat}
    {patterns : List F2QualificationPattern}
    (h : (qualifier.runPatterns goldens passIndex patterns s).2.1 = .inconclusive) :
    ∃ report ∈ qualificationDwells (qualifier.runPatterns goldens passIndex patterns s).1,
      report.outcome = .inconclusive := by
  induction patterns generalizing passIndex s with
  | nil => cases h
  | cons pattern patterns ih =>
    unfold runPatterns at h ⊢
    split at h
    next dwells outcome s' hrun =>
      obtain rfl : outcome = .inconclusive := h
      have hend : (Retry.run inconclusiveRetries askStop
          (qualifier.dwell pattern goldens passIndex) 0 s).2.1 = some .inconclusive := by
        rw [hrun]
      obtain ⟨report, hmem, ho⟩ := dwells_inconclusive hend
      rw [hrun] at hmem
      exact ⟨report, by simpa [qualificationDwells] using hmem, ho⟩
    next dwells s' hrun =>
      obtain ⟨report, hmem, ho⟩ := ih h
      refine ⟨report, ?_, ho⟩
      simp only [qualificationDwells, List.flatMap_cons]
      exact List.mem_append_right _ hmem

/-- A qualification that ends inconclusive had an inconclusive dwell. -/
theorem F2Qualifier.run_inconclusive (h : (qualifier.run s).2.1 = .inconclusive) :
    ∃ report ∈ qualificationDwells (qualifier.run s).1, report.outcome = .inconclusive := by
  unfold run at h ⊢
  split at h
  next => cases h
  next => exact runPatterns_inconclusive h

end Qualify

end Nidavellir

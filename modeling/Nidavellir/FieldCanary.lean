import Nidavellir.SafeLoop
import Nidavellir.VfQualifier

namespace Nidavellir.VfQualifier

def rank : StabilityResult → Nat
  | .stable => 0
  | .unstable => 1
  | .silentError => 2
  | .crash => 3

def strongerStabilityFailure (a b : StabilityResult) : StabilityResult :=
  if rank b > rank a then b else a

structure FieldCanaryReport where
  result : StabilityResult
  cycles : Nat
  frames : Nat
  checksumCount : Nat
  inconclusiveReason : Option String
deriving DecidableEq, Repr

/-- The merge once the coverage of the secondary is not in question. -/
def mergeVerdicts (primary : RenderResult) (secondary : FieldCanaryReport)
    (phase : VfQualifierPhase) : RenderResult :=
  let result := strongerStabilityFailure primary.result secondary.result
  { primary with
    result := result
    frames := saturatingAdd64 primary.frames secondary.frames
    phaseReports := primary.phaseReports.modify 0 fun report =>
      { report with
        result := result
        checksumCount := saturatingAdd report.checksumCount secondary.checksumCount }
    failurePhase := if result ≠ .stable then some phase else primary.failurePhase }

def mergeFieldCanary (primary : RenderResult) (secondary : FieldCanaryReport)
    (phase : VfQualifierPhase) : RenderResult :=
  let missingSecondary := secondary.cycles = 0 ∨ secondary.checksumCount < 2
  if primary.result = .stable ∧ (secondary.inconclusiveReason.isSome ∨ missingSecondary) then
    -- the primary queue alone must not satisfy the phase
    { primary with
      inconclusiveReason :=
        secondary.inconclusiveReason.or (some "field_secondary_coverage_missing")
      phaseReports := []
      failurePhase := none }
  else mergeVerdicts primary secondary phase

/-- What the worker meets: the clock after its delay, the token, and its own device with the run of
the canary on it. -/
structure CanaryHost where
  elapsedMs : Nat
  stopped : Bool
  ctx : Except String RenderRun

/-- A worker that panicked is `none`. -/
abbrev CanaryWorker := Option CanaryHost

def CanaryHost.remaining (self : CanaryHost) (targetMs : Nat) : Nat :=
  targetMs - self.elapsedMs % 2 ^ 64

def runFieldCanaryWorker (targetMs : Nat) (host : CanaryHost) : FieldCanaryReport :=
  let report : FieldCanaryReport :=
    { result := .stable, cycles := 0, frames := 0, checksumCount := 0, inconclusiveReason := none }
  if host.remaining targetMs < 600 ∨ host.stopped then report
  else
    match host.ctx with
    | .error error =>
      { report with inconclusiveReason := some s!"field_secondary_init_failed: {error}" }
    | .ok run =>
      let canary := runRenderProfile (some .compositeGameLoad) run
      { report with
        cycles := 1
        frames := canary.frames
        checksumCount := (canary.phaseReports.map VfPhaseReport.checksumCount).sum
        result := canary.result }

/-- `worker.join()`. -/
def joinWorker (targetMs : Nat) : CanaryWorker → FieldCanaryReport
  | none =>
    { result := .stable, cycles := 0, frames := 0, checksumCount := 0
      inconclusiveReason := some "field_secondary_worker_panicked" }
  | some host => runFieldCanaryWorker targetMs host

def runFieldConcurrencyProfile (targetMs : Nat) (phase : VfQualifierPhase)
    (primary : RenderResult) (worker : CanaryWorker) : RenderResult :=
  mergeFieldCanary primary (joinWorker targetMs worker) phase

theorem rank_strongerStabilityFailure (a b : StabilityResult) :
    rank (strongerStabilityFailure a b) = max (rank a) (rank b) := by
  cases a <;> cases b <;> rfl

theorem rank_eq_zero_iff {result : StabilityResult} : rank result = 0 ↔ result = .stable := by
  cases result <;> decide

theorem strongerStabilityFailure_eq_stable_iff {a b : StabilityResult} :
    strongerStabilityFailure a b = .stable ↔ a = .stable ∧ b = .stable := by
  rw [← rank_eq_zero_iff, rank_strongerStabilityFailure, Nat.max_eq_zero_iff, rank_eq_zero_iff,
    rank_eq_zero_iff]

/-- The merged result is no milder than either context's, and a failure stays one without an
excuse; a phase that both contexts passed counts only with the secondary's share of it. -/
structure NeverLost (primary : RenderResult) (secondary : FieldCanaryReport)
    (phase : VfQualifierPhase) (merged : RenderResult) : Prop where
  failure : primary.result ≠ .stable ∨ secondary.result ≠ .stable →
    rank primary.result ≤ rank merged.result ∧ rank secondary.result ≤ rank merged.result ∧
      merged.result ≠ .stable ∧ merged.inconclusiveReason = none
  completed : primary.result = .stable → secondary.result = .stable →
    (∃ report ∈ merged.phaseReports, report.phase = phase ∧ report.result = .stable) →
    1 ≤ secondary.cycles ∧ 2 ≤ secondary.checksumCount ∧ secondary.inconclusiveReason = none

section Merge

variable {primary : RenderResult} {secondary : FieldCanaryReport} {phase : VfQualifierPhase}

/-- The guard that the code tests before the verdict of the secondary. -/
def CoverageMissing (secondary : FieldCanaryReport) : Prop :=
  secondary.inconclusiveReason.isSome ∨ secondary.cycles = 0 ∨ secondary.checksumCount < 2

theorem mergeFieldCanary_missing (hprimary : primary.result = .stable)
    (hmissing : CoverageMissing secondary) :
    mergeFieldCanary primary secondary phase =
      { primary with
        inconclusiveReason :=
          secondary.inconclusiveReason.or (some "field_secondary_coverage_missing")
        phaseReports := []
        failurePhase := none } :=
  if_pos ⟨hprimary, hmissing⟩

theorem mergeFieldCanary_covered (h : ¬ (primary.result = .stable ∧ CoverageMissing secondary)) :
    mergeFieldCanary primary secondary phase = mergeVerdicts primary secondary phase :=
  if_neg h

/-- Two verdicts that are merged lose nothing but the primary's own reason. -/
theorem neverLost_mergeVerdicts_iff
    (hcovered : ¬ (primary.result = .stable ∧ CoverageMissing secondary)) :
    NeverLost primary secondary phase (mergeVerdicts primary secondary phase) ↔
      (primary.result ≠ .stable ∨ secondary.result ≠ .stable →
        primary.inconclusiveReason = none) := by
  constructor
  · intro h hfailed
    exact (h.failure hfailed).2.2.2
  · intro hreason
    constructor
    · intro hfailed
      have hrank : rank (mergeVerdicts primary secondary phase).result =
          max (rank primary.result) (rank secondary.result) := rank_strongerStabilityFailure _ _
      refine ⟨by omega, by omega, ?_, hreason hfailed⟩
      intro hstable
      obtain ⟨hprimary, hsecondary⟩ := strongerStabilityFailure_eq_stable_iff.mp hstable
      exact hfailed.elim (· hprimary) (· hsecondary)
    · intro hprimary _ _
      have hpresent : ¬ CoverageMissing secondary := fun h => hcovered ⟨hprimary, h⟩
      unfold CoverageMissing at hpresent
      push Not at hpresent
      exact ⟨by omega, hpresent.2.2, by simpa using hpresent.1⟩

/-- Without coverage a stable primary keeps its word, so only a stable secondary loses nothing. -/
theorem neverLost_missing_iff (hprimary : primary.result = .stable)
    (hmissing : CoverageMissing secondary) :
    NeverLost primary secondary phase (mergeFieldCanary primary secondary phase) ↔
      secondary.result = .stable := by
  rw [mergeFieldCanary_missing hprimary hmissing]
  constructor
  · intro h
    by_contra hfailed
    exact (h.failure (.inr hfailed)).2.2.1 hprimary
  · intro hsecondary
    constructor
    · intro hfailed
      exact absurd hfailed (by simp [hprimary, hsecondary])
    · rintro - - ⟨report, hreport, -⟩
      cases hreport

end Merge

/-- The run of the canary, where the worker got that far. -/
def canaryRun (targetMs : Nat) (worker : CanaryWorker) : Option RenderRun :=
  worker.bind fun host =>
    if host.remaining targetMs < 600 ∨ host.stopped then none else host.ctx.toOption

theorem joinWorker_of_run {targetMs : Nat} {worker : CanaryWorker} {run : RenderRun}
    (h : canaryRun targetMs worker = some run) :
    joinWorker targetMs worker =
      { result := run.result, cycles := 1, frames := run.frames
        checksumCount := run.checksumCount, inconclusiveReason := none } := by
  cases worker with
  | none => cases h
  | some host =>
    change (if host.remaining targetMs < 600 ∨ host.stopped then none else host.ctx.toOption) =
      some run at h
    split at h
    next => cases h
    next hready =>
      cases hctx : host.ctx with
      | error e => rw [hctx] at h; cases h
      | ok _ =>
        rw [hctx] at h
        cases h
        rw [joinWorker, runFieldCanaryWorker, if_neg hready, hctx]
        rfl

theorem joinWorker_of_no_run {targetMs : Nat} {worker : CanaryWorker}
    (h : canaryRun targetMs worker = none) :
    (joinWorker targetMs worker).result = .stable := by
  cases worker with
  | none => rfl
  | some host =>
    change (if host.remaining targetMs < 600 ∨ host.stopped then none else host.ctx.toOption) =
      none at h
    rw [joinWorker, runFieldCanaryWorker]
    split at h
    next hearly => rw [if_pos hearly]
    next hready =>
      rw [if_neg hready]
      cases hctx : host.ctx with
      | error e => rfl
      | ok run => rw [hctx] at h; cases h

theorem coverageMissing_of_run_iff {targetMs : Nat} {worker : CanaryWorker} {run : RenderRun}
    (h : canaryRun targetMs worker = some run) :
    CoverageMissing (joinWorker targetMs worker) ↔ run.checksumCount < 2 := by
  rw [joinWorker_of_run h, CoverageMissing]
  simp

/-- A failure, of the primary or of a canary that ran, meets no standing reason of the primary; and
a canary that failed beside a stable primary got to its second checksum first. -/
structure FailsInView (targetMs : Nat) (primary : RenderResult) (worker : CanaryWorker) :
    Prop where
  ofPrimary : primary.result ≠ .stable → primary.inconclusiveReason = none
  ofCanary : ∀ run, canaryRun targetMs worker = some run → run.result ≠ .stable →
    primary.inconclusiveReason = none ∧ (primary.result = .stable → 2 ≤ run.checksumCount)

section View

variable {targetMs : Nat} {primary : RenderResult} {worker : CanaryWorker}

theorem failsInView_missing_iff (hprimary : primary.result = .stable)
    (hmissing : CoverageMissing (joinWorker targetMs worker)) :
    FailsInView targetMs primary worker ↔ (joinWorker targetMs worker).result = .stable := by
  cases hrun : canaryRun targetMs worker with
  | none =>
    refine iff_of_true ⟨fun h => absurd hprimary h, ?_⟩ (joinWorker_of_no_run hrun)
    intro run hran
    rw [hrun] at hran
    cases hran
  | some run =>
    have hfew := (coverageMissing_of_run_iff hrun).mp hmissing
    rw [joinWorker_of_run hrun]
    constructor
    · intro h
      by_contra hfailed
      have := (h.ofCanary run hrun hfailed).2 hprimary
      omega
    · intro hstable
      refine ⟨fun h => absurd hprimary h, ?_⟩
      intro _ hran hfailed
      rw [hrun] at hran
      cases hran
      exact absurd hstable hfailed

theorem failsInView_covered_iff
    (hcovered : ¬ (primary.result = .stable ∧ CoverageMissing (joinWorker targetMs worker))) :
    FailsInView targetMs primary worker ↔
      (primary.result ≠ .stable ∨ (joinWorker targetMs worker).result ≠ .stable →
        primary.inconclusiveReason = none) := by
  cases hrun : canaryRun targetMs worker with
  | none =>
    have hsecondary := joinWorker_of_no_run hrun
    constructor
    · rintro h (hfailed | hfailed)
      · exact h.ofPrimary hfailed
      · exact absurd hsecondary hfailed
    · intro h
      refine ⟨fun hfailed => h (.inl hfailed), ?_⟩
      intro run hran
      rw [hrun] at hran
      cases hran
  | some run =>
    rw [coverageMissing_of_run_iff hrun] at hcovered
    rw [joinWorker_of_run hrun]
    constructor
    · rintro h (hfailed | hfailed)
      · exact h.ofPrimary hfailed
      · exact (h.ofCanary run hrun hfailed).1
    · intro h
      refine ⟨fun hfailed => h (.inl hfailed), ?_⟩
      intro _ hran hfailed
      rw [hrun] at hran
      cases hran
      refine ⟨h (.inr hfailed), fun hprimary => ?_⟩
      by_contra hfew
      exact hcovered ⟨hprimary, by omega⟩

end View

/-- The merge loses no failure exactly when every failure is in view by then. -/
theorem neverLost_iff_failsInView (targetMs : Nat) (phase : VfQualifierPhase)
    (primary : RenderResult) (worker : CanaryWorker) :
    NeverLost primary (joinWorker targetMs worker) phase
        (runFieldConcurrencyProfile targetMs phase primary worker) ↔
      FailsInView targetMs primary worker := by
  unfold runFieldConcurrencyProfile
  by_cases h : primary.result = .stable ∧ CoverageMissing (joinWorker targetMs worker)
  · rw [neverLost_missing_iff h.1 h.2, failsInView_missing_iff h.1 h.2]
  · rw [mergeFieldCanary_covered h, neverLost_mergeVerdicts_iff h, failsInView_covered_iff h]

/-- A secondary device that is lost after one checksum leaves a stable primary inconclusive. -/
theorem device_loss_before_second_checksum_lost :
    ∃ (targetMs : Nat) (phase : VfQualifierPhase) (primary : RenderResult) (worker : CanaryWorker),
      ¬ NeverLost primary (joinWorker targetMs worker) phase
        (runFieldConcurrencyProfile targetMs phase primary worker) := by
  refine ⟨15000, .compositeGameLoad,
    runRenderProfile (some .compositeGameLoad)
      { result := .stable, frames := 900, checksumCount := 56, elapsedMs := 15000 },
    some { elapsedMs := 250, stopped := false
           ctx := .ok { result := .crash, frames := 20, checksumCount := 1, elapsedMs := 300 } },
    fun h => ?_⟩
  exact (h.failure (.inr (by decide))).2.2.1 (by decide)

end Nidavellir.VfQualifier

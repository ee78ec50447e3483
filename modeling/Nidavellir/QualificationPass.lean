import Nidavellir.QualificationRun

namespace Nidavellir.VfQualifier

section Runner

variable {play : Nat → VfQualifierSegment → RenderResult} {index frames : Nat}
  {segment : VfQualifierSegment} {plan : List VfQualifierSegment} {reports : List VfPhaseReport}

/-- A run without the token. -/
abbrev runAll (play : Nat → VfQualifierSegment → RenderResult) (index : Nat)
    (plan : List VfQualifierSegment) (frames : Nat) (reports : List VfPhaseReport) :
    QualifierRun :=
  runSegments (fun _ => false) play index plan frames reports

variable (frames plan reports) in
theorem runAll_failed (h : (play index segment).result ≠ .stable) :
    (runAll play index (segment :: plan) frames reports).result.result =
        (play index segment).result ∧
      (runAll play index (segment :: plan) frames reports).result.inconclusiveReason = none ∧
      (runAll play index (segment :: plan) frames reports).hooks = [hookOf (segment, index)] := by
  rw [runAll, runSegments, if_neg Bool.false_ne_true]
  dsimp only
  rw [if_pos h]
  exact ⟨rfl, rfl, rfl⟩

variable (frames plan reports) in
theorem runAll_inconclusive {reason : String} (h : (play index segment).result = .stable)
    (hreason : (play index segment).inconclusiveReason = some reason) :
    (runAll play index (segment :: plan) frames reports).result.inconclusiveReason =
        some reason ∧
      (runAll play index (segment :: plan) frames reports).hooks = [hookOf (segment, index)] := by
  rw [runAll, runSegments, if_neg Bool.false_ne_true]
  dsimp only
  rw [if_neg (not_not.mpr h), hreason]
  exact ⟨rfl, rfl⟩

variable (frames plan reports) in
theorem runAll_next (h : (play index segment).result = .stable)
    (hreason : (play index segment).inconclusiveReason = none) :
    (runAll play index (segment :: plan) frames reports).result =
        (runAll play (index + 1) plan (saturatingAdd64 frames (play index segment).frames)
          (reports ++ (play index segment).phaseReports)).result ∧
      (runAll play index (segment :: plan) frames reports).hooks =
        hookOf (segment, index) ::
          (runAll play (index + 1) plan (saturatingAdd64 frames (play index segment).frames)
            (reports ++ (play index segment).phaseReports)).hooks := by
  rw [runAll, runSegments, if_neg Bool.false_ne_true]
  dsimp only
  rw [if_neg (not_not.mpr h), hreason]
  exact ⟨rfl, rfl⟩

/-- A run that is stable and has no reason played every segment, stably and conclusively. -/
structure WholeRun (play : Nat → VfQualifierSegment → RenderResult) (index : Nat)
    (plan : List VfQualifierSegment) (reports : List VfPhaseReport) (run : QualifierRun) :
    Prop where
  hooks : run.hooks = (plan.zipIdx index).map hookOf
  played : ∀ entry ∈ plan.zipIdx index, (play entry.2 entry.1).result = .stable ∧
    (play entry.2 entry.1).inconclusiveReason = none
  reports : run.result.phaseReports =
    reports ++ (plan.zipIdx index).flatMap fun entry => (play entry.2 entry.1).phaseReports

theorem wholeRun_of_stable
    (hstable : (runAll play index plan frames reports).result.result = .stable)
    (hreason : (runAll play index plan frames reports).result.inconclusiveReason = none) :
    WholeRun play index plan reports (runAll play index plan frames reports) := by
  induction plan generalizing index frames reports with
  | nil =>
    refine ⟨rfl, ?_, (List.append_nil _).symm⟩
    intro entry hentry
    cases hentry
  | cons segment rest ih =>
    by_cases hplayed : (play index segment).result = .stable
    · cases hwhy : (play index segment).inconclusiveReason with
      | some reason =>
        rw [(runAll_inconclusive frames rest reports hplayed hwhy).1] at hreason
        cases hreason
      | none =>
        obtain ⟨hresult, hhooks⟩ := runAll_next frames rest reports hplayed hwhy
        rw [hresult] at hstable hreason
        obtain ⟨hlater, hrest, hreports⟩ := ih hstable hreason
        refine ⟨?_, ?_, ?_⟩
        · rw [hhooks, hlater, List.zipIdx_cons, List.map_cons]
        · rw [List.zipIdx_cons, List.forall_mem_cons]
          exact ⟨⟨hplayed, hwhy⟩, hrest⟩
        · rw [hresult, hreports, List.zipIdx_cons, List.flatMap_cons, List.append_assoc]
    · rw [(runAll_failed frames rest reports hplayed).1] at hstable
      exact absurd hstable hplayed

/-- A segment that was played and failed decides the run. -/
theorem failed_of_played {entry : VfQualifierSegment × Nat}
    (hentry : entry ∈ plan.zipIdx index)
    (hplayed : hookOf entry ∈ (runAll play index plan frames reports).hooks)
    (hfailed : (play entry.2 entry.1).result ≠ .stable) :
    (runAll play index plan frames reports).result.result ≠ .stable ∧
      (runAll play index plan frames reports).result.inconclusiveReason = none := by
  induction plan generalizing index frames reports with
  | nil => cases hentry
  | cons segment rest ih =>
    rw [List.zipIdx_cons, List.mem_cons] at hentry
    by_cases hfirst : (play index segment).result = .stable
    · have hother : entry ∈ rest.zipIdx (index + 1) := by
        refine hentry.resolve_left ?_
        rintro rfl
        exact hfailed hfirst
      have hindex : entry.2 ≠ index := by
        have := List.le_snd_of_mem_zipIdx hother
        omega
      cases hwhy : (play index segment).inconclusiveReason with
      | some reason =>
        rw [(runAll_inconclusive frames rest reports hfirst hwhy).2, List.mem_singleton] at hplayed
        exact absurd (congrArg Prod.fst hplayed) hindex
      | none =>
        obtain ⟨hresult, hhooks⟩ := runAll_next frames rest reports hfirst hwhy
        rw [hhooks, List.mem_cons] at hplayed
        rw [hresult]
        refine ih hother (hplayed.resolve_left ?_)
        intro heq
        exact hindex (congrArg Prod.fst heq)
    · obtain ⟨hresult, hreason, -⟩ := runAll_failed frames rest reports hfirst
      rw [hresult]
      exact ⟨hfirst, hreason⟩

end Runner

/-- A compute stage counts one check of its own; the field-concurrency phase counts those of the
secondary. -/
def selfChecked (workload : VfWorkload) : Prop :=
  workload = .computeBurst ∨ workload = .vramPressure ∨ workload = .compositeGameLoad

theorem saturatingAdd_pos_of_right {a b : Nat} (hb : 0 < b) : 0 < saturatingAdd a b := by
  unfold saturatingAdd u32Max
  omega

/-- The report that a segment leaves of its phase. -/
structure Reported (segment : VfQualifierSegment) (report : VfPhaseReport) : Prop where
  phase : report.phase = segment.phase
  stable : report.result = .stable
  checked : selfChecked segment.workload → 0 < report.checksumCount

theorem reported_fieldConcurrency {targetMs : Nat} {phase : VfQualifierPhase} {run : RenderRun}
    {worker : CanaryWorker}
    (hstable : (runFieldConcurrencyProfile targetMs phase (runRenderProfile (some phase) run)
      worker).result = .stable)
    (hreason : (runFieldConcurrencyProfile targetMs phase (runRenderProfile (some phase) run)
      worker).inconclusiveReason = none) :
    ∃ report ∈ (runFieldConcurrencyProfile targetMs phase (runRenderProfile (some phase) run)
      worker).phaseReports,
      report.phase = phase ∧ report.result = .stable ∧ 0 < report.checksumCount := by
  unfold runFieldConcurrencyProfile at hstable hreason ⊢
  by_cases hguard : (runRenderProfile (some phase) run).result = .stable ∧
      CoverageMissing (joinWorker targetMs worker)
  · rw [mergeFieldCanary_missing hguard.1 hguard.2] at hreason
    cases hwhy : (joinWorker targetMs worker).inconclusiveReason with
    | none => rw [hwhy] at hreason; cases hreason
    | some reason => rw [hwhy] at hreason; cases hreason
  · rw [mergeFieldCanary_covered hguard] at hstable ⊢
    have hprimary := (strongerStabilityFailure_eq_stable_iff.mp hstable).1
    have hcovered : ¬ CoverageMissing (joinWorker targetMs worker) :=
      fun h => hguard ⟨hprimary, h⟩
    unfold CoverageMissing at hcovered
    push Not at hcovered
    refine ⟨_, List.mem_singleton_self _, rfl, hstable, ?_⟩
    exact saturatingAdd_pos_of_right (by omega)

theorem reported_of_stable {segment : VfQualifierSegment} {outcome : SegmentOutcome}
    (hstable : (runSegment segment outcome).result = .stable)
    (hreason : (runSegment segment outcome).inconclusiveReason = none) :
    ∃ report ∈ (runSegment segment outcome).phaseReports, Reported segment report := by
  obtain ⟨phase, workload, durationMs⟩ := segment
  have hrender : ∀ workload, ¬ selfChecked workload →
      (runRenderProfile (some phase) outcome.run).result = .stable →
      ∃ report ∈ (runRenderProfile (some phase) outcome.run).phaseReports,
        Reported ⟨phase, workload, durationMs⟩ report :=
    fun _ hnot hstable =>
      ⟨_, List.mem_singleton_self _, rfl, hstable, fun hself => absurd hself hnot⟩
  cases workload with
  | compositeGameLoad =>
    obtain ⟨report, hmem, hphase, hresult, hchecked⟩ :=
      reported_fieldConcurrency hstable hreason
    exact ⟨report, hmem, hphase, hresult, fun _ => hchecked⟩
  | computeBurst => exact ⟨_, List.mem_singleton_self _, rfl, hstable, fun _ => Nat.one_pos⟩
  | vramPressure => exact ⟨_, List.mem_singleton_self _, rfl, hstable, fun _ => Nat.one_pos⟩
  | powerRender => exact hrender _ (by unfold selfChecked; decide) hstable
  | boostEdge => exact hrender _ (by unfold selfChecked; decide) hstable
  | heavySpike => exact hrender _ (by unfold selfChecked; decide) hstable
  | textureRop => exact hrender _ (by unfold selfChecked; decide) hstable
  | idlePulse => exact hrender _ (by unfold selfChecked; decide) hstable
  | mixedGame => exact hrender _ (by unfold selfChecked; decide) hstable
  | frameCadence => exact hrender _ (by unfold selfChecked; decide) hstable
  | geometryDepth => exact hrender _ (by unfold selfChecked; decide) hstable
  | textureStream => exact hrender _ (by unfold selfChecked; decide) hstable
  | boostEntry => exact hrender _ (by unfold selfChecked; decide) hstable

section Verdict

variable {result : StabilityResult} {phaseReports : List VfPhaseReport}
  {samples : List PhaseSample} {targetMhz : Option Nat} {pattern : VfQualifierPattern}
  {powerLimitW : Option Float32} {inconclusiveReason : Option String}

theorem coverageVerdict_pass
    (h : (coverageVerdict result phaseReports samples targetMhz pattern powerLimitW
      inconclusiveReason).1 = .pass) :
    inconclusiveReason = none ∧ result = .stable ∧
      qualifierExpectedPhases pattern ≤ checksumTotal phaseReports := by
  unfold coverageVerdict at h
  cases inconclusiveReason with
  | some reason => cases h
  | none =>
    dsimp only at h
    split at h
    next => cases h
    next hstable =>
      split at h
      next => cases h
      next =>
        split at h
        next => cases h
        next hchecksums =>
          refine ⟨rfl, ?_, Nat.not_lt.mp hchecksums⟩
          simpa [StabilityResult.isStable] using hstable

theorem coverageVerdict_fail (h : result ≠ .stable) :
    (coverageVerdict result phaseReports samples targetMhz pattern powerLimitW none).1 =
      .fail := by
  unfold coverageVerdict
  dsimp only
  rw [if_pos (by simpa [StabilityResult.isStable] using h)]

variable (phaseReports) in
theorem foldl_saturatingAdd_le (total : Nat) :
    phaseReports.foldl (fun total report => saturatingAdd total report.checksumCount) total ≤
      total + (phaseReports.map VfPhaseReport.checksumCount).sum := by
  induction phaseReports generalizing total with
  | nil => exact Nat.le_add_right _ _
  | cons report rest ih =>
    have hstep : saturatingAdd total report.checksumCount ≤ total + report.checksumCount :=
      Nat.min_le_left _ _
    have hrest := ih (saturatingAdd total report.checksumCount)
    rw [List.foldl_cons, List.map_cons, List.sum_cons]
    omega

theorem checksumTotal_le :
    checksumTotal phaseReports ≤ (phaseReports.map VfPhaseReport.checksumCount).sum := by
  have := foldl_saturatingAdd_le phaseReports 0
  rwa [Nat.zero_add] at this

end Verdict

/-- The distinct phases of a plan. -/
def distinctPhases (plan : List VfQualifierSegment) : Nat :=
  seenCount fun phase => plan.any fun segment => segment.phase == phase

theorem distinctPhases_plan (targetMs : Nat) (pattern : VfQualifierPattern) :
    distinctPhases (vfQualifierPlan targetMs pattern) = qualifierExpectedPhases pattern := by
  have hany : ∀ (targetMs : Nat) (phase : VfQualifierPhase),
      ((vfQualifierPlan targetMs pattern).any fun segment => segment.phase == phase) =
        ((template pattern).map Prod.fst).any (· == phase) := by
    intro targetMs phase
    rw [← vfQualifierPlan_phases targetMs pattern, List.any_map]
    rfl
  unfold distinctPhases qualifierExpectedPhases
  simp only [hany]

structure QualificationDwell where
  pattern : VfQualifierPattern
  targetMs : Nat
  outcome : Nat → SegmentOutcome
  samples : List PhaseSample
  targetMhz : Option Nat
  powerLimitW : Option Float32

namespace QualificationDwell

variable (dwell : QualificationDwell)

def plan : List VfQualifierSegment := vfQualifierPlan dwell.targetMs dwell.pattern

/-- The stop flag is never set. -/
def run : QualifierRun :=
  runVfQualifierStress dwell.targetMs dwell.pattern (fun _ => false) dwell.outcome

def coverage : F2QualificationCoverage :=
  qualificationCoverageFromRun dwell.run.result.result dwell.run.result.phaseReports
    dwell.samples dwell.targetMhz dwell.pattern dwell.powerLimitW
    dwell.run.result.inconclusiveReason

/-- What the segment at an index of the plan comes to. -/
def played (entry : VfQualifierSegment × Nat) : RenderResult :=
  runSegment entry.1 (dwell.outcome entry.2)

/-- The whole recipe ran: every segment in order, stably and conclusively, for the time asked for,
with a stable report of each phase, a check of each phase that checks itself, and as many checks as
there are phases. -/
structure RecipeRan : Prop where
  inOrder : dwell.run.hooks = dwell.plan.zipIdx.map hookOf
  stable : ∀ entry ∈ dwell.plan.zipIdx, (dwell.played entry).result = .stable ∧
    (dwell.played entry).inconclusiveReason = none
  duration : (dwell.plan.map VfQualifierSegment.durationMs).sum = dwell.targetMs
  reported : ∀ segment ∈ dwell.plan,
    ∃ report ∈ dwell.run.result.phaseReports, Reported segment report
  checksums : distinctPhases dwell.plan ≤
    (dwell.run.result.phaseReports.map VfPhaseReport.checksumCount).sum

theorem coverage_verdict : dwell.coverage.verdict =
    (coverageVerdict dwell.run.result.result dwell.run.result.phaseReports dwell.samples
      dwell.targetMhz dwell.pattern dwell.powerLimitW dwell.run.result.inconclusiveReason).1 :=
  rfl

theorem wholeRun (hreason : dwell.run.result.inconclusiveReason = none)
    (hstable : dwell.run.result.result = .stable) :
    WholeRun (fun index segment => runSegment segment (dwell.outcome index)) 0 dwell.plan []
      dwell.run :=
  wholeRun_of_stable hstable hreason

theorem recipeRan_of_pass (htarget : dwell.targetMs ≤ u64Max)
    (h : dwell.coverage.verdict = .pass) : dwell.RecipeRan := by
  rw [coverage_verdict] at h
  obtain ⟨hreason, hstable, hchecksums⟩ := coverageVerdict_pass h
  obtain ⟨hhooks, hplayed, hreports⟩ := dwell.wholeRun hreason hstable
  refine ⟨hhooks, hplayed, vfQualifierPlan_sum htarget dwell.pattern, ?_, ?_⟩
  · intro segment hsegment
    obtain ⟨index, hindex⟩ := List.mem_iff_getElem?.mp hsegment
    have hentry : (segment, index) ∈ dwell.plan.zipIdx :=
      List.mem_zipIdx_iff_getElem?.mpr hindex
    obtain ⟨hresult, hwhy⟩ := hplayed _ hentry
    obtain ⟨report, hreport, hsays⟩ := reported_of_stable hresult hwhy
    refine ⟨report, ?_, hsays⟩
    rw [hreports, List.nil_append, List.mem_flatMap]
    exact ⟨_, hentry, hreport⟩
  · rw [plan, distinctPhases_plan]
    exact hchecksums.trans checksumTotal_le

end QualificationDwell

/-- A pass means that the whole recipe ran, and a segment that was played and failed means a
failure. -/
theorem pass_means_recipe_ran (dwell : QualificationDwell) (htarget : dwell.targetMs ≤ u64Max) :
    (dwell.coverage.verdict = .pass → dwell.RecipeRan) ∧
      ∀ entry ∈ dwell.plan.zipIdx, hookOf entry ∈ dwell.run.hooks →
        (dwell.played entry).result ≠ .stable → dwell.coverage.verdict = .fail := by
  refine ⟨dwell.recipeRan_of_pass htarget, fun entry hentry hplayed hfailed => ?_⟩
  obtain ⟨hresult, hreason⟩ := failed_of_played hentry hplayed hfailed
  have hnone : dwell.run.result.inconclusiveReason = none := hreason
  rw [QualificationDwell.coverage_verdict, hnone]
  exact coverageVerdict_fail hresult

/-- A short dwell. The sixth segment of the first recipe is its idle pulse, 100 ms here, and its
setup outlasts it. -/
def noIdleFrames : QualificationDwell where
  pattern := .fsgl1
  targetMs := 1300
  outcome := fun index =>
    { run :=
        { result := .stable, frames := if index = 5 then 0 else 6
          checksumCount := if index = 5 then 0 else 3, elapsedMs := 140 }
      worker := none }
  samples :=
    [{ clockMhz := 1905, powerW := 180, powerCapped := false, temperatureC := none
       phaseCode := 2, thermalThrottled := false }]
  targetMhz := none
  powerLimitW := none

theorem noIdleFrames_passes : noIdleFrames.coverage.verdict = .pass := rfl

/-- A pass with a phase that no report counts a checksum of. -/
theorem pass_with_unchecked_phase :
    ∃ dwell : QualificationDwell, totalWeight dwell.pattern ≤ dwell.targetMs ∧
      dwell.targetMs ≤ u64Max ∧ dwell.coverage.verdict = .pass ∧
      ∃ segment ∈ dwell.plan, ∀ report ∈ dwell.run.result.phaseReports,
        report.phase = segment.phase → report.checksumCount = 0 := by
  exact ⟨noIdleFrames, by decide, by decide, noIdleFrames_passes,
    ⟨.idlePulse, .idlePulse, 100⟩, by decide, by decide⟩

theorem pass_means_recipe_ran_noIdleFrames :
    noIdleFrames.coverage.verdict = .pass ∧ noIdleFrames.RecipeRan :=
  ⟨noIdleFrames_passes, (pass_means_recipe_ran noIdleFrames (by decide)).1 noIdleFrames_passes⟩

end Nidavellir.VfQualifier

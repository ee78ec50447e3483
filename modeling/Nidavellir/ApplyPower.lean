import Nidavellir.ApplyEvidence
import Nidavellir.Lib.Extremes
import Nidavellir.Lib.Grouped

namespace Nidavellir

open Extremes Grouped

/-- What the counted passes of one run have shown: the patterns marked and the greatest power. -/
structure SoakRun where
  seen : List F2QualificationPattern
  power : ℚ

def SoakRun.fresh : SoakRun := ⟨[], 0⟩

def SoakRun.isComplete (run : SoakRun) (patterns : List F2QualificationPattern) : Bool :=
  patterns.all run.seen.contains

/-- `run_id.is_none_or(|expected| o.run_id == expected)`. -/
def F2Observation.isOfRun (o : F2Observation) (runId : Option String) : Bool :=
  runId.all fun expected => o.runId == expected

section Watts

variable (watts : Float32 → Option ℚ)

def SoakRun.add (patterns : List F2QualificationPattern) (run : SoakRun) (o : F2Observation) :
    SoakRun :=
  match o.pattern with
  | none => run
  | some pattern =>
    if patterns.contains pattern then
      ⟨pattern :: run.seen, max run.power ((o.p99Watts watts).getD 0)⟩
    else run

/-- The greatest power of a run whose passes show every one of some patterns. -/
def completeRunP99 (patterns : List F2QualificationPattern) (counted : List F2Observation) :
    Option ℚ :=
  let runs := accumulate F2Observation.runId SoakRun.fresh (SoakRun.add watts patterns) counted
  (((values runs).filter fun run => run.isComplete patterns).map SoakRun.power).max?

/-- The reset-clean, trustworthy passes with a finite positive power. -/
def countedPasses (passed : F2Observation → Bool) (obs : List F2Observation)
    (runId : Option String) (targetMhz anchorMv : Nat) (gpuKey : String) : List F2Observation :=
  obs.filter fun o => o.isOfRun runId && o.isAt targetMhz anchorMv gpuKey && passed o &&
    o.resetToStockOk && o.bootFlagCleared && applyQualReadingTrustworthy o targetMhz &&
    (o.p99Watts watts).isSome

def applyQualificationP99AtAnchor (obs : List F2Observation) (runId : Option String)
    (targetMhz anchorMv : Nat) (gpuKey : String) : Option ℚ :=
  completeRunP99 watts requiredQualificationPatterns
    (countedPasses watts isCurrentApplyQualificationPass obs runId targetMhz anchorMv gpuKey)

def currentApplyQualificationP99AtAnchor (obs : List F2Observation) (runId : String)
    (targetMhz anchorMv : Nat) (gpuKey : String) : Option ℚ :=
  applyQualificationP99AtAnchor watts obs (some runId) targetMhz anchorMv gpuKey

def highestApplyQualificationP99AtAnchor (obs : List F2Observation) (targetMhz anchorMv : Nat)
    (gpuKey : String) : Option ℚ :=
  applyQualificationP99AtAnchor watts obs none targetMhz anchorMv gpuKey

def completeGatePatterns : List F2QualificationPattern :=
  requiredQualificationPatterns ++ [.endurance]

def completeApplyGateP99AtAnchor (obs : List F2Observation) (runId : Option String)
    (targetMhz anchorMv : Nat) (gpuKey : String) : Option ℚ :=
  completeRunP99 watts completeGatePatterns
    (countedPasses watts isCurrentApplyQualificationEvidence obs runId targetMhz anchorMv gpuKey)

def highestCompleteApplyGateP99AtAnchor (obs : List F2Observation) (targetMhz anchorMv : Nat)
    (gpuKey : String) : Option ℚ :=
  completeApplyGateP99AtAnchor watts obs none targetMhz anchorMv gpuKey

end Watts

section Runs

variable {watts : Float32 → Option ℚ} {patterns : List F2QualificationPattern}
  {counted counted' : List F2Observation} {run : String}

/-- Every one of some patterns is shown by a pass of the run. -/
def Soaked (patterns : List F2QualificationPattern) (counted : List F2Observation)
    (run : String) : Prop :=
  ∀ pattern ∈ patterns, ∃ o ∈ counted, o.runId = run ∧ o.pattern = some pattern

def runPower (watts : Float32 → Option ℚ) (patterns : List F2QualificationPattern)
    (counted : List F2Observation) (run : String) : ℚ :=
  ((group F2Observation.runId run counted).foldl (SoakRun.add watts patterns) .fresh).power

theorem mem_seen_foldl {passes : List F2Observation} {start : SoakRun}
    {pattern : F2QualificationPattern} :
    pattern ∈ (passes.foldl (SoakRun.add watts patterns) start).seen ↔
      pattern ∈ start.seen ∨ pattern ∈ patterns ∧ ∃ o ∈ passes, o.pattern = some pattern := by
  induction passes generalizing start with
  | nil => simp
  | cons o passes ih =>
    rw [List.foldl_cons, ih]
    cases hp : o.pattern with
    | none => simp [SoakRun.add, hp]
    | some shown =>
      by_cases hmem : shown ∈ patterns
      · simp only [SoakRun.add, hp, List.contains_iff_mem, hmem, if_true, List.mem_cons,
          exists_eq_or_imp, Option.some.injEq]
        constructor
        · rintro ((rfl | hstart) | hrest)
          · exact .inr ⟨hmem, .inl rfl⟩
          · exact .inl hstart
          · exact .inr ⟨hrest.1, .inr hrest.2⟩
        · rintro (hstart | ⟨hpattern, rfl | hrest⟩)
          · exact .inl (.inr hstart)
          · exact .inl (.inl rfl)
          · exact .inr ⟨hpattern, hrest⟩
      · simp only [SoakRun.add, hp, List.contains_iff_mem, hmem, if_false, List.mem_cons,
          exists_eq_or_imp, Option.some.injEq]
        refine or_congr_right (and_congr_right fun hpattern => ?_)
        have hne : shown ≠ pattern := fun heq => hmem (heq ▸ hpattern)
        simp [hne]

theorem power_foldl_le_iff {passes : List F2Observation} {start : SoakRun} {bound : ℚ} :
    (passes.foldl (SoakRun.add watts patterns) start).power ≤ bound ↔
      start.power ≤ bound ∧ ∀ o ∈ passes, ∀ pattern ∈ patterns, o.pattern = some pattern →
        (o.p99Watts watts).getD 0 ≤ bound := by
  induction passes generalizing start with
  | nil => simp
  | cons o passes ih =>
    rw [List.foldl_cons, ih, List.forall_mem_cons, ← and_assoc]
    refine and_congr_left fun _ => ?_
    cases hp : o.pattern with
    | none => simp [SoakRun.add, hp]
    | some shown =>
      by_cases hmem : shown ∈ patterns
      · simp only [SoakRun.add, hp, List.contains_iff_mem, hmem, if_true, max_le_iff,
          Option.some.injEq]
        exact and_congr_right fun _ => ⟨fun h _ _ _ => h, fun h => h shown hmem rfl⟩
      · have hnone : ∀ pattern ∈ patterns, shown ≠ pattern := by
          intro pattern hpattern heq
          exact hmem (heq ▸ hpattern)
        simp only [SoakRun.add, hp, List.contains_iff_mem, hmem, if_false, Option.some.injEq]
        exact (and_iff_left fun pattern hpattern heq => absurd heq (hnone pattern hpattern)).symm

theorem isComplete_group_iff :
    ((group F2Observation.runId run counted).foldl (SoakRun.add watts patterns)
      .fresh).isComplete patterns ↔ Soaked patterns counted run := by
  simp only [SoakRun.isComplete, List.all_eq_true, List.contains_iff_mem, mem_seen_foldl,
    SoakRun.fresh, List.not_mem_nil, false_or, mem_group, Soaked, and_assoc]
  exact forall₂_congr fun pattern hpattern => and_iff_right hpattern

theorem runPower_le_iff {bound : ℚ} : runPower watts patterns counted run ≤ bound ↔
    0 ≤ bound ∧ ∀ o ∈ counted, o.runId = run → ∀ pattern ∈ patterns,
      o.pattern = some pattern → (o.p99Watts watts).getD 0 ≤ bound := by
  rw [runPower, power_foldl_le_iff]
  simp only [SoakRun.fresh, mem_group, and_imp]

theorem p99_le_runPower {o : F2Observation} (ho : o ∈ counted) (hrun : o.runId = run)
    {pattern : F2QualificationPattern} (hmem : pattern ∈ patterns)
    (hp : o.pattern = some pattern) :
    (o.p99Watts watts).getD 0 ≤ runPower watts patterns counted run :=
  (runPower_le_iff.mp (le_refl _)).2 o ho hrun pattern hmem hp

/-- More passes of more patterns never lower the power of a run. -/
theorem runPower_mono {patterns' : List F2QualificationPattern}
    (hpatterns : ∀ pattern ∈ patterns, pattern ∈ patterns')
    (hsub : ∀ o ∈ counted, o.runId = run → o ∈ counted') :
    runPower watts patterns counted run ≤ runPower watts patterns' counted' run := by
  refine runPower_le_iff.mpr ⟨(runPower_le_iff.mp (le_refl _)).1, ?_⟩
  intro o ho hrun pattern hpattern hp
  exact p99_le_runPower (hsub o ho hrun) hrun (hpatterns pattern hpattern) hp

theorem Soaked.mono (h : Soaked patterns counted run)
    (hsub : ∀ o ∈ counted, o.runId = run → o ∈ counted') : Soaked patterns counted' run := by
  intro pattern hpattern
  obtain ⟨o, ho, hrun, hp⟩ := h pattern hpattern
  exact ⟨o, hsub o ho hrun, hrun, hp⟩

/-- The powers compared are those of the runs that show every pattern. -/
theorem mem_completeRuns_iff (hne : patterns ≠ []) {power : ℚ} :
    power ∈ ((values (accumulate F2Observation.runId .fresh (SoakRun.add watts patterns)
      counted)).filter fun run => run.isComplete patterns).map SoakRun.power ↔
      ∃ run, Soaked patterns counted run ∧ runPower watts patterns counted run = power := by
  simp only [List.mem_map, List.mem_filter, mem_values_accumulate]
  constructor
  · rintro ⟨_, ⟨⟨run, _, rfl⟩, hcomplete⟩, rfl⟩
    exact ⟨run, isComplete_group_iff.mp hcomplete, rfl⟩
  · rintro ⟨run, hsoaked, rfl⟩
    obtain ⟨pattern, hpattern⟩ := List.exists_mem_of_ne_nil patterns hne
    obtain ⟨o, ho, hrun, _⟩ := hsoaked pattern hpattern
    exact ⟨_, ⟨⟨run, ⟨o, ho, hrun⟩, rfl⟩, isComplete_group_iff.mpr hsoaked⟩, rfl⟩

theorem raised_completeRunP99 (hne : patterns ≠ []) (hsub : ∀ o ∈ counted, o ∈ counted') :
    Raised (completeRunP99 watts patterns counted) (completeRunP99 watts patterns counted') := by
  refine raised_max? fun power hpower => ?_
  obtain ⟨run, hsoaked, rfl⟩ := (mem_completeRuns_iff hne).mp hpower
  have hrun : ∀ o ∈ counted, o.runId = run → o ∈ counted' := fun o ho _ => hsub o ho
  refine ⟨runPower watts patterns counted' run, ?_, runPower_mono (fun _ h => h) hrun⟩
  exact (mem_completeRuns_iff hne).mpr ⟨run, hsoaked.mono hrun, rfl⟩

/-- Over the passes of a single run the greatest power is the power of that run. -/
theorem completeRunP99_eq_some_iff (hne : patterns ≠ []) (hrun : ∀ o ∈ counted, o.runId = run)
    {power : ℚ} : completeRunP99 watts patterns counted = some power ↔
      Soaked patterns counted run ∧ runPower watts patterns counted run = power := by
  have hsingle : ∀ run', Soaked patterns counted run' → run' = run := by
    intro run' hsoaked
    obtain ⟨pattern, hpattern⟩ := List.exists_mem_of_ne_nil patterns hne
    obtain ⟨o, ho, hrun', _⟩ := hsoaked pattern hpattern
    exact hrun'.symm.trans (hrun o ho)
  rw [completeRunP99, List.max?_eq_some_iff]
  simp only [mem_completeRuns_iff hne]
  constructor
  · rintro ⟨⟨run', hsoaked, hpower⟩, _⟩
    obtain rfl := hsingle run' hsoaked
    exact ⟨hsoaked, hpower⟩
  · rintro ⟨hsoaked, rfl⟩
    refine ⟨⟨run, hsoaked, rfl⟩, ?_⟩
    rintro power ⟨run', hsoaked', rfl⟩
    rw [hsingle run' hsoaked']

end Runs

section Queries

variable {watts : Float32 → Option ℚ} {obs obs' : List F2Observation} {runId : String}
  {targetMhz anchorMv : Nat} {gpuKey : String}

theorem mem_countedPasses {passed : F2Observation → Bool} {runId : Option String}
    {o : F2Observation} :
    o ∈ countedPasses watts passed obs runId targetMhz anchorMv gpuKey ↔
      o ∈ obs ∧ o.isOfRun runId ∧ o.isAt targetMhz anchorMv gpuKey ∧ passed o ∧
        o.resetToStockOk ∧ o.bootFlagCleared ∧ applyQualReadingTrustworthy o targetMhz ∧
        (o.p99Watts watts).isSome := by
  simp only [countedPasses, List.mem_filter, Bool.and_eq_true, and_assoc]

theorem countedPasses_run {passed : F2Observation → Bool} {o : F2Observation}
    (ho : o ∈ countedPasses watts passed obs (some runId) targetMhz anchorMv gpuKey) :
    o.runId = runId := by
  have hrun := (mem_countedPasses.mp ho).2.1
  simpa [F2Observation.isOfRun] using hrun

theorem completeGatePatterns_ne_nil : completeGatePatterns ≠ [] := by
  decide

theorem requiredQualificationPatterns_ne_nil : requiredQualificationPatterns ≠ [] := by
  decide

theorem required_mem_completeGate {pattern : F2QualificationPattern}
    (h : pattern ∈ requiredQualificationPatterns) : pattern ∈ completeGatePatterns :=
  List.mem_append_left _ h

theorem countedPasses_mono {passed : F2Observation → Bool} {runId : Option String}
    (hsub : ∀ o, o.isOfRun runId → o.isAt targetMhz anchorMv gpuKey → o ∈ obs → o ∈ obs') :
    ∀ o ∈ countedPasses watts passed obs runId targetMhz anchorMv gpuKey,
      o ∈ countedPasses watts passed obs' runId targetMhz anchorMv gpuKey := by
  intro o ho
  obtain ⟨hmem, hrun, hat, hrest⟩ := mem_countedPasses.mp ho
  exact mem_countedPasses.mpr ⟨hsub o hrun hat hmem, hrun, hat, hrest⟩

theorem raised_applyQualification {runId : Option String}
    (hsub : ∀ o, o.isOfRun runId → o.isAt targetMhz anchorMv gpuKey → o ∈ obs → o ∈ obs') :
    Raised (applyQualificationP99AtAnchor watts obs runId targetMhz anchorMv gpuKey)
      (applyQualificationP99AtAnchor watts obs' runId targetMhz anchorMv gpuKey) :=
  raised_completeRunP99 requiredQualificationPatterns_ne_nil (countedPasses_mono hsub)

theorem raised_completeApplyGate {runId : Option String}
    (hsub : ∀ o, o.isOfRun runId → o.isAt targetMhz anchorMv gpuKey → o ∈ obs → o ∈ obs') :
    Raised (completeApplyGateP99AtAnchor watts obs runId targetMhz anchorMv gpuKey)
      (completeApplyGateP99AtAnchor watts obs' runId targetMhz anchorMv gpuKey) :=
  raised_completeRunP99 completeGatePatterns_ne_nil (countedPasses_mono hsub)

theorem p99Watts_pos {o : F2Observation} {power : ℚ} (h : o.p99Watts watts = some power) :
    0 < power := by
  have hfilter := (Option.filter_eq_some_iff.mp h).2
  simpa using hfilter

theorem soaked_completeGate_iff {counted : List F2Observation} {run : String} :
    Soaked completeGatePatterns counted run ↔
      Soaked requiredQualificationPatterns counted run ∧
        ∃ o ∈ counted, o.runId = run ∧ o.pattern = some .endurance := by
  simp only [Soaked, completeGatePatterns, List.forall_mem_append, List.forall_mem_singleton]

theorem mem_completeGatePatterns_iff {pattern : F2QualificationPattern} :
    pattern ∈ completeGatePatterns ↔
      isRequiredQualificationPattern pattern = true ∨ pattern = .endurance := by
  simp [completeGatePatterns, isRequiredQualificationPattern]

/-- The passes of one run that its gate takes its power from. -/
def gatePasses (watts : Float32 → Option ℚ) (obs : List F2Observation) (runId : String)
    (targetMhz anchorMv : Nat) (gpuKey : String) : List F2Observation :=
  (countedPasses watts isCurrentApplyQualificationEvidence obs (some runId) targetMhz anchorMv
    gpuKey).filter fun o =>
      o.pattern.any fun pattern => isRequiredQualificationPattern pattern || pattern == .endurance

theorem mem_gatePasses {o : F2Observation} :
    o ∈ gatePasses watts obs runId targetMhz anchorMv gpuKey ↔
      o ∈ countedPasses watts isCurrentApplyQualificationEvidence obs (some runId) targetMhz
        anchorMv gpuKey ∧ ∃ pattern ∈ completeGatePatterns, o.pattern = some pattern := by
  rw [gatePasses, List.mem_filter]
  refine and_congr_right fun _ => ?_
  cases hp : o.pattern with
  | none => simp
  | some pattern => simp [mem_completeGatePatterns_iff]

theorem gatePasses_eq : gatePasses watts obs runId targetMhz anchorMv gpuKey =
    obs.filter fun o => o.runId == runId && o.isAt targetMhz anchorMv gpuKey &&
      isCurrentApplyQualificationEvidence o && o.resetToStockOk && o.bootFlagCleared &&
      applyQualReadingTrustworthy o targetMhz && (o.p99Watts watts).isSome &&
      o.pattern.any fun pattern =>
        isRequiredQualificationPattern pattern || pattern == .endurance := by
  rw [gatePasses, countedPasses, List.filter_filter]
  refine List.filter_congr fun o _ => ?_
  simp only [F2Observation.isOfRun, Option.all_some]
  rw [Bool.and_comm]

theorem soaked_gatePasses_iff :
    ((requiredQualificationPatterns.all fun required =>
        (gatePasses watts obs runId targetMhz anchorMv gpuKey).any fun o =>
          o.pattern == some required) &&
      (gatePasses watts obs runId targetMhz anchorMv gpuKey).any fun o =>
        o.pattern == some .endurance) = true ↔
      Soaked completeGatePatterns (countedPasses watts isCurrentApplyQualificationEvidence obs
        (some runId) targetMhz anchorMv gpuKey) runId := by
  have hshown (pattern : F2QualificationPattern) (hpattern : pattern ∈ completeGatePatterns) :
      ((gatePasses watts obs runId targetMhz anchorMv gpuKey).any fun o =>
        o.pattern == some pattern) = true ↔
      ∃ o ∈ countedPasses watts isCurrentApplyQualificationEvidence obs (some runId) targetMhz
        anchorMv gpuKey, o.runId = runId ∧ o.pattern = some pattern := by
    simp only [List.any_eq_true, beq_iff_eq]
    constructor
    · rintro ⟨o, ho, hp⟩
      have hcounted := (mem_gatePasses.mp ho).1
      exact ⟨o, hcounted, countedPasses_run hcounted, hp⟩
    · rintro ⟨o, ho, _, hp⟩
      exact ⟨o, mem_gatePasses.mpr ⟨ho, pattern, hpattern, hp⟩, hp⟩
  rw [soaked_completeGate_iff, Bool.and_eq_true, List.all_eq_true,
    hshown .endurance (List.mem_append_right _ (List.mem_singleton_self _))]
  exact and_congr_left fun _ =>
    forall₂_congr fun pattern hpattern => hshown pattern (required_mem_completeGate hpattern)

theorem countedPasses_p99 {passed : F2Observation → Bool} {runId : Option String}
    {o : F2Observation} (ho : o ∈ countedPasses watts passed obs runId targetMhz anchorMv gpuKey) :
    ∃ power, o.p99Watts watts = some power ∧ 0 < power := by
  obtain ⟨power, hpower⟩ := Option.isSome_iff_exists.mp (mem_countedPasses.mp ho).2.2.2.2.2.2.2
  exact ⟨power, hpower, p99Watts_pos hpower⟩

/-- The power of a run is the greatest of its passes. -/
theorem max?_gatePasses (hsoaked : Soaked completeGatePatterns (countedPasses watts
      isCurrentApplyQualificationEvidence obs (some runId) targetMhz anchorMv gpuKey) runId) :
    ((gatePasses watts obs runId targetMhz anchorMv gpuKey).filterMap fun o =>
      o.p99Watts watts).max? =
      some (runPower watts completeGatePatterns (countedPasses watts
        isCurrentApplyQualificationEvidence obs (some runId) targetMhz anchorMv gpuKey) runId) := by
  have hmem {o : F2Observation} {power : ℚ}
      (ho : o ∈ gatePasses watts obs runId targetMhz anchorMv gpuKey)
      (hpower : o.p99Watts watts = some power) :
      power ∈ (gatePasses watts obs runId targetMhz anchorMv gpuKey).filterMap fun o =>
        o.p99Watts watts :=
    List.mem_filterMap.mpr ⟨o, ho, hpower⟩
  obtain ⟨soak, hsoak, _, hendurance⟩ := (soaked_completeGate_iff.mp hsoaked).2
  have hpatterns : F2QualificationPattern.endurance ∈ completeGatePatterns :=
    mem_completeGatePatterns_iff.mpr (.inr rfl)
  obtain ⟨power, hpower, _⟩ := countedPasses_p99 hsoak
  have hlisted := hmem (mem_gatePasses.mpr ⟨hsoak, _, hpatterns, hendurance⟩) hpower
  cases hmax : ((gatePasses watts obs runId targetMhz anchorMv gpuKey).filterMap fun o =>
      o.p99Watts watts).max? with
  | none =>
    rw [List.max?_eq_none_iff.mp hmax] at hlisted
    simp at hlisted
  | some greatest =>
    obtain ⟨hgreatest, hbound⟩ := List.max?_eq_some_iff.mp hmax
    refine congrArg some (le_antisymm ?_ (runPower_le_iff.mpr ⟨?_, ?_⟩))
    · obtain ⟨o, ho, hp99⟩ := List.mem_filterMap.mp hgreatest
      obtain ⟨hcounted, pattern, hpattern, hp⟩ := mem_gatePasses.mp ho
      have hle : (o.p99Watts watts).getD 0 ≤ runPower watts completeGatePatterns _ runId :=
        p99_le_runPower hcounted (countedPasses_run hcounted) hpattern hp
      rwa [hp99] at hle
    · obtain ⟨o, _, hp99⟩ := List.mem_filterMap.mp hgreatest
      exact le_of_lt (p99Watts_pos hp99)
    · intro o ho _ pattern hpattern hp
      obtain ⟨shown, hshown, _⟩ := countedPasses_p99 ho
      rw [hshown]
      exact hbound shown (hmem (mem_gatePasses.mpr ⟨ho, pattern, hpattern, hp⟩) hshown)

/-- The gate of one run, whether its passes are grouped by run first or not. -/
theorem currentCompleteApplyGate_eq :
    currentCompleteApplyGateP99AtAnchor watts obs runId targetMhz anchorMv gpuKey =
      completeApplyGateP99AtAnchor watts obs (some runId) targetMhz anchorMv gpuKey := by
  have hunfold : currentCompleteApplyGateP99AtAnchor watts obs runId targetMhz anchorMv gpuKey =
      if (requiredQualificationPatterns.all fun required =>
          (gatePasses watts obs runId targetMhz anchorMv gpuKey).any fun o =>
            o.pattern == some required) &&
          (gatePasses watts obs runId targetMhz anchorMv gpuKey).any fun o =>
            o.pattern == some .endurance then
        ((gatePasses watts obs runId targetMhz anchorMv gpuKey).filterMap fun o =>
          o.p99Watts watts).max?
      else none := by
    rw [gatePasses_eq]
    rfl
  have hiff (power : ℚ) : completeApplyGateP99AtAnchor watts obs (some runId) targetMhz anchorMv
      gpuKey = some power ↔ _ :=
    completeRunP99_eq_some_iff completeGatePatterns_ne_nil fun o ho => countedPasses_run ho
  rw [hunfold]
  split
  next hcovered =>
    have hsoaked := soaked_gatePasses_iff.mp hcovered
    rw [max?_gatePasses hsoaked]
    exact ((hiff _).mpr ⟨hsoaked, rfl⟩).symm
  next hcovered =>
    refine (Option.eq_none_iff_forall_ne_some.mpr fun power hpower => hcovered ?_).symm
    exact soaked_gatePasses_iff.mpr ((hiff power).mp hpower).1

/-- Without a run the gate is the highest of the gates of the runs. -/
theorem highestCompleteApplyGate_eq :
    highestCompleteApplyGateP99AtAnchor watts obs targetMhz anchorMv gpuKey =
      ((obs.map F2Observation.runId).filterMap fun runId =>
        currentCompleteApplyGateP99AtAnchor watts obs runId targetMhz anchorMv gpuKey).max? := by
  have hof (run : String) (o : F2Observation) :
      o ∈ countedPasses watts isCurrentApplyQualificationEvidence obs (some run) targetMhz anchorMv
          gpuKey ↔
        o ∈ countedPasses watts isCurrentApplyQualificationEvidence obs none targetMhz anchorMv
          gpuKey ∧ o.runId = run := by
    simp only [mem_countedPasses, F2Observation.isOfRun, Option.all_none, Option.all_some,
      beq_iff_eq, true_and]
    tauto
  have hiff (run : String) (power : ℚ) : completeApplyGateP99AtAnchor watts obs (some run)
      targetMhz anchorMv gpuKey = some power ↔ _ :=
    completeRunP99_eq_some_iff completeGatePatterns_ne_nil fun o ho => ((hof run o).mp ho).2
  refine Raised.antisymm (raised_max? fun power hpower => ?_) (raised_max? fun power hpower => ?_)
  · obtain ⟨run, hsoaked, rfl⟩ := (mem_completeRuns_iff completeGatePatterns_ne_nil).mp hpower
    have hto : ∀ o ∈ countedPasses watts isCurrentApplyQualificationEvidence obs none targetMhz
        anchorMv gpuKey, o.runId = run → o ∈ countedPasses watts
          isCurrentApplyQualificationEvidence obs (some run) targetMhz anchorMv gpuKey :=
      fun o ho hrun => (hof run o).mpr ⟨ho, hrun⟩
    obtain ⟨o, ho, hrun, _⟩ := hsoaked _ (List.mem_append_right _ (List.mem_singleton_self _))
    refine ⟨_, List.mem_filterMap.mpr ⟨run, ?_, ?_⟩, runPower_mono (fun _ h => h) hto⟩
    · exact hrun ▸ List.mem_map_of_mem (mem_countedPasses.mp ho).1
    · rw [currentCompleteApplyGate_eq]
      exact (hiff run _).mpr ⟨hsoaked.mono hto, rfl⟩
  · obtain ⟨run, _, hgate⟩ := List.mem_filterMap.mp hpower
    rw [currentCompleteApplyGate_eq] at hgate
    obtain ⟨hsoaked, rfl⟩ := (hiff run power).mp hgate
    refine ⟨_, (mem_completeRuns_iff completeGatePatterns_ne_nil).mpr ⟨run, ?_, rfl⟩, ?_⟩
    · exact hsoaked.mono fun o ho _ => ((hof run o).mp ho).1
    · exact runPower_mono (fun _ h => h) fun o ho _ => ((hof run o).mp ho).1

/-- What the gate of one run says of its passes. -/
theorem currentCompleteApplyGate_eq_some {power : ℚ}
    (h : currentCompleteApplyGateP99AtAnchor watts obs runId targetMhz anchorMv gpuKey =
      some power) :
    Soaked completeGatePatterns (countedPasses watts isCurrentApplyQualificationEvidence obs
        (some runId) targetMhz anchorMv gpuKey) runId ∧
      runPower watts completeGatePatterns (countedPasses watts
        isCurrentApplyQualificationEvidence obs (some runId) targetMhz anchorMv gpuKey) runId =
        power := by
  rw [currentCompleteApplyGate_eq] at h
  exact (completeRunP99_eq_some_iff completeGatePatterns_ne_nil
    fun o ho => countedPasses_run ho).mp h

theorem gate_endurance {power : ℚ}
    (h : currentCompleteApplyGateP99AtAnchor watts obs runId targetMhz anchorMv gpuKey =
      some power) :
    pointHasCurrentEnduranceQualification obs runId targetMhz anchorMv gpuKey = true := by
  obtain ⟨hsoaked, _⟩ := currentCompleteApplyGate_eq_some h
  obtain ⟨o, ho, hrun, hendurance⟩ := (soaked_completeGate_iff.mp hsoaked).2
  obtain ⟨hmem, _, hat, hevidence, _⟩ := mem_countedPasses.mp ho
  refine List.any_eq_true.mpr ⟨o, hmem, ?_⟩
  simp [F2Observation.isCurrentEndurance, hrun, hat, hevidence, hendurance]

/-- The required set of the run is complete too, and its power is no greater. -/
theorem gate_qualified {power : ℚ}
    (h : currentCompleteApplyGateP99AtAnchor watts obs runId targetMhz anchorMv gpuKey =
      some power) :
    ∃ q, currentApplyQualificationP99AtAnchor watts obs runId targetMhz anchorMv gpuKey = some q ∧
      q ≤ power := by
  obtain ⟨hsoaked, rfl⟩ := currentCompleteApplyGate_eq_some h
  have hpass {o : F2Observation} {pattern : F2QualificationPattern}
      (hevidence : isCurrentApplyQualificationEvidence o = true) (hp : o.pattern = some pattern)
      (hpattern : pattern ∈ requiredQualificationPatterns) :
      isCurrentApplyQualificationPass o = true := by
    simp [isCurrentApplyQualificationPass, hevidence, hp, isRequiredQualificationPattern, hpattern]
  have hevidenced {o : F2Observation} (hpassed : isCurrentApplyQualificationPass o = true) :
      isCurrentApplyQualificationEvidence o = true :=
    (Bool.and_eq_true_iff.mp hpassed).1
  refine ⟨_, (completeRunP99_eq_some_iff requiredQualificationPatterns_ne_nil
    fun o ho => countedPasses_run ho).mpr ⟨?_, rfl⟩, ?_⟩
  · intro pattern hpattern
    obtain ⟨o, ho, hrun, hp⟩ := hsoaked pattern (required_mem_completeGate hpattern)
    obtain ⟨hmem, hof, hat, hevidence, hrest⟩ := mem_countedPasses.mp ho
    exact ⟨o, mem_countedPasses.mpr ⟨hmem, hof, hat, hpass hevidence hp hpattern, hrest⟩, hrun, hp⟩
  · refine runPower_mono (fun _ hpattern => required_mem_completeGate hpattern) fun o ho _ => ?_
    obtain ⟨hmem, hof, hat, hpassed, hrest⟩ := mem_countedPasses.mp ho
    exact mem_countedPasses.mpr ⟨hmem, hof, hat, hevidenced hpassed, hrest⟩

/-- The powers that count towards the worst case of a run. -/
def worstPowers (watts : Float32 → Option ℚ) (obs : List F2Observation) (runId : String)
    (targetMhz applyMv : Nat) (gpuKey : String) : List ℚ :=
  (obs.filter fun o => o.runId == runId && o.isAt targetMhz applyMv gpuKey &&
    isCurrentApplyQualificationEvidence o).flatMap fun o =>
      (o.p99Watts watts).toList ++ o.peakWatts.toList

theorem worstPower_eq :
    worstCurrentApplyQualificationPowerAtAnchor watts obs runId targetMhz anchorMv gpuKey =
      (worstPowers watts obs runId targetMhz anchorMv gpuKey).max? := rfl

theorem p99_mem_worstPowers {o : F2Observation} {power : ℚ}
    (ho : o ∈ countedPasses watts isCurrentApplyQualificationEvidence obs (some runId) targetMhz
      anchorMv gpuKey) (hpower : o.p99Watts watts = some power) :
    power ∈ worstPowers watts obs runId targetMhz anchorMv gpuKey := by
  obtain ⟨hmem, _, hat, hevidence, _⟩ := mem_countedPasses.mp ho
  refine List.mem_flatMap.mpr ⟨o, List.mem_filter.mpr ⟨hmem, ?_⟩, ?_⟩
  · simp [countedPasses_run ho, hat, hevidence]
  · simp [hpower]

theorem gate_worst {power : ℚ}
    (h : currentCompleteApplyGateP99AtAnchor watts obs runId targetMhz anchorMv gpuKey =
      some power) :
    ∃ w, worstCurrentApplyQualificationPowerAtAnchor watts obs runId targetMhz anchorMv gpuKey =
      some w ∧ power ≤ w := by
  obtain ⟨hsoaked, hpower⟩ := currentCompleteApplyGate_eq_some h
  rw [worstPower_eq]
  have hraised : Raised (some power)
      (worstPowers watts obs runId targetMhz anchorMv gpuKey).max? := by
    rw [← hpower, ← max?_gatePasses hsoaked]
    refine raised_max? fun p99 hp99 => ?_
    obtain ⟨o, ho, hshown⟩ := List.mem_filterMap.mp hp99
    exact ⟨p99, p99_mem_worstPowers (mem_gatePasses.mp ho).1 hshown, le_refl p99⟩
  exact hraised power rfl

theorem gate_highest {power : ℚ}
    (h : currentCompleteApplyGateP99AtAnchor watts obs runId targetMhz anchorMv gpuKey =
      some power) :
    ∃ highest, highestCompleteApplyGateP99AtAnchor watts obs targetMhz anchorMv gpuKey =
      some highest ∧ power ≤ highest := by
  rw [currentCompleteApplyGate_eq] at h
  refine raised_completeRunP99 completeGatePatterns_ne_nil (fun o ho => ?_) power h
  obtain ⟨hmem, _, hrest⟩ := mem_countedPasses.mp ho
  exact mem_countedPasses.mpr ⟨hmem, rfl, hrest⟩

theorem raised_worst
    (hsub : ∀ o, o.runId = runId → o.isAt targetMhz anchorMv gpuKey → o ∈ obs → o ∈ obs') :
    Raised (worstCurrentApplyQualificationPowerAtAnchor watts obs runId targetMhz anchorMv gpuKey)
      (worstCurrentApplyQualificationPowerAtAnchor watts obs' runId targetMhz anchorMv gpuKey) := by
  rw [worstPower_eq, worstPower_eq]
  refine raised_max? fun power hpower => ⟨power, ?_, le_refl power⟩
  obtain ⟨o, ho, hshown⟩ := List.mem_flatMap.mp hpower
  obtain ⟨hmem, hcond⟩ := List.mem_filter.mp ho
  have hparts := hcond
  simp only [Bool.and_eq_true, beq_iff_eq] at hparts
  exact List.mem_flatMap.mpr
    ⟨o, List.mem_filter.mpr ⟨hsub o hparts.1.1 hparts.1.2 hmem, hcond⟩, hshown⟩

theorem endurance_mono
    (hsub : ∀ o, o.runId = runId → o.isAt targetMhz anchorMv gpuKey → o ∈ obs → o ∈ obs')
    (h : pointHasCurrentEnduranceQualification obs runId targetMhz anchorMv gpuKey = true) :
    pointHasCurrentEnduranceQualification obs' runId targetMhz anchorMv gpuKey = true := by
  obtain ⟨o, ho, hcurrent⟩ := List.any_eq_true.mp h
  have hparts := hcurrent
  simp only [F2Observation.isCurrentEndurance, Bool.and_eq_true, beq_iff_eq] at hparts
  exact List.any_eq_true.mpr ⟨o, hsub o hparts.1.1.1 hparts.1.1.2 ho, hcurrent⟩

/-- The queries of one run read only its observations of the pair, in no particular order. -/
theorem current_unchanged
    (hsame : ∀ o, o.runId = runId → o.isAt targetMhz anchorMv gpuKey → (o ∈ obs' ↔ o ∈ obs)) :
    currentCompleteApplyGateP99AtAnchor watts obs' runId targetMhz anchorMv gpuKey =
        currentCompleteApplyGateP99AtAnchor watts obs runId targetMhz anchorMv gpuKey ∧
      pointHasCurrentEnduranceQualification obs' runId targetMhz anchorMv gpuKey =
        pointHasCurrentEnduranceQualification obs runId targetMhz anchorMv gpuKey ∧
      currentApplyQualificationP99AtAnchor watts obs' runId targetMhz anchorMv gpuKey =
        currentApplyQualificationP99AtAnchor watts obs runId targetMhz anchorMv gpuKey ∧
      worstCurrentApplyQualificationPowerAtAnchor watts obs' runId targetMhz anchorMv gpuKey =
        worstCurrentApplyQualificationPowerAtAnchor watts obs runId targetMhz anchorMv gpuKey := by
  have hfewer : ∀ o, o.runId = runId → o.isAt targetMhz anchorMv gpuKey → o ∈ obs' → o ∈ obs :=
    fun o hrun hat => (hsame o hrun hat).mp
  have hmore : ∀ o, o.runId = runId → o.isAt targetMhz anchorMv gpuKey → o ∈ obs → o ∈ obs' :=
    fun o hrun hat => (hsame o hrun hat).mpr
  have hof {o : F2Observation} (h : o.isOfRun (some runId) = true) : o.runId = runId := by
    simpa [F2Observation.isOfRun] using h
  refine ⟨?_, ?_, ?_, (raised_worst hfewer).antisymm (raised_worst hmore)⟩
  · rw [currentCompleteApplyGate_eq, currentCompleteApplyGate_eq]
    exact (raised_completeApplyGate fun o hrun => hfewer o (hof hrun)).antisymm
      (raised_completeApplyGate fun o hrun => hmore o (hof hrun))
  · exact Bool.eq_iff_iff.mpr ⟨endurance_mono hfewer, endurance_mono hmore⟩
  · exact (raised_applyQualification fun o hrun => hfewer o (hof hrun)).antisymm
      (raised_applyQualification fun o hrun => hmore o (hof hrun))

theorem highest_raised (watts : Float32 → Option ℚ)
    (hsub : ∀ o, o.isAt targetMhz anchorMv gpuKey → o ∈ obs → o ∈ obs') :
    Raised (highestCompleteApplyGateP99AtAnchor watts obs targetMhz anchorMv gpuKey)
        (highestCompleteApplyGateP99AtAnchor watts obs' targetMhz anchorMv gpuKey) ∧
      Raised (highestApplyQualificationP99AtAnchor watts obs targetMhz anchorMv gpuKey)
        (highestApplyQualificationP99AtAnchor watts obs' targetMhz anchorMv gpuKey) :=
  ⟨raised_completeApplyGate fun o _ => hsub o, raised_applyQualification fun o _ => hsub o⟩

/-- No published power understates the gate of a run, and each depends only on the observations of
its pair and run; those over all runs only grow. -/
theorem publishedPower_sound (watts : Float32 → Option ℚ) (obs : List F2Observation)
    (runId : String) (targetMhz anchorMv : Nat) (gpuKey : String) :
    (∀ p, currentCompleteApplyGateP99AtAnchor watts obs runId targetMhz anchorMv gpuKey = some p →
      pointHasCurrentEnduranceQualification obs runId targetMhz anchorMv gpuKey = true ∧
      (∃ q, currentApplyQualificationP99AtAnchor watts obs runId targetMhz anchorMv gpuKey =
        some q ∧ q ≤ p) ∧
      (∃ w, worstCurrentApplyQualificationPowerAtAnchor watts obs runId targetMhz anchorMv
        gpuKey = some w ∧ p ≤ w) ∧
      ∃ h, highestCompleteApplyGateP99AtAnchor watts obs targetMhz anchorMv gpuKey = some h ∧
        p ≤ h) ∧
    ∀ added obs', obs'.Perm (obs ++ added) →
      ((∀ o ∈ added, o.runId ≠ runId ∨ o.isAt targetMhz anchorMv gpuKey = false) →
        currentCompleteApplyGateP99AtAnchor watts obs' runId targetMhz anchorMv gpuKey =
            currentCompleteApplyGateP99AtAnchor watts obs runId targetMhz anchorMv gpuKey ∧
          pointHasCurrentEnduranceQualification obs' runId targetMhz anchorMv gpuKey =
            pointHasCurrentEnduranceQualification obs runId targetMhz anchorMv gpuKey ∧
          currentApplyQualificationP99AtAnchor watts obs' runId targetMhz anchorMv gpuKey =
            currentApplyQualificationP99AtAnchor watts obs runId targetMhz anchorMv gpuKey ∧
          worstCurrentApplyQualificationPowerAtAnchor watts obs' runId targetMhz anchorMv gpuKey =
            worstCurrentApplyQualificationPowerAtAnchor watts obs runId targetMhz anchorMv
              gpuKey) ∧
      ((∀ o ∈ added, o.isAt targetMhz anchorMv gpuKey = false) →
        highestCompleteApplyGateP99AtAnchor watts obs' targetMhz anchorMv gpuKey =
            highestCompleteApplyGateP99AtAnchor watts obs targetMhz anchorMv gpuKey ∧
          highestApplyQualificationP99AtAnchor watts obs' targetMhz anchorMv gpuKey =
            highestApplyQualificationP99AtAnchor watts obs targetMhz anchorMv gpuKey) ∧
      Raised (highestCompleteApplyGateP99AtAnchor watts obs targetMhz anchorMv gpuKey)
        (highestCompleteApplyGateP99AtAnchor watts obs' targetMhz anchorMv gpuKey) ∧
      Raised (highestApplyQualificationP99AtAnchor watts obs targetMhz anchorMv gpuKey)
        (highestApplyQualificationP99AtAnchor watts obs' targetMhz anchorMv gpuKey) := by
  refine ⟨fun p hp => ⟨gate_endurance hp, gate_qualified hp, gate_worst hp, gate_highest hp⟩,
    fun added obs' hperm => ?_⟩
  have hmem (o : F2Observation) : o ∈ obs' ↔ o ∈ obs ∨ o ∈ added := by
    rw [hperm.mem_iff, List.mem_append]
  have hmore : ∀ o, o.isAt targetMhz anchorMv gpuKey → o ∈ obs → o ∈ obs' :=
    fun o _ ho => (hmem o).mpr (.inl ho)
  refine ⟨fun hother => current_unchanged fun o hrun hat => ?_, fun hother => ?_,
    highest_raised watts hmore⟩
  · rw [hmem]
    refine or_iff_left fun hadded => ?_
    rcases hother o hadded with hne | haway
    · exact hne hrun
    · simp [hat] at haway
  · have hfewer : ∀ o, o.isAt targetMhz anchorMv gpuKey → o ∈ obs' → o ∈ obs := by
      intro o hat ho
      rcases (hmem o).mp ho with hold | hadded
      · exact hold
      · simp [hother o hadded] at hat
    obtain ⟨hgate, hqualified⟩ := highest_raised watts hmore
    obtain ⟨hgate', hqualified'⟩ := highest_raised watts hfewer
    exact ⟨hgate'.antisymm hgate, hqualified'.antisymm hqualified⟩

end Queries

end Nidavellir

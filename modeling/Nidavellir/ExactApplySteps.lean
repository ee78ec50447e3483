import Nidavellir.ExactApply
import Mathlib.Data.Finset.Prod

namespace Nidavellir

theorem target_afterGate {point : PowerSweepPoint} {applyP95 : Nat} {worst gateP99 : Option ℚ} :
    (point.afterGate applyP95 worst gateP99).target = point.target ∧
      (point.afterGate applyP95 worst gateP99).vfTableVoltageMv = point.vfTableVoltageMv := by
  unfold PowerSweepPoint.afterGate
  cases gateP99 with
  | none => exact ⟨rfl, rfl⟩
  | some w =>
    simp only
    split
    next => exact ⟨rfl, rfl⟩
    next => exact ⟨rfl, rfl⟩

@[simp] theorem f2ApplyKey_afterGate {point : PowerSweepPoint} {applyP95 : Nat}
    {worst gateP99 : Option ℚ} :
    f2ApplyKey (point.afterGate applyP95 worst gateP99) = f2ApplyKey point := by
  obtain ⟨htarget, hmv⟩ := @target_afterGate point applyP95 worst gateP99
  rw [f2ApplyKey, f2ApplyKey, htarget, hmv]

@[simp] theorem approved_afterGate {point : PowerSweepPoint} {applyP95 : Nat}
    {worst gateP99 : Option ℚ} : (point.afterGate applyP95 worst gateP99).approved = true := by
  simp [PowerSweepPoint.afterGate, PowerSweepPoint.approved]

/-- No power the gate measured stays above the basis of the off-cap test. -/
theorem le_maxPowerW_afterGate {point : PowerSweepPoint} {applyP95 : Nat}
    {worst gateP99 : Option ℚ} {w : ℚ} (h : worst = some w) :
    w ≤ (point.afterGate applyP95 worst gateP99).maxPowerW := by
  subst h
  unfold PowerSweepPoint.afterGate
  cases gateP99 with
  | none => exact le_max_right _ _
  | some p99 =>
    simp only
    split
    next => exact le_max_right _ _
    next => exact le_max_right _ _

section Approve

variable {key : ApplyPair} {applyP95 : Nat} {worst gateP99 : Option ℚ} {classified : Classified}
  {entry : PowerSweepPoint × ℚ}

@[simp] theorem keysOf_approveKey :
    keysOf (approveKey key applyP95 worst gateP99 classified) = keysOf classified := by
  rw [keysOf, approveKey, List.filterMap_map]
  refine List.filterMap_congr fun entry _ => ?_
  by_cases hkey : f2ApplyKey entry.1 = some key
  · simp [Function.comp, hkey]
  · simp [Function.comp, hkey]

/-- An entry after the approval is the raised point of its pair, or an entry of another pair. -/
theorem mem_approveKey (h : entry ∈ approveKey key applyP95 worst gateP99 classified) :
    (∃ old ∈ classified, f2ApplyKey old.1 = some key ∧
      entry = (old.1.afterGate applyP95 worst gateP99, old.2)) ∨
      entry ∈ classified ∧ f2ApplyKey entry.1 ≠ some key := by
  obtain ⟨old, hold, rfl⟩ := List.mem_map.mp h
  by_cases hkey : f2ApplyKey old.1 = some key
  · rw [if_pos hkey]
    exact .inl ⟨old, hold, hkey, rfl⟩
  · rw [if_neg hkey]
    exact .inr ⟨hold, hkey⟩

end Approve

section Passes

variable {gate : Nat → Reply F2ApplyQualificationSummary}

theorem GatePasses.again_observations {left : Nat} {passes : GatePasses} :
    ∃ later, (GatePasses.again gate left passes).observations =
      passes.observations ++ later := by
  induction left generalizing passes with
  | zero => exact ⟨[], by simp [again]⟩
  | succ left ih =>
    rw [again]
    split
    next =>
      obtain ⟨later, hlater⟩ := @ih
        { summary := (gate passes.passesDone).summary,
          observations := passes.observations ++ (gate passes.passesDone).appended,
          passesDone := passes.passesDone + 1 }
      exact ⟨(gate passes.passesDone).appended ++ later, by rw [hlater, List.append_assoc]⟩
    next => exact ⟨[], by simp⟩

theorem GatePasses.again_passesDone_le {left : Nat} {passes : GatePasses} :
    (GatePasses.again gate left passes).passesDone ≤ passes.passesDone + left := by
  induction left generalizing passes with
  | zero => simp [again]
  | succ left ih =>
    rw [again]
    split
    next =>
      have hle := @ih
        { summary := (gate passes.passesDone).summary,
          observations := passes.observations ++ (gate passes.passesDone).appended,
          passesDone := passes.passesDone + 1 }
      exact hle.trans (by simp only; omega)
    next => omega

/-- A gate that ends qualified passed every time it was asked to. -/
theorem GatePasses.again_qualified {left : Nat} {passes : GatePasses}
    (h : (GatePasses.again gate left passes).summary.qualified = true) :
    passes.summary.qualified = true ∧
      ∀ i, passes.passesDone ≤ i → i < passes.passesDone + left →
        (gate i).summary.qualified = true := by
  induction left generalizing passes with
  | zero => exact ⟨h, fun i hge hlt => absurd hge (by omega)⟩
  | succ left ih =>
    rw [again] at h
    split at h
    next hqualified =>
      obtain ⟨hnext, hrest⟩ := ih h
      refine ⟨hqualified, fun i hge hlt => ?_⟩
      rcases Nat.eq_or_lt_of_le hge with rfl | hgt
      · exact hnext
      · exact hrest i hgt (by simp only; omega)
    next hqualified => exact absurd h hqualified

theorem runGate_observations {observations : List F2Observation} {required : Nat} :
    ∃ later, (runGate gate observations required).observations = observations ++ later := by
  obtain ⟨later, hlater⟩ := @GatePasses.again_observations gate (required - 1)
    { summary := (gate 0).summary, observations := observations ++ (gate 0).appended,
      passesDone := 1 }
  exact ⟨(gate 0).appended ++ later, by rw [runGate, hlater, List.append_assoc]⟩

theorem runGate_qualified {observations : List F2Observation} {required : Nat}
    (h : (runGate gate observations required).summary.qualified = true) :
    ∀ i < max 1 required, (gate i).summary.qualified = true := by
  obtain ⟨hfirst, hrest⟩ := GatePasses.again_qualified h
  intro i hi
  cases i with
  | zero => exact hfirst
  | succ i => exact hrest (i + 1) (by simp) (by simp only; omega)

theorem runGate_passesDone_le {observations : List F2Observation} {required : Nat} :
    (runGate gate observations required).passesDone ≤ max 1 required := by
  have hle := @GatePasses.again_passesDone_le gate (required - 1)
    { summary := (gate 0).summary, observations := observations ++ (gate 0).appended,
      passesDone := 1 }
  simp only at hle
  rw [runGate]
  omega

end Passes

theorem requiredApplyPasses_le {condemned : CondemnedPairs} {clockMhz anchorMv contract : Nat} :
    condemned.requiredApplyPasses clockMhz anchorMv contract ≤ 2 := by
  unfold CondemnedPairs.requiredApplyPasses
  split
  next => exact le_rfl
  next => omega

namespace ApplyLoop

/-- What a step at a selected pair may make of the classified points. -/
inductive Reclassified (run : ForgeRun) (s : ApplyLoop) (key : ApplyPair)
    (observations : List F2Observation) : Classified → Prop
  | same : Reclassified run s key observations s.classified
  | approved (applyP95 : Nat) (worst gateP99 : Option ℚ)
      (h : run.enduranceQualified observations key = true) :
      Reclassified run s key observations (approveKey key applyP95 worst gateP99 s.classified)
  | admitted (pair : ApplyPair) (candidate : PowerSweepPoint × ℚ)
      (hkey : f2ApplyKey candidate.1 = some pair) (hnot : candidate.1.approved = false)
      (hpair : pair.1 = key.1 ∧ (∃ bin ∈ run.saneBaseCurve, bin.mv = pair.2) ∨
        (∃ other ∈ keysOf s.classified, other.1 = pair.1) ∧ pair.2 = key.2) :
      Reclassified run s key observations (f2UpsertClassifiedCandidate s.classified candidate)

/-- A step that leaves the pass ends the loop or has excluded its pair. -/
structure Leaves (run : ForgeRun) (s : ApplyLoop) (key : ApplyPair) (s' : ApplyLoop) : Prop where
  phase : s'.phase = .ended none ∨ s'.phase = .synthesize ∧ key ∈ s'.excludedApplyPairs
  excluded : s.excludedApplyPairs ⊆ s'.excludedApplyPairs
  observations : ∃ later, s'.observations = s.observations ++ later
  classified : Reclassified run s key s'.observations s'.classified

variable {run : ForgeRun} {s s' : ApplyLoop} {key : ApplyPair} {point : PowerSweepPoint}
  {profiles : ForgeProfiles} {rest : List PowerSweepPoint} {answers : ApplyAnswers}
  {calibration : Reply F2PowerCalibrationSummary}

theorem Leaves.excluding {keys : Finset ApplyPair} (hkeys : key ∈ keys) :
    Leaves run s key (s.excluding keys) where
  phase := .inr ⟨rfl, Finset.mem_union_right _ hkeys⟩
  excluded := Finset.subset_union_left
  observations := ⟨[], (List.append_nil _).symm⟩
  classified := .same

theorem Leaves.givingUp (hkey : key ∈ s.excludedApplyPairs) {profileMaxMv : Nat} :
    Leaves run s key (s.givingUp key profileMaxMv) where
  phase := .inr ⟨rfl, hkey⟩
  excluded := Finset.Subset.refl _
  observations := ⟨[], (List.append_nil _).symm⟩
  classified := .same

theorem Leaves.abortedBy : Leaves run s key s.abortedBy where
  phase := .inl rfl
  excluded := Finset.Subset.refl _
  observations := ⟨[], (List.append_nil _).symm⟩
  classified := .same

theorem Leaves.admitting {pair : ApplyPair} {candidate : PowerSweepPoint × ℚ}
    {override : Option ApplyPair} (hexcluded : key ∈ s.excludedApplyPairs)
    (hkey : f2ApplyKey candidate.1 = some pair) (hnot : candidate.1.approved = false)
    (hpair : pair.1 = key.1 ∧ (∃ bin ∈ run.saneBaseCurve, bin.mv = pair.2) ∨
      (∃ other ∈ keysOf s.classified, other.1 = pair.1) ∧ pair.2 = key.2) :
    Leaves run s key (s.admitting pair candidate override) where
  phase := .inr ⟨rfl, hexcluded⟩
  excluded := Finset.Subset.refl _
  observations := ⟨[], (List.append_nil _).symm⟩
  classified := .admitted pair candidate hkey hnot hpair

/-- A state that keeps the points and the exclusions and has a longer log leaves as the first. -/
theorem Leaves.of_extends {s₁ : ApplyLoop} (h : Leaves run s₁ key s')
    (hclassified : s₁.classified = s.classified)
    (hexcluded : s.excludedApplyPairs ⊆ s₁.excludedApplyPairs)
    (hobservations : ∃ later, s₁.observations = s.observations ++ later) :
    Leaves run s key s' where
  phase := h.phase
  excluded := hexcluded.trans h.excluded
  observations := by
    obtain ⟨later, hlater⟩ := hobservations
    obtain ⟨later', hlater'⟩ := h.observations
    exact ⟨later ++ later', by rw [hlater', hlater, List.append_assoc]⟩
  classified := by
    have hre := h.classified
    generalize s'.classified = classified' at hre
    cases hre with
    | same => exact hclassified ▸ .same
    | approved applyP95 worst gateP99 h => exact hclassified ▸ .approved applyP95 worst gateP99 h
    | admitted pair candidate hkey hnot hpair =>
      rw [hclassified] at hpair ⊢
      exact .admitted pair candidate hkey hnot hpair

theorem Leaves.calibrated (h : Leaves run (s.calibrated calibration) key s') :
    Leaves run s key s' :=
  h.of_extends rfl (Finset.Subset.refl _) ⟨_, rfl⟩

theorem fastDrop_leaves (hkey : key ∈ s.excludedApplyPairs) (hphase : s.phase = .synthesize) :
    Leaves run s key (s.fastDrop run key calibration) := by
  have hstay : Leaves run s key s :=
    ⟨.inr ⟨hphase, hkey⟩, Finset.Subset.refl _, ⟨[], (List.append_nil _).symm⟩, .same⟩
  have hstay' : Leaves run s key (s.calibrated calibration) :=
    ⟨.inr ⟨hphase, hkey⟩, Finset.Subset.refl _, ⟨_, rfl⟩, .same⟩
  unfold fastDrop
  split
  next => exact hstay
  next carried confidence hcarried =>
    obtain ⟨hcarriedKey, hother, -, -⟩ := f2GodforgeFastDropCandidate_spec hcarried
    have hmv := (f2ApplyKey_eq_some.mp hcarriedKey).2
    simp only
    split
    next => exact Leaves.abortedBy.calibrated
    next =>
      split
      next =>
        split
        next => exact hstay'
        next p99 _ =>
          split
          next =>
            refine Leaves.calibrated (Leaves.admitting hkey ?_ ?_ (.inr ⟨hother, rfl⟩))
            · exact f2ApplyKey_eq_some.mpr ⟨rfl, hmv⟩
            · rfl
          next => exact hstay'
      next => exact hstay'

theorem climbed_leaves {role : F2ProfileRole} {profileMaxMv nextMv : Nat} {power : Option ℚ}
    (hexcluded : key ∈ s.excludedApplyPairs) (hkey : f2ApplyKey point = some key)
    (hbin : ∃ bin ∈ run.saneBaseCurve, bin.mv = nextMv) :
    Leaves run s key (s.climbed run role profileMaxMv point key nextMv power) := by
  unfold climbed
  split
  next => exact Leaves.givingUp hexcluded
  next p99 =>
    split
    next =>
      refine Leaves.admitting hexcluded ?_ rfl (.inl ⟨rfl, hbin⟩)
      exact f2ApplyKey_eq_some.mpr ⟨(f2ApplyKey_eq_some.mp hkey).1, rfl⟩
    next => exact Leaves.givingUp hexcluded

theorem climb_leaves {role : F2ProfileRole} {profileMaxMv nextMv : Nat} {measured : Option ℚ}
    (hexcluded : key ∈ s.excludedApplyPairs) (hkey : f2ApplyKey point = some key)
    (hbin : ∃ bin ∈ run.saneBaseCurve, bin.mv = nextMv) :
    Leaves run s key
      (s.climb run role profileMaxMv point key nextMv measured calibration) := by
  unfold climb
  split
  next => exact climbed_leaves hexcluded hkey hbin
  next =>
    simp only
    split
    next => exact Leaves.abortedBy.calibrated
    next =>
      split
      next =>
        exact (climbed_leaves (s := s.calibrated calibration) hexcluded hkey hbin).calibrated
      next =>
        exact (climbed_leaves (s := s.calibrated calibration) hexcluded hkey hbin).calibrated

theorem repaired_leaves {stopReason : String} (hexcluded : key ∈ s.excludedApplyPairs)
    (hkey : f2ApplyKey point = some key) :
    Leaves run s key (s.repaired run profiles point key stopReason answers) := by
  unfold repaired
  simp only
  split
  next nextMv measured hplan =>
    exact climb_leaves hexcluded hkey (f2PlanVerticalRepair_ok hplan).1
  next =>
    split
    next =>
      exact (fastDrop_leaves (s := s.givingUp key _) hexcluded rfl).of_extends rfl
        (Finset.Subset.refl _) ⟨[], (List.append_nil _).symm⟩
    next => exact Leaves.givingUp hexcluded

theorem failed_leaves {summary : F2ApplyQualificationSummary}
    (hkey : f2ApplyKey point = some key) :
    Leaves run s key (s.failed run profiles point key summary answers) := by
  have hended : ∀ aborted, Leaves run s key
      { s with forgeAborted := aborted, phase := .ended none } := fun _ =>
    ⟨.inl rfl, Finset.Subset.refl _, ⟨[], (List.append_nil _).symm⟩, .same⟩
  unfold failed
  simp only
  split
  next => exact hended _
  next =>
    split
    next => exact hended _
    next =>
      refine (repaired_leaves ?_ hkey).of_extends rfl Finset.subset_union_left
        ⟨[], (List.append_nil _).symm⟩
      exact Finset.mem_union_right _ (Finset.mem_insert_self _ _)

/-- A passing gate approves its pair and stays in the pass, or leaves it. -/
theorem passed_cases (h : run.enduranceQualified s.observations key = true) :
    Leaves run s key (s.passed run profiles rest key) ∨
      ∃ applyP95 gateP99, s.passed run profiles rest key =
        { s with
          classified := approveKey key applyP95
            (worstCurrentApplyQualificationPowerAtAnchor run.watts s.observations run.runId
              key.1 key.2 run.gpuKey) gateP99 s.classified
          phase := .qualify profiles rest true } := by
  unfold passed
  split
  next => exact .inl (Leaves.excluding (Finset.mem_singleton_self key))
  next applyP95 _ =>
    simp only
    split
    next =>
      refine .inl ⟨.inr ⟨rfl, ?_⟩, Finset.subset_union_left, ⟨[], (List.append_nil _).symm⟩,
        .approved _ _ _ h⟩
      exact Finset.mem_union_right _ (Finset.mem_insert_self _ _)
    next => exact .inr ⟨_, _, rfl⟩

theorem gatesNext_eq {changed : Bool} (hphase : s.phase = .qualify profiles (point :: rest) changed)
    (hkey : f2ApplyKey point = some key) :
    s.gatesNext run = if s.alreadyQualified run key = false ∧
      f2ApprovedDominator point s.classified = none then some key else none := by
  rw [gatesNext, hphase]
  simp only [hkey]
  by_cases halready : s.alreadyQualified run key = true
  · simp [Option.filter, halready]
  · cases hdominator : f2ApprovedDominator point s.classified with
    | none => simp [Option.filter, halready]
    | some dominator => simp [Option.filter]

/-- The calls of the gate and the dominance tests are as before. -/
structure SameCalls (s s' : ApplyLoop) : Prop where
  gates : s'.gates = s.gates
  dominated : s'.dominated = s.dominated

theorem fastDrop_sameCalls : SameCalls s (s.fastDrop run key calibration) := by
  unfold fastDrop
  split
  next => exact ⟨rfl, rfl⟩
  next =>
    simp only
    split
    next => exact ⟨rfl, rfl⟩
    next =>
      split
      next =>
        split
        next => exact ⟨rfl, rfl⟩
        next =>
          split
          next => exact ⟨rfl, rfl⟩
          next => exact ⟨rfl, rfl⟩
      next => exact ⟨rfl, rfl⟩

theorem climbed_sameCalls {role : F2ProfileRole} {profileMaxMv nextMv : Nat}
    {power : Option ℚ} :
    SameCalls s (s.climbed run role profileMaxMv point key nextMv power) := by
  unfold climbed
  split
  next => exact ⟨rfl, rfl⟩
  next =>
    split
    next => exact ⟨rfl, rfl⟩
    next => exact ⟨rfl, rfl⟩

theorem climb_sameCalls {role : F2ProfileRole} {profileMaxMv nextMv : Nat}
    {measured : Option ℚ} :
    SameCalls s (s.climb run role profileMaxMv point key nextMv measured calibration) := by
  unfold climb
  split
  next => exact climbed_sameCalls
  next =>
    have hclimbed (power : Option ℚ) : SameCalls s
        ((s.calibrated calibration).climbed run role profileMaxMv point key nextMv power) := by
      have hcalls : SameCalls (s.calibrated calibration)
        ((s.calibrated calibration).climbed run role profileMaxMv point key nextMv power) :=
          climbed_sameCalls
      exact ⟨hcalls.gates, hcalls.dominated⟩
    simp only
    split
    next => exact ⟨rfl, rfl⟩
    next =>
      split
      next => exact hclimbed _
      next => exact hclimbed _

theorem failed_sameCalls {summary : F2ApplyQualificationSummary} :
    SameCalls s (s.failed run profiles point key summary answers) := by
  have hrepaired (keys : Finset ApplyPair) (stopReason : String) : SameCalls s
      ((s.excluding keys).repaired run profiles point key stopReason answers) := by
    unfold repaired
    simp only
    split
    next =>
      obtain ⟨hgates, hdominated⟩ := @climb_sameCalls run (s.excluding keys) key point
        answers.calibration (f2ProfileRole profiles key) _ _ _
      exact ⟨hgates, hdominated⟩
    next =>
      split
      next =>
        obtain ⟨hgates, hdominated⟩ := @fastDrop_sameCalls run
          ((s.excluding keys).givingUp key _) key answers.calibration
        exact ⟨hgates, hdominated⟩
      next => exact ⟨rfl, rfl⟩
  unfold failed
  simp only
  split
  next => exact ⟨rfl, rfl⟩
  next =>
    split
    next => exact ⟨rfl, rfl⟩
    next => exact hrepaired _ _

theorem passed_sameCalls : SameCalls s (s.passed run profiles rest key) := by
  unfold passed
  split
  next => exact ⟨rfl, rfl⟩
  next =>
    simp only
    split
    next => exact ⟨rfl, rfl⟩
    next => exact ⟨rfl, rfl⟩

/-- One step calls the gate of one pair, as often as the ledger asks. -/
theorem advance_gates : ∃ n key, (s.advance run answers).gates =
    s.gates ++ List.replicate n key ∧ n ≤ 2 ∧ (0 < n → s.gatesNext run = some key) := by
  have hnone : ∀ s' : ApplyLoop, s'.gates = s.gates → ∃ n key,
      s'.gates = s.gates ++ List.replicate n key ∧ n ≤ 2 ∧
        (0 < n → s.gatesNext run = some key) := fun s' h =>
    ⟨0, (0, 0), by simpa using h, Nat.zero_le 2, fun hpos => absurd hpos (Nat.lt_irrefl 0)⟩
  unfold ApplyLoop.advance
  split
  next =>
    refine hnone _ ?_
    unfold synthesize
    split
    next => rfl
    next =>
      simp only
      split
      next => rfl
      next =>
        split
        next => rfl
        next => rfl
  next profiles point rest changed hphase =>
    unfold qualifyPoint
    split
    next => exact hnone _ rfl
    next key hkey =>
      split
      next => exact hnone _ rfl
      next halready =>
        split
        next => exact hnone _ rfl
        next hdominator =>
          have hpasses : (s.gatePasses key answers).passesDone ≤ 2 :=
            runGate_passesDone_le.trans (max_le (by omega) requiredApplyPasses_le)
          have hgates : s.gatesNext run = some key := by
            rw [gatesNext_eq hphase hkey, if_pos ⟨by simpa using halready, hdominator⟩]
          refine ⟨(s.gatePasses key answers).passesDone, key, ?_, hpasses, fun _ => hgates⟩
          simp only
          split
          next => exact passed_sameCalls.gates
          next => exact failed_sameCalls.gates
  next =>
    refine hnone _ ?_
    split
    next => rfl
    next => rfl
  next => exact hnone _ rfl

/-- The gate of the pair passed as often as the ledger asks, and its points were raised. -/
structure Approves (run : ForgeRun) (s : ApplyLoop) (key : ApplyPair) (profiles : ForgeProfiles)
    (rest : List PowerSweepPoint) (answers : ApplyAnswers) (s' : ApplyLoop) : Prop where
  gates : s.gatesNext run = some key
  qualified : (s.gatePasses key answers).summary.qualified = true
  observations : s'.observations = (s.gatePasses key answers).observations
  classified : ∃ applyP95 gateP99, s'.classified = approveKey key applyP95
    (worstCurrentApplyQualificationPowerAtAnchor run.watts s'.observations run.runId key.1 key.2
      run.gpuKey) gateP99 s.classified
  excluded : s'.excludedApplyPairs = s.excludedApplyPairs
  phase : s'.phase = .qualify profiles rest true

/-- Everything a selected point can lead to: its pair is done, the pass is left, or its gate
passed. -/
theorem qualifyPoint_cases {changed : Bool} (hhonest : s.Honest run answers)
    (hphase : s.phase = .qualify profiles (point :: rest) changed)
    (hkey : f2ApplyKey point = some key) :
    s.alreadyQualified run key = true ∧ s.qualifyPoint run profiles point rest changed answers =
        { s with phase := .qualify profiles rest changed } ∨
      s.alreadyQualified run key = false ∧
        (Leaves run s key (s.qualifyPoint run profiles point rest changed answers) ∨
          Approves run s key profiles rest answers
            (s.qualifyPoint run profiles point rest changed answers)) := by
  have hgates : s.gatesNext run = _ := gatesNext_eq hphase hkey
  unfold qualifyPoint
  simp only [hkey]
  split
  next halready => exact .inl ⟨halready, rfl⟩
  next halready =>
    rw [Bool.not_eq_true] at halready
    refine .inr ⟨halready, ?_⟩
    split
    next dominator _ =>
      refine .inl ⟨.inr ⟨rfl, ?_⟩, Finset.subset_union_left, ⟨[], (List.append_nil _).symm⟩, .same⟩
      exact Finset.mem_union_right _ (Finset.mem_singleton_self key)
    next hdominator =>
      rw [if_pos ⟨halready, hdominator⟩] at hgates
      have hlog := @runGate_observations answers.gate s.observations
        (answers.condemned.requiredApplyPasses key.1 key.2 f2QualificationContractVersion)
      split
      next hqualified =>
        have hsoak := hhonest key hgates hqualified
        rcases passed_cases (s := s.gated key (s.gatePasses key answers)) hsoak with
          hleaves | ⟨applyP95, gateP99, heq⟩
        · exact .inl (hleaves.of_extends rfl (Finset.Subset.refl _) hlog)
        · have happroves : Approves run s key profiles rest answers
              ((s.gated key (s.gatePasses key answers)).passed run profiles rest key) := by
            rw [heq]
            exact ⟨hgates, hqualified, rfl, ⟨applyP95, gateP99, rfl⟩, rfl, rfl⟩
          exact .inr happroves
      next =>
        exact .inl ((failed_leaves hkey).of_extends rfl (Finset.Subset.refl _) hlog)

end ApplyLoop

end Nidavellir

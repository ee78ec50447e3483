import Nidavellir.ForgeRepair

namespace Nidavellir

namespace ApplyLoop

variable (run : ForgeRun) (s : ApplyLoop) (answers : ApplyAnswers)

/-- The pairs that may still be selected. -/
def openPairs : List ApplyPair :=
  (keysOf s.classified).filter fun pair => decide (pair ∉ s.excludedApplyPairs)

/-- Where the repair of the pair leads after its gate. -/
def repairPlan (profiles : ForgeProfiles) (key : ApplyPair) :
    Except RepairLimit (Nat × Option ℚ) :=
  f2PlanVerticalRepair run.watts run.saneBaseCurve answers.record answers.condemnedAfter
    (s.gatePasses key answers).observations run.gpuKey key.1 key.2
    (s.gatePasses key answers).summary.stopReason run.powerLimitW
    (f2ProfileRepairMaxMv (f2ProfileRole profiles key) profiles key run.saneBaseCurve)

variable {run : ForgeRun} {s s' : ApplyLoop} {answers : ApplyAnswers} {key pair : ApplyPair}
  {point : PowerSweepPoint} {profiles : ForgeProfiles} {rest : List PowerSweepPoint}
  {calibration : Reply F2PowerCalibrationSummary} {role : F2ProfileRole}
  {profileMaxMv nextMv : Nat}

theorem mem_openPairs :
    pair ∈ s.openPairs ↔ pair ∈ keysOf s.classified ∧ pair ∉ s.excludedApplyPairs := by
  rw [openPairs, List.mem_filter, decide_eq_true_eq]

/-- The step adds no pair. -/
structure Narrows (s s' : ApplyLoop) : Prop where
  keys : keysOf s'.classified ⊆ keysOf s.classified
  excluded : s.excludedApplyPairs ⊆ s'.excludedApplyPairs

/-- The step adds this pair and no other. -/
structure Grows (s : ApplyLoop) (new : ApplyPair) (s' : ApplyLoop) : Prop where
  keys : ∀ pair ∈ keysOf s'.classified, pair ∈ keysOf s.classified ∨ pair = new
  excluded : s.excludedApplyPairs ⊆ s'.excludedApplyPairs

theorem Narrows.grows (h : Narrows s s') (new : ApplyPair) : Grows s new s' where
  keys _ hpair := .inl (h.keys hpair)
  excluded := h.excluded

theorem Narrows.openPairs (h : Narrows s s') : s'.openPairs ⊆ s.openPairs := by
  intro pair hpair
  obtain ⟨hkey, hopen⟩ := mem_openPairs.mp hpair
  exact mem_openPairs.mpr ⟨h.keys hkey, fun hin => hopen (h.excluded hin)⟩

theorem Grows.openPairs {new : ApplyPair} (h : Grows s new s') (hpair : pair ∈ s'.openPairs) :
    pair ∈ s.openPairs ∨ pair = new := by
  obtain ⟨hkey, hopen⟩ := mem_openPairs.mp hpair
  rcases h.keys pair hkey with hold | heq
  · exact .inl (mem_openPairs.mpr ⟨hold, fun hin => hopen (h.excluded hin)⟩)
  · exact .inr heq

theorem passed_narrows : Narrows s (s.passed run profiles rest key) := by
  unfold passed
  split
  next => exact ⟨List.Subset.refl _, Finset.subset_union_left⟩
  next =>
    simp only
    split
    next => exact ⟨by rw [excluding, keysOf_approveKey]; exact List.Subset.refl _,
        Finset.subset_union_left⟩
    next => exact ⟨by rw [keysOf_approveKey]; exact List.Subset.refl _, Finset.Subset.refl _⟩

theorem admitting_grows {new : ApplyPair} {candidate : PowerSweepPoint × ℚ}
    {override : Option ApplyPair} (hkey : f2ApplyKey candidate.1 = some new) :
    Grows s new (s.admitting new candidate override) where
  keys _ hpair := (mem_keysOf_upsert hkey).mp hpair
  excluded := Finset.Subset.refl _

theorem climbed_grows {power : Option ℚ} (hkey : f2ApplyKey point = some key) :
    Grows s (key.1, nextMv) (s.climbed run role profileMaxMv point key nextMv power) := by
  have hsame : Narrows s (s.givingUp key profileMaxMv) :=
    ⟨List.Subset.refl _, Finset.Subset.refl _⟩
  unfold climbed
  split
  next => exact hsame.grows _
  next =>
    split
    next => exact admitting_grows (f2ApplyKey_eq_some.mpr ⟨(f2ApplyKey_eq_some.mp hkey).1, rfl⟩)
    next => exact hsame.grows _

theorem climb_grows {measured : Option ℚ} (hkey : f2ApplyKey point = some key) :
    Grows s (key.1, nextMv)
      (s.climb run role profileMaxMv point key nextMv measured calibration) := by
  unfold climb
  split
  next => exact climbed_grows hkey
  next =>
    simp only
    split
    next => exact ⟨fun _ => .inl, Finset.Subset.refl _⟩
    next =>
      split
      next => exact ⟨(climbed_grows (s := s.calibrated calibration) hkey).keys,
        (climbed_grows (s := s.calibrated calibration) hkey).excluded⟩
      next => exact ⟨(climbed_grows (s := s.calibrated calibration) hkey).keys,
        (climbed_grows (s := s.calibrated calibration) hkey).excluded⟩

/-- A fast-drop adds the voltage at the next lower clock, or nothing. -/
theorem fastDrop_grows : Narrows s (s.fastDrop run key calibration) ∨
    ∃ carried confidence, f2GodforgeFastDropCandidate s.classified s.excludedApplyPairs key =
        some (carried, confidence) ∧
      Grows s (carried.target, key.2) (s.fastDrop run key calibration) := by
  have hsame : Narrows s (s.calibrated calibration) :=
    ⟨List.Subset.refl _, Finset.Subset.refl _⟩
  unfold fastDrop
  split
  next => exact .inl ⟨List.Subset.refl _, Finset.Subset.refl _⟩
  next carried confidence hcarried =>
    obtain ⟨hcarriedKey, -, -, -⟩ := f2GodforgeFastDropCandidate_spec hcarried
    simp only
    split
    next => exact .inl ⟨List.Subset.refl _, Finset.Subset.refl _⟩
    next =>
      split
      next =>
        split
        next => exact .inl hsame
        next =>
          split
          next =>
            refine .inr ⟨carried, confidence, hcarried, fun pair hpair => ?_,
              Finset.Subset.refl _⟩
            refine (mem_keysOf_upsert ?_).mp hpair
            exact f2ApplyKey_eq_some.mpr ⟨rfl, (f2ApplyKey_eq_some.mp hcarriedKey).2⟩
          next => exact .inl hsame
      next => exact .inl hsame

/-- The gate fails the pair in this step. -/
structure Fails (run : ForgeRun) (s : ApplyLoop) (answers : ApplyAnswers)
    (profiles : ForgeProfiles) (key : ApplyPair) : Prop where
  gates : s.gatesNext run = some key
  profiles : s.passProfiles = some profiles
  failed : (s.gatePasses key answers).summary.qualified = false

/-- All that a step can open: nothing, a higher bin of the failed clock, or the failed voltage at
the next lower clock. The failed pair is excluded with it. -/
inductive Opens (run : ForgeRun) (s : ApplyLoop) (answers : ApplyAnswers) (s' : ApplyLoop) : Prop
  | nothing (h : Narrows s s')
  | climb (profiles : ForgeProfiles) (key : ApplyPair) (nextMv : Nat) (measured : Option ℚ)
      (hfails : Fails run s answers profiles key) (hgone : key ∈ s'.excludedApplyPairs)
      (hplan : s.repairPlan run answers profiles key = .ok (nextMv, measured))
      (h : Grows s (key.1, nextMv) s')
  | drop (profiles : ForgeProfiles) (key : ApplyPair) (limit : RepairLimit)
      (excluded : Finset ApplyPair) (carried : PowerSweepPoint) (confidence : ℚ)
      (hfails : Fails run s answers profiles key) (hgone : key ∈ s'.excludedApplyPairs)
      (hplan : s.repairPlan run answers profiles key = .error limit)
      (hrole : f2ProfileRole profiles key = .godforge)
      (hcarried : f2GodforgeFastDropCandidate s.classified excluded key =
        some (carried, confidence))
      (h : Grows s (carried.target, key.2) s')

theorem Grows.of_narrows {s₁ : ApplyLoop} {new : ApplyPair} (h : Grows s₁ new s')
    (hnarrows : Narrows s s₁) : Grows s new s' where
  keys pair hpair := (h.keys pair hpair).imp_left fun hold => hnarrows.keys hold
  excluded := hnarrows.excluded.trans h.excluded

theorem Narrows.trans {s₁ : ApplyLoop} (h : Narrows s s₁) (h' : Narrows s₁ s') :
    Narrows s s' where
  keys := List.Subset.trans h'.keys h.keys
  excluded := h.excluded.trans h'.excluded

theorem repaired_opens {failedState : ApplyLoop} (hkey : f2ApplyKey point = some key)
    (hfails : Fails run s answers profiles key)
    (hclassified : failedState.classified = s.classified)
    (hexcluded : insert key s.excludedApplyPairs ⊆ failedState.excludedApplyPairs)
    (hlog : failedState.observations = (s.gatePasses key answers).observations) :
    Opens run s answers (failedState.repaired run profiles point key
      (s.gatePasses key answers).summary.stopReason answers) := by
  have hfailed : Narrows s failedState :=
    ⟨by rw [hclassified]; exact List.Subset.refl _, (Finset.subset_insert _ _).trans hexcluded⟩
  have hgone : key ∈ failedState.excludedApplyPairs := hexcluded (Finset.mem_insert_self _ _)
  unfold repaired
  simp only
  rw [hlog]
  split
  next nextMv measured hplan =>
    have hgrows := @climb_grows run failedState key point answers.calibration
      (f2ProfileRole profiles key)
      (f2ProfileRepairMaxMv (f2ProfileRole profiles key) profiles key run.saneBaseCurve) nextMv
      measured hkey
    exact .climb profiles key nextMv measured hfails (hgrows.excluded hgone) hplan
      (hgrows.of_narrows hfailed)
  next limit hplan =>
    split
    next hrole =>
      generalize hfrom : failedState.givingUp key _ = given
      have hgiven : Narrows failedState given :=
        hfrom ▸ ⟨List.Subset.refl _, Finset.Subset.refl _⟩
      have hsame : given.classified = s.classified := by
        rw [← hfrom, ← hclassified]
        rfl
      rcases @fastDrop_grows run given key answers.calibration with
        hnothing | ⟨carried, confidence, hcarried, hgrows⟩
      · exact .nothing (hfailed.trans (hgiven.trans hnothing))
      · rw [hsame] at hcarried
        exact .drop profiles key limit _ carried confidence hfails
          (hgrows.excluded (hgiven.excluded hgone)) hplan hrole hcarried
          (hgrows.of_narrows (hfailed.trans hgiven))
    next => exact .nothing (hfailed.trans ⟨List.Subset.refl _, Finset.Subset.refl _⟩)

/-- What one step of the loop opens. -/
theorem advance_opens {frontier : Classified} (hwithin : Within (run.stock frontier) s) :
    Opens run s answers (s.advance run answers) := by
  unfold ApplyLoop.advance
  split
  next =>
    rcases @synthesize_cases run s with heq | ⟨profiles, heq, -, -⟩
    · rw [heq]
      exact .nothing ⟨List.Subset.refl _, Finset.Subset.refl _⟩
    · rw [heq]
      exact .nothing ⟨List.Subset.refl _, Finset.Subset.refl _⟩
  next profiles point rest changed hphase =>
    obtain ⟨-, hall⟩ := hwithin.selected _ _ _ hphase
    obtain ⟨key, hkey, -, -⟩ := hall point List.mem_cons_self
    unfold qualifyPoint
    simp only [hkey]
    split
    next => exact .nothing ⟨List.Subset.refl _, Finset.Subset.refl _⟩
    next halready =>
      split
      next => exact .nothing ⟨List.Subset.refl _, Finset.subset_union_left⟩
      next hdominator =>
        have hgates : s.gatesNext run = some key := by
          rw [gatesNext_eq hphase hkey, if_pos ⟨by simpa using halready, hdominator⟩]
        have hprofiles : s.passProfiles = some profiles := by rw [passProfiles, hphase]
        change Opens run s answers (if (s.gatePasses key answers).summary.qualified then
          (s.gated key (s.gatePasses key answers)).passed run profiles rest key
          else (s.gated key (s.gatePasses key answers)).failed run profiles point key
            (s.gatePasses key answers).summary answers)
        split
        next =>
          have hpassed := @passed_narrows run (s.gated key (s.gatePasses key answers)) key
            profiles rest
          exact .nothing ⟨hpassed.keys, hpassed.excluded⟩
        next hfailed =>
          have hfails : Fails run s answers profiles key :=
            ⟨hgates, hprofiles, by simpa using hfailed⟩
          unfold failed
          simp only
          split
          next => exact .nothing ⟨List.Subset.refl _, Finset.Subset.refl _⟩
          next =>
            split
            next => exact .nothing ⟨List.Subset.refl _, Finset.Subset.refl _⟩
            next =>
              refine repaired_opens hkey hfails rfl ?_ rfl
              intro pair hpair
              rcases Finset.mem_insert.mp hpair with rfl | hold
              · exact Finset.mem_union_right _ (Finset.mem_insert_self _ _)
              · exact Finset.mem_union_left _ hold
  next =>
    split
    next => exact .nothing ⟨List.Subset.refl _, Finset.Subset.refl _⟩
    next => exact .nothing ⟨List.Subset.refl _, Finset.Subset.refl _⟩
  next => exact .nothing ⟨List.Subset.refl _, Finset.Subset.refl _⟩

/-- The pair that is gated is open. -/
theorem open_of_gatesNext {frontier : Classified} (hwithin : Within (run.stock frontier) s)
    (hgates : s.gatesNext run = some key) : key ∈ s.openPairs := by
  unfold gatesNext at hgates
  split at hgates
  next profiles point rest changed hphase =>
    obtain ⟨-, hall⟩ := hwithin.selected _ _ _ hphase
    obtain ⟨pair, hpair, hmem, hnot⟩ := hall point List.mem_cons_self
    rw [hpair] at hgates
    obtain rfl := Option.some.inj (Option.filter_eq_some_iff.mp hgates).1
    exact mem_openPairs.mpr ⟨hmem, hnot⟩
  next => cases hgates

end ApplyLoop

end Nidavellir

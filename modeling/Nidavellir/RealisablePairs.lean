import Nidavellir.CalibrationPlan
import Nidavellir.OpenPairs

namespace Nidavellir

open Runs

/-- The head of a calibration: a pair that cannot be planned aborts it. -/
def calibrationPlanRefusal (sane : List VfBin) (targetMhz applyMv : Nat)
    (referenceOffsetMhz : Int) (limits : PositiveOffsetLimits) :
    Option F2PowerCalibrationSummary :=
  match planF2PowerCalibrationCandidate sane targetMhz applyMv referenceOffsetMhz limits with
  | .ok _ => none
  | .error e =>
    some { confirmed := false, aborted := true, stopReason := s!"CalibrationPlanFailed: {e}" }

/-- The same for the gate. -/
def applyQualificationPlanRefusal (sane : List VfBin) (targetMhz applyMv : Nat)
    (referenceOffsetMhz : Int) (limits : PositiveOffsetLimits) :
    Option F2ApplyQualificationSummary :=
  match planF2PowerCalibrationCandidate sane targetMhz applyMv referenceOffsetMhz limits with
  | .ok _ => none
  | .error e =>
    some { qualified := false, aborted := true,
           stopReason := s!"ApplyQualificationPlanFailed: {e}" }

/-- Neither a calibration nor a gate of the pair fails to be planned, from whatever offset an
earlier raise recorded. -/
def BaseCurve.Accepts (curve : BaseCurve) (clockCeilingMhz : Nat) (pair : ApplyPair) : Prop :=
  ∀ referenceOffsetMhz : Int, 0 ≤ referenceOffsetMhz →
    calibrationPlanRefusal curve.bins pair.1 pair.2 referenceOffsetMhz
        (curve.limits clockCeilingMhz) = none ∧
      applyQualificationPlanRefusal curve.bins pair.1 pair.2 referenceOffsetMhz
        (curve.limits clockCeilingMhz) = none

theorem BaseCurve.accepts_iff {curve : BaseCurve} {ceiling : Nat} {pair : ApplyPair}
    (hceiling : pair.1 ≤ ceiling) : curve.Accepts ceiling pair ↔ curve.Raises pair := by
  rw [← curve.plans_iff hceiling]
  unfold Accepts Plans calibrationPlanRefusal applyQualificationPlanRefusal
  refine forall_congr' fun referenceOffsetMhz => imp_congr_right fun _ => ?_
  cases planF2PowerCalibrationCandidate curve.bins pair.1 pair.2 referenceOffsetMhz
      (curve.limits ceiling) with
  | ok plan => exact iff_of_true ⟨rfl, rfl⟩ ⟨plan, rfl⟩
  | error e =>
    refine iff_of_false ?_ ?_
    · rintro ⟨h, -⟩
      cases h
    · rintro ⟨plan, h⟩
      cases h

/-- A call of one of the three that choose an Apply pair. -/
inductive Proposer
  | marginPolicy (targetMhz boundaryMv : Nat)
  | verticalRepair (watts : Float32 → Option ℚ) (record : SafeLoopRecord)
      (condemned : CondemnedPairs) (observations : List F2Observation) (gpuKey : String)
      (targetMhz failedMv : Nat) (stopReason : String) (powerLimitW : ℚ) (profileMaxMv : Nat)
  | fastDrop (classified : Classified) (excluded : Finset ApplyPair) (exhausted : ApplyPair)

namespace Proposer

def pair (saneCurve : List VfBin) : Proposer → Option ApplyPair
  | marginPolicy targetMhz boundaryMv =>
    some (targetMhz, f2ApplyAnchorWithMargin saneCurve targetMhz boundaryMv)
  | verticalRepair watts record condemned observations gpuKey targetMhz failedMv stopReason
      powerLimitW profileMaxMv =>
    match f2PlanVerticalRepair watts saneCurve record condemned observations gpuKey targetMhz
        failedMv stopReason powerLimitW profileMaxMv with
    | .ok (nextMv, _) => some (targetMhz, nextMv)
    | .error _ => none
  | fastDrop classified excluded exhausted =>
    (f2GodforgeFastDropCandidate classified excluded exhausted).map fun carried =>
      (carried.1.target, exhausted.2)

/-- A bin that the proposer may choose lies below the target: one from the boundary on; one from the
repair step on that no failure condemned; the bin of the exhausted voltage, below a lower target. -/
def Reaches (saneCurve : List VfBin) : Proposer → Prop
  | marginPolicy targetMhz boundaryMv =>
    ∃ bin ∈ saneCurve, boundaryMv ≤ bin.mv ∧ bin.base < targetMhz
  | verticalRepair _ record condemned _ _ targetMhz failedMv stopReason _ _ =>
    ∃ start ∈ f2RepairBinAbove saneCurve failedMv (repairStepBins stopReason),
      ∃ bin ∈ saneCurve, start ≤ bin.mv ∧ pairCondemned record condemned targetMhz bin.mv = false ∧
        bin.base < targetMhz
  | fastDrop classified _ exhausted =>
    ∃ bin ∈ saneCurve, bin.mv = exhausted.2 ∧
      ∃ lower ∈ keysOf classified, lower.1 < exhausted.1 ∧ bin.base < lower.1

end Proposer

section Proposals

variable {curve : BaseCurve} {targetMhz boundaryMv : Nat}

theorem isSaneCorePoint_of_mem {bin : VfBin} (hbin : bin ∈ curve.bins) :
    isSaneCorePoint bin.mv bin.base = true := by
  have hall := curve.sane
  rw [isSaneBaseCurve, Bool.and_eq_true, List.all_eq_true] at hall
  have hpoint := hall.2 bin hbin
  simp only [isSaneBasePoint, Bool.and_eq_true, decide_eq_true_eq] at hpoint
  simp only [isSaneCorePoint, Bool.and_eq_true, decide_eq_true_eq]
  omega

/-- The margin lands on a valid anchor, and on the boundary itself where there is none. -/
theorem f2ApplyAnchorWithMargin_cases :
    (∃ bin ∈ curve.bins, bin.mv = f2ApplyAnchorWithMargin curve.bins targetMhz boundaryMv ∧
      boundaryMv ≤ bin.mv ∧ bin.base < targetMhz) ∨
    f2ApplyAnchorWithMargin curve.bins targetMhz boundaryMv = boundaryMv ∧
      ∀ bin ∈ curve.bins, boundaryMv ≤ bin.mv → targetMhz ≤ bin.base := by
  unfold f2ApplyAnchorWithMargin
  simp only
  generalize hanchors : Extremes.dedup (((curve.bins.filter fun bin =>
    decide (boundaryMv ≤ bin.mv) && decide (bin.2.2 < targetMhz) &&
      isSaneCorePoint bin.mv bin.2.2).map VfBin.mv).insertionSort (· ≤ ·)) = anchors
  have hmem : ∀ mv ∈ anchors, ∃ bin ∈ curve.bins, bin.mv = mv ∧ boundaryMv ≤ bin.mv ∧
      bin.base < targetMhz := by
    intro mv hmv
    rw [← hanchors] at hmv
    obtain ⟨bin, hbin, rfl⟩ := List.mem_map.mp (mem_sortedBins.mp hmv)
    obtain ⟨hbin, hvalid⟩ := List.mem_filter.mp hbin
    simp only [Bool.and_eq_true, decide_eq_true_eq] at hvalid
    exact ⟨bin, hbin, rfl, hvalid.1.1, hvalid.1.2⟩
  cases hfound : (anchors.find? (boundaryMv + applyMarginMv ≤ ·)).or anchors.getLast? with
  | some mv =>
    refine .inl (hmem mv ?_)
    rcases Option.or_eq_some_iff.mp hfound with hfind | ⟨-, hlast⟩
    · exact List.mem_of_find?_eq_some hfind
    · exact List.mem_of_getLast? hlast
  | none =>
    refine .inr ⟨rfl, fun bin hbin hboundary => ?_⟩
    by_contra hbase
    have hempty : anchors = [] := by
      rw [Option.or_eq_none_iff] at hfound
      exact List.getLast?_eq_none_iff.mp hfound.2
    have hin : bin.mv ∈ anchors := by
      rw [← hanchors, mem_sortedBins]
      refine List.mem_map_of_mem (List.mem_filter.mpr ⟨hbin, ?_⟩)
      have hsane := isSaneCorePoint_of_mem hbin
      simp only [Bool.and_eq_true, decide_eq_true_eq]
      exact ⟨⟨hboundary, not_le.mp hbase⟩, hsane⟩
    rw [hempty] at hin
    cases hin

theorem marginPolicy_raises_iff :
    curve.Raises (targetMhz, f2ApplyAnchorWithMargin curve.bins targetMhz boundaryMv) ↔
      ∃ bin ∈ curve.bins, boundaryMv ≤ bin.mv ∧ bin.base < targetMhz := by
  rcases @f2ApplyAnchorWithMargin_cases curve targetMhz boundaryMv with
    ⟨bin, hbin, hmv, hboundary, hbase⟩ | ⟨hsame, hnone⟩
  · exact iff_of_true ⟨bin, hbin, hmv, hbase⟩ ⟨bin, hbin, hboundary, hbase⟩
  · rw [hsame]
    refine iff_of_false ?_ ?_
    · rintro ⟨bin, hbin, hmv, hbase⟩
      exact absurd hbase (not_lt.mpr (hnone bin hbin hmv.ge))
    · rintro ⟨bin, hbin, hboundary, hbase⟩
      exact absurd hbase (not_lt.mpr (hnone bin hbin hboundary))

/-- The planned bin is the lowest from the repair step on that no failure condemned. -/
theorem f2PlanVerticalRepair_from {watts : Float32 → Option ℚ} {saneCurve : List VfBin}
    {record : SafeLoopRecord} {condemned : CondemnedPairs} {observations : List F2Observation}
    {gpuKey stopReason : String} {failedMv nextMv profileMaxMv : Nat} {powerLimitW : ℚ}
    {measured : Option ℚ}
    (h : f2PlanVerticalRepair watts saneCurve record condemned observations gpuKey targetMhz
      failedMv stopReason powerLimitW profileMaxMv = .ok (nextMv, measured)) :
    ∃ start ∈ f2RepairBinAbove saneCurve failedMv (repairStepBins stopReason), start ≤ nextMv ∧
      ∀ bin ∈ saneCurve, start ≤ bin.mv → bin.mv < nextMv →
        pairCondemned record condemned targetMhz bin.mv = true := by
  unfold f2PlanVerticalRepair at h
  split at h
  next => cases h
  next start hstart =>
    split at h
    next => cases h
    next mv hclimb =>
      obtain ⟨-, hle, -, hbelow⟩ := f2ClimbPastCondemned_some hclimb
      split at h
      next => cases h
      next =>
        simp only at h
        split at h
        next => cases h
        next =>
          cases h
          exact ⟨start, hstart, hle, hbelow⟩

/-- A pair that a proposer chooses still has to be raised just where the proposer reaches a bin
below the target. -/
theorem Proposer.raises_iff {p : Proposer} {pair : ApplyPair}
    (h : p.pair curve.bins = some pair) : curve.Raises pair ↔ p.Reaches curve.bins := by
  cases p with
  | marginPolicy targetMhz boundaryMv =>
    obtain rfl := Option.some.inj h
    exact marginPolicy_raises_iff
  | verticalRepair watts record condemned observations gpuKey targetMhz failedMv stopReason
      powerLimitW profileMaxMv =>
    unfold Proposer.pair at h
    simp only at h
    split at h
    next nextMv measured hplan =>
      obtain rfl := Option.some.inj h
      obtain ⟨start, hstart, hle, hbelow⟩ := f2PlanVerticalRepair_from hplan
      obtain ⟨⟨next, hnext, hmv⟩, -, -, hfree, -, -⟩ := f2PlanVerticalRepair_ok hplan
      constructor
      · rintro ⟨bin, hbin, hbinMv, hbase⟩
        change bin.mv = nextMv at hbinMv
        refine ⟨start, hstart, bin, hbin, ?_, ?_, hbase⟩
        · rw [hbinMv]
          exact hle
        · rw [hbinMv]
          exact hfree
      · rintro ⟨start', hstart', bin, hbin, hfrom, hopen, hbase⟩
        obtain rfl : start = start' := Option.some.inj (hstart.symm.trans hstart')
        have hreach : next.mv ≤ bin.mv := by
          by_contra hlt
          have hcondemned := hbelow bin hbin hfrom (by omega)
          rw [hopen] at hcondemned
          cases hcondemned
        have hmono := curve.monotone next hnext bin hbin hreach
        exact ⟨next, hnext, hmv, lt_of_le_of_lt hmono hbase⟩
    next => cases h
  | fastDrop classified excluded exhausted =>
    obtain ⟨⟨carried, confidence⟩, hcarried, rfl⟩ := Option.map_eq_some_iff.mp h
    obtain ⟨-, ⟨lower, hlower, hclock⟩, hlt, -⟩ := f2GodforgeFastDropCandidate_spec hcarried
    constructor
    · rintro ⟨bin, hbin, hmv, hbase⟩
      refine ⟨bin, hbin, hmv, lower, hlower, ?_, ?_⟩
      · rw [hclock]
        exact hlt
      · rw [hclock]
        exact hbase
    · rintro ⟨bin, hbin, hmv, other, hother, hbelow, hbase⟩
      have hle := f2GodforgeFastDropCandidate_next hcarried other hother hbelow
      exact ⟨bin, hbin, hmv, hbase.trans_le hle⟩

end Proposals

namespace ApplyLoop

variable (run : ForgeRun) (s : ApplyLoop) (answers : ApplyAnswers)

/-- The repair step of a failed pair. -/
def repairProposer (profiles : ForgeProfiles) (key : ApplyPair) : Proposer :=
  .verticalRepair run.watts answers.record answers.condemnedAfter
    (s.gatePasses key answers).observations run.gpuKey key.1 key.2
    (s.gatePasses key answers).summary.stopReason run.powerLimitW
    (f2ProfileRepairMaxMv (f2ProfileRole profiles key) profiles key run.saneBaseCurve)

/-- What replaces a failed pair reaches a bin below its target. -/
def LeadsBelowTarget (profiles : ForgeProfiles) (key : ApplyPair) :
    Except RepairLimit (Nat × Option ℚ) → Prop
  | .ok _ => (s.repairProposer run answers profiles key).Reaches run.saneBaseCurve
  | .error _ => f2ProfileRole profiles key = .godforge →
    (∃ lower ∈ keysOf s.classified, lower.1 < key.1) →
      (Proposer.fastDrop s.classified s.excludedApplyPairs key).Reaches run.saneBaseCurve

/-- The step does not fail a pair, or what replaces it reaches a bin below its target. -/
def ProposesBelowTarget : Prop :=
  ∀ key ∈ s.gatesNext run, ∀ profiles ∈ s.passProfiles,
    (s.gatePasses key answers).summary.qualified = true ∨
      s.LeadsBelowTarget run answers profiles key (s.repairPlan run answers profiles key)

instance (saneCurve : List VfBin) (p : Proposer) : Decidable (p.Reaches saneCurve) := by
  cases p with
  | marginPolicy => exact inferInstanceAs (Decidable (∃ bin ∈ saneCurve, _))
  | verticalRepair _ record condemned _ _ targetMhz failedMv stopReason =>
    exact inferInstanceAs (Decidable (∃ start ∈ f2RepairBinAbove saneCurve failedMv
      (repairStepBins stopReason), ∃ bin ∈ saneCurve, _))
  | fastDrop => exact inferInstanceAs (Decidable (∃ bin ∈ saneCurve, _))

instance (profiles : ForgeProfiles) (key : ApplyPair)
    (plan : Except RepairLimit (Nat × Option ℚ)) :
    Decidable (s.LeadsBelowTarget run answers profiles key plan) :=
  match plan with
  | .ok _ => inferInstanceAs (Decidable
    ((s.repairProposer run answers profiles key).Reaches run.saneBaseCurve))
  | .error _ => inferInstanceAs (Decidable (f2ProfileRole profiles key = .godforge →
    (∃ lower ∈ keysOf s.classified, lower.1 < key.1) →
      (Proposer.fastDrop s.classified s.excludedApplyPairs key).Reaches run.saneBaseCurve))

instance : Decidable (s.ProposesBelowTarget run answers) :=
  inferInstanceAs (Decidable (∀ key ∈ s.gatesNext run, _))

/-- The pairs that a step hands to the gate or to a calibration. -/
inductive Hands : ApplyPair → Prop
  | gate {key : ApplyPair} (h : s.gatesNext run = some key) : Hands key
  | repair {profiles : ForgeProfiles} {key : ApplyPair} {nextMv : Nat} {measured : Option ℚ}
      (hfails : Fails run s answers profiles key)
      (hplan : s.repairPlan run answers profiles key = .ok (nextMv, measured)) :
      Hands (key.1, nextMv)
  | drop {profiles : ForgeProfiles} {key : ApplyPair} {limit : RepairLimit}
      {excluded : Finset ApplyPair} {carried : PowerSweepPoint} {confidence : ℚ}
      (hfails : Fails run s answers profiles key)
      (hplan : s.repairPlan run answers profiles key = .error limit)
      (hrole : f2ProfileRole profiles key = .godforge)
      (hcarried : f2GodforgeFastDropCandidate s.classified excluded key =
        some (carried, confidence)) :
      Hands (carried.target, key.2)

variable {run : ForgeRun} {s : ApplyLoop} {answers : ApplyAnswers} {key pair : ApplyPair}
  {profiles : ForgeProfiles} {curve : BaseCurve}

theorem ProposesBelowTarget.leads (h : s.ProposesBelowTarget run answers)
    (hfails : Fails run s answers profiles key) :
    s.LeadsBelowTarget run answers profiles key (s.repairPlan run answers profiles key) :=
  (h key hfails.gates profiles hfails.profiles).resolve_left (by simp [hfails.failed])

/-- What replaces a failed pair still has to be raised. -/
theorem repair_raises {nextMv : Nat} {measured : Option ℚ} (hcurve : run.saneBaseCurve = curve.bins)
    (hbelow : s.ProposesBelowTarget run answers) (hfails : Fails run s answers profiles key)
    (hplan : s.repairPlan run answers profiles key = .ok (nextMv, measured)) :
    curve.Raises (key.1, nextMv) := by
  have hleads := hbelow.leads hfails
  rw [hplan] at hleads
  have hpair : (s.repairProposer run answers profiles key).pair curve.bins =
      some (key.1, nextMv) := by
    unfold repairPlan at hplan
    rw [← hcurve]
    unfold repairProposer Proposer.pair
    simp only [hplan]
  rw [Proposer.raises_iff hpair, ← hcurve]
  exact hleads

theorem drop_raises {limit : RepairLimit} {excluded : Finset ApplyPair} {carried : PowerSweepPoint}
    {confidence : ℚ} (hcurve : run.saneBaseCurve = curve.bins)
    (hbelow : s.ProposesBelowTarget run answers) (hfails : Fails run s answers profiles key)
    (hplan : s.repairPlan run answers profiles key = .error limit)
    (hrole : f2ProfileRole profiles key = .godforge)
    (hcarried : f2GodforgeFastDropCandidate s.classified excluded key =
      some (carried, confidence)) :
    curve.Raises (carried.target, key.2) := by
  have hleads := hbelow.leads hfails
  rw [hplan] at hleads
  obtain ⟨-, ⟨lower, hlower, hclock⟩, hlt, -⟩ := f2GodforgeFastDropCandidate_spec hcarried
  have hpair : (Proposer.fastDrop s.classified excluded key).pair curve.bins =
      some (carried.target, key.2) := by
    unfold Proposer.pair
    simp only [hcarried, Option.map_some]
  rw [Proposer.raises_iff hpair, ← hcurve]
  exact hleads hrole ⟨lower, hlower, by rw [hclock]; exact hlt⟩

/-- One step that proposes below its targets keeps every open pair to be raised. -/
theorem raises_advance {frontier : Classified} (hwithin : Within (run.stock frontier) s)
    (hcurve : run.saneBaseCurve = curve.bins) (hopen : ∀ pair ∈ s.openPairs, curve.Raises pair)
    (hbelow : s.ProposesBelowTarget run answers) :
    ∀ pair ∈ (s.advance run answers).openPairs, curve.Raises pair := by
  intro pair hpair
  cases @advance_opens run s answers frontier hwithin with
  | nothing h => exact hopen pair (h.openPairs hpair)
  | climb profiles key nextMv measured hfails hgone hplan hgrows =>
    rcases hgrows.openPairs hpair with hold | rfl
    · exact hopen pair hold
    · exact repair_raises hcurve hbelow hfails hplan
  | drop profiles key limit excluded carried confidence hfails hgone hplan hrole hcarried hgrows =>
    rcases hgrows.openPairs hpair with hold | rfl
    · exact hopen pair hold
    · exact drop_raises hcurve hbelow hfails hplan hrole hcarried

/-- All that a step hands on still has to be raised. -/
theorem Hands.raises {frontier : Classified} (h : s.Hands run answers pair)
    (hwithin : Within (run.stock frontier) s) (hcurve : run.saneBaseCurve = curve.bins)
    (hopen : ∀ pair ∈ s.openPairs, curve.Raises pair)
    (hbelow : s.ProposesBelowTarget run answers) : curve.Raises pair := by
  cases h with
  | gate hgates => exact hopen _ (open_of_gatesNext hwithin hgates)
  | repair hfails hplan => exact repair_raises hcurve hbelow hfails hplan
  | drop hfails hplan hrole hcarried => exact drop_raises hcurve hbelow hfails hplan hrole hcarried

/-- The clocks are those of the frontier. -/
theorem Hands.clock {frontier : Classified} {ceiling : Nat} (h : s.Hands run answers pair)
    (hwithin : Within (run.stock frontier) s)
    (hceiling : ∀ key ∈ keysOf frontier, key.1 ≤ ceiling) : pair.1 ≤ ceiling := by
  have hstock : ∀ key ∈ run.stock frontier, key.1 ≤ ceiling := by
    intro key hkey
    obtain ⟨hclock, -⟩ := Finset.mem_product.mp hkey
    obtain ⟨other, hother, heq⟩ := List.mem_map.mp (List.mem_toFinset.mp hclock)
    rw [← heq]
    exact hceiling other hother
  have hgated : ∀ key, s.gatesNext run = some key → key.1 ≤ ceiling := fun key hgates =>
    hstock key (hwithin.keys key (mem_openPairs.mp (open_of_gatesNext hwithin hgates)).1)
  cases h with
  | gate hgates => exact hgated _ hgates
  | @repair profiles key nextMv measured hfails hplan => exact hgated key hfails.gates
  | @drop profiles key limit excluded carried confidence hfails hplan hrole hcarried =>
    obtain ⟨-, -, hlt, -⟩ := f2GodforgeFastDropCandidate_spec hcarried
    exact hlt.le.trans (hgated key hfails.gates)

end ApplyLoop

section Runs

variable {run : ForgeRun} {frontier : ClassifiedFrontier} {observations : List F2Observation}
  {l : List ApplyAnswers} {s : ApplyLoop} {curve : BaseCurve}

theorem exactApply_raises (hcurve : run.saneBaseCurve = curve.bins)
    (hstart : ∀ pair ∈ (run.start frontier.points observations).openPairs, curve.Raises pair)
    (h : ((run.exactApply frontier.points observations).guarded fun s answers =>
      s.ProposesBelowTarget run answers).Run l s) :
    ∀ pair ∈ s.openPairs, curve.Raises pair := by
  have hall : (run.exactApply frontier.points observations).Run l s ∧
      ∀ pair ∈ s.openPairs, curve.Raises pair := by
    refine Machine.Run.invariant_trace (I := fun l s =>
      (run.exactApply frontier.points observations).Run l s ∧
        ∀ pair ∈ s.openPairs, curve.Raises pair)
      (fun s hs => ?_) (fun l s answers s' ih hs => ?_) h
    · obtain rfl : s = run.start frontier.points observations := hs
      exact ⟨.start rfl, hstart⟩
    · obtain ⟨hrun, hopen⟩ := ih
      obtain ⟨hbelow, hstep⟩ := hs
      have hnext := hrun.next hstep
      obtain ⟨-, -, rfl⟩ := hstep
      exact ⟨hnext, ApplyLoop.raises_advance (ForgeRun.exactApply_kept hrun).within hcurve hopen
        hbelow⟩
  exact hall.2

end Runs

/-- A proposed pair is planned just where its proposer reaches a bin below the target; and a run
whose frontier and whose steps do so never hands on a pair that cannot be planned. -/
theorem proposals_planned_iff (curve : BaseCurve) (ceiling : Nat) :
    (∀ (p : Proposer) (pair : ApplyPair), p.pair curve.bins = some pair → pair.1 ≤ ceiling →
      (curve.Accepts ceiling pair ↔ p.Reaches curve.bins)) ∧
    ∀ (run : ForgeRun) (frontier : ClassifiedFrontier) (observations : List F2Observation)
      (l : List ApplyAnswers) (s : ApplyLoop) (answers : ApplyAnswers),
      run.saneBaseCurve = curve.bins → (∀ key ∈ keysOf frontier.points, key.1 ≤ ceiling) →
      (∀ pair ∈ (run.start frontier.points observations).openPairs, curve.Raises pair) →
      ((run.exactApply frontier.points observations).guarded fun s answers =>
        s.ProposesBelowTarget run answers).Run l s → s.ProposesBelowTarget run answers →
      ∀ pair, s.Hands run answers pair → curve.Accepts ceiling pair := by
  refine ⟨fun p pair hpair hceiling => ?_, fun run frontier observations l s answers hcurve
    hceiling hstart hrun hbelow pair hhands => ?_⟩
  · exact (curve.accepts_iff hceiling).trans (Proposer.raises_iff hpair)
  · have hwithin := (ForgeRun.exactApply_kept hrun.of_guarded).within
    rw [curve.accepts_iff (hhands.clock hwithin hceiling)]
    exact hhands.raises hwithin hcurve (exactApply_raises hcurve hstart hrun) hbelow

section Sample

def ApplyLoop.endedWithout (s : ApplyLoop) : Bool :=
  match s.phase with
  | .ended none => true
  | _ => false

theorem ApplyLoop.hasEnded_of_endedWithout (s : ApplyLoop) (h : s.endedWithout = true) :
    s.hasEnded := by
  unfold endedWithout at h
  split at h
  next hphase => exact ⟨none, hphase⟩
  next => cases h

def sampleCurve : BaseCurve where
  bins := sampleForge.saneBaseCurve
  sane := by decide
  distinct := by decide
  monotone := by decide

/-- A pair of the margin policy is planned, and so is the pair that a gate runs on. -/
theorem sample_planned : sampleCurve.Accepts 1900 (1900, 900) ∧
    ∃ l s, (sampleForge.exactApply sampleFrontier.points []).Run l s ∧
      s.gatesNext sampleForge = some (1900, 900) ∧ sampleCurve.Accepts 1900 (1900, 900) := by
  obtain ⟨hproposals, hruns⟩ := proposals_planned_iff sampleCurve 1900
  have hmargin : (Proposer.marginPolicy 1900 875).pair sampleCurve.bins = some (1900, 900) := by
    decide
  have hreaches : (Proposer.marginPolicy 1900 875).Reaches sampleCurve.bins := by decide
  refine ⟨(hproposals _ _ hmargin (by decide)).mpr hreaches, ?_⟩
  have hany : (([passingAnswers 1900 900 160]).foldlM (fun (s : ApplyLoop) answers =>
      if s.ProposesBelowTarget sampleForge answers then s.follow sampleForge answers else none)
      (sampleForge.start sampleFrontier.points [])).any (fun (s : ApplyLoop) =>
        s.gatesNext sampleForge == some (1900, 900) &&
          decide (s.ProposesBelowTarget sampleForge (passingAnswers 1900 900 160))) = true := by
    decide +kernel
  obtain ⟨s, hrun, hs⟩ := ForgeRun.exists_guarded_run_of_any hany
  rw [Bool.and_eq_true, beq_iff_eq, decide_eq_true_eq] at hs
  have hceiling : ∀ key ∈ keysOf sampleFrontier.points, key.1 ≤ 1900 := by decide
  have hstart : ∀ pair ∈ (sampleForge.start sampleFrontier.points []).openPairs,
      sampleCurve.Raises pair := by
    intro pair hpair
    have hmem : pair ∈ [((1900, 900) : ApplyPair)] := by
      have hkeys : (sampleForge.start sampleFrontier.points []).openPairs ⊆ [(1900, 900)] := by
        decide +kernel
      exact hkeys hpair
    obtain rfl := List.mem_singleton.mp hmem
    exact ⟨(1, 900, 1785), by decide, rfl, by decide⟩
  exact ⟨_, s, hrun.of_guarded, hs.1, hruns sampleForge sampleFrontier [] _ s
    (passingAnswers 1900 900 160) rfl hceiling hstart hrun hs.2 (1900, 900) (.gate hs.1)⟩

/-- A gate that fails once with a silent error; the bin above needs a calibration. -/
def silentAnswers : ApplyAnswers where
  gate := fun _ => { summary := { qualified := false, stopReason := "SilentError" } }
  calibration :=
    { summary := (calibrationPlanRefusal sampleCurve.bins 1800 925 100
        (sampleCurve.limits 1830)).getD { confirmed := false, stopReason := "Cancelled" } }

def topBinFrontier : ClassifiedFrontier where
  points := [(samplePoint 1800 900 150, 9 / 10)]
  targets := by decide
  hasTarget := by decide
  fresh := by decide

/-- The bin above the failed one is faster than the target: the repair proposes it all the same, and
its calibration aborts the Forge. -/
theorem repair_proposes_unplannable :
    (Proposer.verticalRepair sampleForge.watts {} {} [] sampleForge.gpuKey 1800 900 "SilentError"
      200 925).pair sampleCurve.bins = some (1800, 925) ∧
    ¬ sampleCurve.Accepts 1830 (1800, 925) ∧
    silentAnswers.calibration.summary.stopReason =
      "CalibrationPlanFailed: 1800 MHz @ 925 mV is not an exact valid F2 anchor" ∧
    ∃ l s, (sampleForge.exactApply topBinFrontier.points []).Run l s ∧ s.hasEnded ∧
      s.forgeAborted = true := by
  refine ⟨by decide +kernel, ?_, by decide +kernel, ?_⟩
  · rw [BaseCurve.accepts_iff (by decide)]
    have hnone : ¬ ∃ bin ∈ sampleCurve.bins, bin.mv = 925 ∧ bin.base < 1800 := by decide
    exact hnone
  · have hany : ((List.replicate 2 silentAnswers).foldlM (ApplyLoop.follow sampleForge)
        (sampleForge.start topBinFrontier.points [])).any (fun (s : ApplyLoop) =>
          s.forgeAborted && s.endedWithout) = true := by
      decide +kernel
    obtain ⟨s, hrun, hs⟩ := ForgeRun.exists_run_of_any hany
    rw [Bool.and_eq_true] at hs
    exact ⟨_, s, hrun, s.hasEnded_of_endedWithout hs.2, hs.1⟩

end Sample

end Nidavellir

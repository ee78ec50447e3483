import Nidavellir.AnchoredWord
import Nidavellir.Lib.Chain

namespace Nidavellir

open Chain

structure AnchoredDescentPlan where
  focusTargetMhz : UInt32
  startMv : Option UInt32
  maxSteps : Nat
  candidates : List AnchoredPositiveOffsetPlan
  stopReason : Option String
  skippedAboveTarget : Nat
deriving DecidableEq, Repr

namespace Word

section Planner

variable (staticBaseCurve : List VfBin) (focusTargetMhz : UInt32) (startMv : Option UInt32)
  (limits : Limits) (maxSteps : Nat)

/-- The scan of the bins: its candidates, why it stopped, and the bins that it skipped. -/
def descend : Int32 → Nat → List VfBin →
    List AnchoredPositiveOffsetPlan × Option String × Nat
  | _, _, [] => ([], none, 0)
  | prevOffset, left, bin :: bins =>
    if startMv.any (·.toNat < bin.mv) then descend prevOffset left bins
    else if left = 0 then ([], some s!"step budget reached ({maxSteps} step(s))", 0)
    else if focusTargetMhz.toNat ≤ bin.base then
      let (candidates, stopReason, skipped) := descend prevOffset left bins
      (candidates, stopReason, skipped + 1)
    else
      match planBoundedAnchoredPositiveOffset staticBaseCurve bin.index focusTargetMhz prevOffset
          limits with
      | .ok plan =>
        let (candidates, rest) := descend (Int32.ofInt plan.anchor.offsetMhz) (left - 1) bins
        (plan :: candidates, rest)
      | .error reason => ([], some reason, 0)

def planAnchoredUndervoltDescent : AnchoredDescentPlan :=
  let (candidates, stopReason, skippedAboveTarget) :=
    descend staticBaseCurve focusTargetMhz startMv limits maxSteps 0 maxSteps
      (staticBaseCurve.mergeSort fun a b => decide (b.mv ≤ a.mv))
  { focusTargetMhz, startMv, maxSteps, candidates, stopReason, skippedAboveTarget }

def eligible (bin : VfBin) : Bool :=
  !startMv.any (·.toNat < bin.mv) && decide (bin.base < focusTargetMhz.toNat)

/-- The bins that the descent may raise, highest voltage first. -/
def eligibleBins : List VfBin :=
  (staticBaseCurve.mergeSort fun a b => decide (b.mv ≤ a.mv)).filter
    (eligible focusTargetMhz startMv)

def planAfter (prevOffset : Int32) (bin : VfBin) : Except String AnchoredPositiveOffsetPlan :=
  planBoundedAnchoredPositiveOffset staticBaseCurve bin.index focusTargetMhz prevOffset limits

end Planner

def offsetOf (plan : AnchoredPositiveOffsetPlan) : Int32 := Int32.ofInt plan.anchor.offsetMhz

def anchorBin (plan : AnchoredPositiveOffsetPlan) : VfBin :=
  (plan.anchor.index, plan.anchor.voltageMv, plan.anchor.baseMhz)

variable {curve : List VfBin} {targetMhz : UInt32} {startMv : Option UInt32} {limits : Limits}
  {maxSteps : Nat} {prevOffset : Int32} {anchorBinIndex : Nat}
  {plan : AnchoredPositiveOffsetPlan} {candidates : List AnchoredPositiveOffsetPlan}

/-- The scan is the greedy choice among the bins that it does not pass over. -/
theorem descend_candidates (prevOffset : Int32) (left : Nat) (bins : List VfBin) :
    (descend curve targetMhz startMv limits maxSteps prevOffset left bins).1 =
      greedy (planAfter curve targetMhz limits) offsetOf prevOffset left
        (bins.filter (eligible targetMhz startMv)) := by
  induction bins generalizing prevOffset left with
  | nil => rw [List.filter_nil, greedy_nil, descend]
  | cons bin bins ih =>
    unfold descend
    by_cases habove : startMv.any (·.toNat < bin.mv) = true
    · rw [if_pos habove, List.filter_cons_of_neg (by simp [eligible, habove])]
      exact ih prevOffset left
    · rw [if_neg habove]
      by_cases hleft : left = 0
      · rw [if_pos hleft, hleft, greedy_zero]
      · rw [if_neg hleft]
        by_cases hbase : targetMhz.toNat ≤ bin.base
        · rw [if_pos hbase, List.filter_cons_of_neg (by simp [eligible, hbase])]
          exact ih prevOffset left
        · rw [if_neg hbase, List.filter_cons_of_pos (by
            simp only [eligible, Bool.and_eq_true, Bool.not_eq_true', decide_eq_true_eq]
            exact ⟨Bool.eq_false_iff.mpr habove, not_le.mp hbase⟩)]
          obtain ⟨left, rfl⟩ := Nat.exists_eq_add_one_of_ne_zero hleft
          cases hplan : planBoundedAnchoredPositiveOffset curve bin.index targetMhz prevOffset
              limits with
          | error e =>
            have hrefused : planAfter curve targetMhz limits prevOffset bin = .error e := hplan
            rw [greedy_cons_error hrefused]
          | ok plan =>
            have haccepted : planAfter curve targetMhz limits prevOffset bin = .ok plan := hplan
            rw [greedy_cons_ok haccepted]
            exact congrArg (plan :: ·) (ih (offsetOf plan) left)

/-- A candidate raises the bin that it was asked to raise, to a target that an `i32` holds. -/
theorem planAfter_anchor {bin : VfBin} (hnodup : (curve.map VfBin.index).Nodup)
    (hbin : bin ∈ curve) (h : planAfter curve targetMhz limits prevOffset bin = .ok plan) :
    targetMhz.toNat < 2 ^ 31 ∧ anchorBin plan = bin ∧
      plan.anchor.offsetMhz = (targetMhz.toNat : Int) - bin.base ∧
        bin.base < targetMhz.toNat := by
  obtain ⟨htarget, found, hfound, hoffset, hraised, hindex, hmv, hbase⟩ :=
    planBoundedPositiveOffset_ok (planBoundedAnchored_anchor h)
  have hsame : bin = found :=
    Option.some.inj ((find?_key_eq_some hnodup hbin).symm.trans hfound)
  subst hsame
  exact ⟨htarget, Prod.ext hindex (Prod.ext hmv hbase), hoffset, hraised⟩

/-- From an offset of zero or more no step wraps. -/
theorem stepFits_of_nonneg (htarget : targetMhz.toNat < 2 ^ 31) (hprev : 0 ≤ prevOffset.toInt) :
    StepFits curve anchorBinIndex targetMhz prevOffset := by
  intro bin hbin
  omega

theorem planAfter_sound {bin : VfBin} (hprev : 0 ≤ prevOffset.toInt)
    (h : planAfter curve targetMhz limits prevOffset bin = .ok plan) :
    AnchoredSound curve bin.index targetMhz.toNat prevOffset.toInt limits.value plan := by
  obtain ⟨htarget, -⟩ := planBoundedPositiveOffset_ok (planBoundedAnchored_anchor h)
  exact (anchoredSound_iff curve bin.index targetMhz prevOffset limits plan h).mpr
    (stepFits_of_nonneg htarget hprev)

theorem planAfter_replan {bin : VfBin} {prevOffset' : Int32} (hprev : 0 ≤ prevOffset.toInt)
    (hle : prevOffset.toInt ≤ prevOffset'.toInt)
    (h : planAfter curve targetMhz limits prevOffset bin = .ok plan) :
    ∃ plan', planAfter curve targetMhz limits prevOffset' bin = .ok plan' ∧
      plan'.entries = plan.entries := by
  obtain ⟨htarget, -⟩ := planBoundedPositiveOffset_ok (planBoundedAnchored_anchor h)
  unfold planAfter at h ⊢
  rw [planBoundedAnchoredPositiveOffset_eq htarget (stepFits_of_nonneg htarget hprev)] at h
  obtain ⟨anchor, hagain⟩ := planBoundedAnchored_replan hle h
  refine ⟨{ plan with anchor }, ?_, rfl⟩
  rwa [planBoundedAnchoredPositiveOffset_eq htarget
    (stepFits_of_nonneg htarget (hprev.trans hle))]

/-- With a step for every bin the scan is the descent over the integers. -/
theorem descend_eq_planDescent (htarget : targetMhz.toNat < 2 ^ 31) {bins : List VfBin} {left : Nat}
    (hprev : 0 ≤ prevOffset.toInt) (hleft : bins.length ≤ left) :
    (descend curve targetMhz startMv limits maxSteps prevOffset left bins).1 =
      planDescent curve targetMhz.toNat (startMv.map UInt32.toNat) limits.value prevOffset.toInt
        bins := by
  induction bins generalizing prevOffset left with
  | nil => rw [descend, planDescent]
  | cons bin bins ih =>
    rw [List.length_cons] at hleft
    have hstart : (startMv.map UInt32.toNat).any (· < bin.mv) =
        startMv.any (·.toNat < bin.mv) := by
      cases startMv <;> rfl
    have hfits : StepFits curve bin.index targetMhz prevOffset := stepFits_of_nonneg htarget hprev
    have hplan : planBoundedAnchoredPositiveOffset curve bin.index targetMhz prevOffset limits =
        Nidavellir.planBoundedAnchoredPositiveOffset curve bin.index targetMhz.toNat
          prevOffset.toInt limits.value := planBoundedAnchoredPositiveOffset_eq htarget hfits
    unfold descend planDescent
    rw [hstart, hplan]
    cases habove : startMv.any (·.toNat < bin.mv) with
    | true => exact ih hprev (by omega)
    | false =>
      rw [if_neg Bool.false_ne_true, if_neg (by omega), Bool.false_or]
      by_cases hbase : targetMhz.toNat ≤ bin.base
      · rw [if_pos hbase, if_pos (decide_eq_true hbase)]
        exact ih hprev (by omega)
      · rw [if_neg hbase, if_neg (by simpa using hbase)]
        cases hmade : Nidavellir.planBoundedAnchoredPositiveOffset curve bin.index targetMhz.toNat
            prevOffset.toInt limits.value with
        | error e => rfl
        | ok plan =>
          have hsound := planBoundedAnchored_sound hmade
          have hword : (Int32.ofInt plan.anchor.offsetMhz).toInt = plan.anchor.offsetMhz := by
            have hpos := hsound.absolute.1
            have hcap : limits.value.absMaxOffsetMhz < 2 ^ 31 := limits.absMaxOffsetMhz.toInt_lt
            have hle := hsound.absolute.2
            exact Int32.toInt_ofInt_of_le (by omega) (by omega)
          have hnonneg : 0 ≤ (Int32.ofInt plan.anchor.offsetMhz).toInt := by
            rw [hword]
            exact le_trans zero_le_one hsound.absolute.1
          have hrest := @ih (Int32.ofInt plan.anchor.offsetMhz) (left - 1) hnonneg (by omega)
          rw [hword] at hrest
          exact congrArg (plan :: ·) hrest

structure DescentSound (curve : List VfBin) (targetMhz : UInt32) (startMv : Option UInt32)
    (limits : Limits) (maxSteps : Nat) (candidates : List AnchoredPositiveOffsetPlan) :
    Prop where
  descending : candidates.Pairwise fun a b => b.anchor.voltageMv < a.anchor.voltageMv
  started : ∀ c ∈ candidates, ∀ start, startMv = some start → c.anchor.voltageMv ≤ start.toNat
  floor : ∀ c ∈ candidates, limits.hwFloorMv.toNat ≤ c.anchor.voltageMv
  raised : ∀ c ∈ candidates, c.anchor.baseMhz < targetMhz.toNat
  budget : candidates.length ≤ maxSteps
  steps : ∀ i c, candidates[i]? = some c →
    c.anchor.offsetMhz - chainedPrevOffset candidates i 0 ≤ limits.stepMaxOffsetMhz.toInt
  first : ∀ c, candidates[0]? = some c → |c.anchor.offsetMhz| ≤ limits.stepMaxOffsetMhz.toInt
  unskipped : candidates.map anchorBin =
    (eligibleBins curve targetMhz startMv).take candidates.length
  longest : ∀ n plans, n ≤ maxSteps → n ≤ (eligibleBins curve targetMhz startMv).length →
    Accepted (planAfter curve targetMhz limits) offsetOf 0
      ((eligibleBins curve targetMhz startMv).take n) plans → n ≤ candidates.length
  replanned : ∀ (baseline : Int32) i c, candidates[i]? = some c → (i = 0 → 0 ≤ baseline.toInt) →
    ∃ plan, planBoundedAnchoredPositiveOffset curve c.anchor.index targetMhz
      (Int32.ofInt (chainedPrevOffset candidates i baseline.toInt)) limits = .ok plan ∧
        plan.entries = c.entries

theorem eligibleBins_pairwise (hnodup : (curve.map VfBin.mv).Nodup) :
    (eligibleBins curve targetMhz startMv).Pairwise fun a b => b.mv < a.mv := by
  have hperm := List.mergeSort_perm curve fun a b => decide (b.mv ≤ a.mv)
  have hsorted : (curve.mergeSort fun a b => decide (b.mv ≤ a.mv)).Pairwise
      fun a b => b.mv ≤ a.mv := by
    refine (List.pairwise_mergeSort ?_ ?_ curve).imp fun {a b} h => of_decide_eq_true h
    · intro a b c hab hbc
      rw [decide_eq_true_eq] at hab hbc ⊢
      exact hbc.trans hab
    · intro a b
      rw [Bool.or_eq_true, decide_eq_true_eq, decide_eq_true_eq]
      exact le_total b.mv a.mv
  have hdistinct : (curve.mergeSort fun a b => decide (b.mv ≤ a.mv)).Pairwise
      fun a b => a.mv ≠ b.mv := by
    rw [← List.pairwise_map]
    exact (hperm.map VfBin.mv).nodup_iff.mpr hnodup
  refine ((hsorted.and hdistinct).imp fun {a b} h => ?_).filter _
  have hle := h.1
  have hne := h.2
  omega

theorem mem_eligibleBins {bin : VfBin} (h : bin ∈ eligibleBins curve targetMhz startMv) :
    bin ∈ curve ∧ (∀ start, startMv = some start → bin.mv ≤ start.toNat) := by
  obtain ⟨hmem, heligible⟩ := List.mem_filter.mp h
  refine ⟨List.mem_mergeSort.mp hmem, ?_⟩
  rintro start rfl
  rw [eligible, Bool.and_eq_true, Option.any_some, Bool.not_eq_true', decide_eq_false_iff_not]
    at heligible
  exact not_lt.mp heligible.1

theorem chainedPrevOffset_succ (candidates : List AnchoredPositiveOffsetPlan) (p : Nat)
    (baselineOffset : Int) : chainedPrevOffset candidates (p + 1) baselineOffset =
      candidates[p]?.elim baselineOffset fun prev => prev.anchor.offsetMhz := rfl

theorem toInt_offsetOf {c : AnchoredPositiveOffsetPlan} (hpos : 0 < c.anchor.offsetMhz)
    (hword : c.anchor.offsetMhz < 2 ^ 31) : (offsetOf c).toInt = c.anchor.offsetMhz :=
  Int32.toInt_ofInt_of_le (by omega) hword

/-- The scan tries a candidate after the offset that the writer chains it to. -/
theorem toInt_stateAt
    (hword : ∀ c ∈ candidates, 0 < c.anchor.offsetMhz ∧ c.anchor.offsetMhz < 2 ^ 31) (i : Nat) :
    (stateAt offsetOf 0 candidates i).toInt = chainedPrevOffset candidates i 0 := by
  cases i with
  | zero => rfl
  | succ p =>
    rw [stateAt_succ, chainedPrevOffset_succ]
    cases hp : candidates[p]? with
    | none => rfl
    | some before =>
      obtain ⟨hpos, hlt⟩ := hword before (List.mem_of_getElem? hp)
      exact toInt_offsetOf hpos hlt

theorem chainedPrevOffset_nonneg
    (hword : ∀ c ∈ candidates, 0 < c.anchor.offsetMhz ∧ c.anchor.offsetMhz < 2 ^ 31) (i : Nat) :
    0 ≤ chainedPrevOffset candidates i 0 := by
  cases i with
  | zero => exact le_rfl
  | succ p =>
    rw [chainedPrevOffset_succ]
    cases hp : candidates[p]? with
    | none => exact le_rfl
    | some before => exact (hword before (List.mem_of_getElem? hp)).1.le

section Accepted

variable {bins : List VfBin} (hindices : (curve.map VfBin.index).Nodup)
  (hcurve : ∀ bin ∈ bins, bin ∈ curve)
  (haccepted : Accepted (planAfter curve targetMhz limits) offsetOf 0 bins candidates)

include hindices hcurve haccepted

theorem accepted_raised {c : AnchoredPositiveOffsetPlan} (hc : c ∈ candidates) :
    targetMhz.toNat < 2 ^ 31 ∧ anchorBin c ∈ bins ∧
      c.anchor.offsetMhz = (targetMhz.toNat : Int) - c.anchor.baseMhz ∧
        c.anchor.baseMhz < targetMhz.toNat := by
  obtain ⟨prev, bin, hbin, hplan⟩ := haccepted.exists_of_mem hc
  obtain ⟨htarget, hanchor, hoffset, hlt⟩ := planAfter_anchor hindices (hcurve bin hbin) hplan
  have hbase : c.anchor.baseMhz = bin.base := congrArg VfBin.base hanchor
  rw [hanchor, hbase]
  exact ⟨htarget, hbin, hoffset, hlt⟩

theorem accepted_word {c : AnchoredPositiveOffsetPlan} (hc : c ∈ candidates) :
    0 < c.anchor.offsetMhz ∧ c.anchor.offsetMhz < 2 ^ 31 := by
  obtain ⟨htarget, -, hoffset, hlt⟩ := accepted_raised hindices hcurve haccepted hc
  omega

theorem accepted_planned {i : Nat} {c : AnchoredPositiveOffsetPlan}
    (hc : candidates[i]? = some c) : ∃ prev : Int32,
      prev.toInt = chainedPrevOffset candidates i 0 ∧ 0 ≤ prev.toInt ∧
        planAfter curve targetMhz limits prev (anchorBin c) = .ok c := by
  have hword := fun c (hc : c ∈ candidates) => accepted_word hindices hcurve haccepted hc
  obtain ⟨bin, hbin, hplan⟩ := haccepted.getElem? hc
  have hanchor := (planAfter_anchor hindices (hcurve bin (List.mem_of_getElem? hbin)) hplan).2.1
  have hprev := toInt_stateAt hword i
  refine ⟨_, hprev, hprev ▸ chainedPrevOffset_nonneg hword i, ?_⟩
  rwa [hanchor]

theorem accepted_sound {i : Nat} {c : AnchoredPositiveOffsetPlan}
    (hc : candidates[i]? = some c) : AnchoredSound curve c.anchor.index targetMhz.toNat
      (chainedPrevOffset candidates i 0) limits.value c := by
  obtain ⟨prev, hprev, hnonneg, hplan⟩ := accepted_planned hindices hcurve haccepted hc
  rw [← hprev]
  exact planAfter_sound hnonneg hplan

/-- The writer makes each candidate again, whatever baseline it measures the first one from. -/
theorem accepted_replanned (baseline : Int32) {i : Nat} {c : AnchoredPositiveOffsetPlan}
    (hc : candidates[i]? = some c) (hbaseline : i = 0 → 0 ≤ baseline.toInt) :
    ∃ plan, planAfter curve targetMhz limits
      (Int32.ofInt (chainedPrevOffset candidates i baseline.toInt)) (anchorBin c) = .ok plan ∧
        plan.entries = c.entries := by
  obtain ⟨prev, hprev, hnonneg, hplan⟩ := accepted_planned hindices hcurve haccepted hc
  refine planAfter_replan hnonneg ?_ hplan
  cases i with
  | zero =>
    have hzero : prev.toInt = 0 := hprev
    have hfirst : chainedPrevOffset candidates 0 baseline.toInt = baseline.toInt := rfl
    rw [hzero, hfirst, Int32.ofInt_toInt]
    exact hbaseline rfl
  | succ p =>
    obtain ⟨before, hbefore⟩ : ∃ before, candidates[p]? = some before := by
      have hlt := (List.getElem?_eq_some_iff.mp hc).1
      exact ⟨candidates[p], List.getElem?_eq_getElem (by omega)⟩
    obtain ⟨hpos, hlt⟩ :=
      accepted_word hindices hcurve haccepted (List.mem_of_getElem? hbefore)
    rw [hprev, chainedPrevOffset_succ, chainedPrevOffset_succ, hbefore, Option.elim_some,
      Option.elim_some]
    exact (toInt_offsetOf hpos hlt).ge

end Accepted

/-- The descent raises the eligible bins one after another, and the writer can raise them again. -/
theorem planAnchoredUndervoltDescent_sound (curve : List VfBin) (targetMhz : UInt32)
    (startMv : Option UInt32) (limits : Limits) (maxSteps : Nat)
    (hindices : (curve.map VfBin.index).Nodup) (hvoltages : (curve.map VfBin.mv).Nodup) :
    DescentSound curve targetMhz startMv limits maxSteps
      (planAnchoredUndervoltDescent curve targetMhz startMv limits maxSteps).candidates := by
  have hgreedy : (planAnchoredUndervoltDescent curve targetMhz startMv limits maxSteps).candidates =
      greedy (planAfter curve targetMhz limits) offsetOf 0 maxSteps
        (eligibleBins curve targetMhz startMv) := descend_candidates 0 maxSteps _
  rw [hgreedy]
  generalize hcandidates : greedy (planAfter curve targetMhz limits) offsetOf 0 maxSteps
    (eligibleBins curve targetMhz startMv) = candidates
  have haccepted : Accepted (planAfter curve targetMhz limits) offsetOf 0
      ((eligibleBins curve targetMhz startMv).take candidates.length) candidates := by
    rw [← hcandidates]
    exact greedy_accepted 0 maxSteps _
  have hcurve : ∀ bin ∈ (eligibleBins curve targetMhz startMv).take candidates.length,
      bin ∈ curve := fun bin hbin => (mem_eligibleBins (List.mem_of_mem_take hbin)).1
  have hraised := fun c (hc : c ∈ candidates) => accepted_raised hindices hcurve haccepted hc
  have hunskipped : candidates.map anchorBin =
      (eligibleBins curve targetMhz startMv).take candidates.length :=
    haccepted.map_eq fun _ bin _ hbin hplan =>
      (planAfter_anchor hindices (hcurve bin hbin) hplan).2.1
  constructor
  case descending =>
    have hpairwise := (eligibleBins_pairwise hvoltages).sublist
      (List.take_sublist candidates.length (eligibleBins curve targetMhz startMv))
    rw [← hunskipped, List.pairwise_map] at hpairwise
    exact hpairwise
  case started =>
    intro c hc
    exact (mem_eligibleBins (List.mem_of_mem_take (hraised c hc).2.1)).2
  case floor =>
    intro c hc
    obtain ⟨i, hi⟩ := List.mem_iff_getElem?.mp hc
    exact (accepted_sound hindices hcurve haccepted hi).floor
  case raised => exact fun c hc => (hraised c hc).2.2.2
  case budget =>
    rw [← hcandidates]
    exact greedy_length_le 0 maxSteps _
  case steps => exact fun i c hc => (accepted_sound hindices hcurve haccepted hc).step
  case first =>
    intro c hc
    have hstep := (accepted_sound hindices hcurve haccepted hc).step
    have hpos := (accepted_word hindices hcurve haccepted (List.mem_of_getElem? hc)).1
    have hzero : chainedPrevOffset candidates 0 0 = 0 := rfl
    rw [abs_of_pos hpos]
    rwa [hzero, sub_zero] at hstep
  case unskipped => exact hunskipped
  case longest =>
    intro n plans hn hlength hpre
    rw [← hcandidates]
    exact length_le_greedy hpre hlength hn
  case replanned =>
    exact fun baseline i c hc => accepted_replanned hindices hcurve haccepted baseline hc

def descentCurve : List VfBin :=
  [(0, 850, 1710), (1, 900, 1725), (2, 950, 1740), (3, 1000, 1748), (4, 1062, 1800)]

theorem planAnchoredUndervoltDescent_sound_rising :
    DescentSound descentCurve 1755 none ⟨30, 15, 850, 1900⟩ 2
      (planAnchoredUndervoltDescent descentCurve 1755 none ⟨30, 15, 850, 1900⟩ 2).candidates :=
  planAnchoredUndervoltDescent_sound descentCurve 1755 none ⟨30, 15, 850, 1900⟩ 2
    (by decide) (by decide)

/-- The offsets of adjacent candidates lie within one step of each other. -/
def OffsetsWithin (limits : Limits) (candidates : List AnchoredPositiveOffsetPlan) : Prop :=
  ∀ i a b, candidates[i]? = some a → candidates[i + 1]? = some b →
    |b.anchor.offsetMhz - a.anchor.offsetMhz| ≤ limits.stepMaxOffsetMhz.toInt

/-- The base of its lowest bin lies above those of the bins before it. -/
def fallingCurve : List VfBin :=
  [(3, 1000, 1830), (2, 990, 1815), (1, 980, 1800), (0, 970, 1840)]

/-- Only the increase of a step is bounded: the offsets 15, 30, 45 are followed by 5. -/
theorem offset_falls :
    ¬ OffsetsWithin limits1845
      (planAnchoredUndervoltDescent fallingCurve 1845 none limits1845 4).candidates := by
  have hsorted : (fallingCurve.mergeSort fun a b => decide (b.mv ≤ a.mv)) = fallingCurve :=
    List.mergeSort_of_pairwise (by decide)
  have hoffsets : (planAnchoredUndervoltDescent fallingCurve 1845 none limits1845 4).candidates.map
      (fun c => c.anchor.offsetMhz) = [15, 30, 45, 5] := by
    rw [planAnchoredUndervoltDescent, hsorted]
    rfl
  generalize (planAnchoredUndervoltDescent fallingCurve 1845 none limits1845 4).candidates =
    candidates at hoffsets ⊢
  have hoffsetAt : ∀ (i : Nat) (offset : Int), [15, 30, 45, 5][i]? = some offset →
      ∃ c, candidates[i]? = some c ∧ c.anchor.offsetMhz = offset := by
    intro i offset h
    rw [← hoffsets, List.getElem?_map] at h
    exact Option.map_eq_some_iff.mp h
  obtain ⟨third, hthird, hhigh⟩ := hoffsetAt 2 45 rfl
  obtain ⟨fourth, hfourth, hlow⟩ := hoffsetAt 3 5 rfl
  intro hwithin
  have hle := hwithin 2 third fourth hthird hfourth
  rw [hhigh, hlow] at hle
  exact absurd hle (by decide)

end Word

end Nidavellir

import Nidavellir.VfHardware

namespace Nidavellir

open Fallible

/-- The anchored plan of an Apply pair, for its calibration and for its gate. -/
def planF2PowerCalibrationCandidate (sane : List VfBin) (targetMhz applyMv : Nat)
    (referenceOffsetMhz : Int) (limits : PositiveOffsetLimits) :
    Except String AnchoredPositiveOffsetPlan :=
  match selectExactApplyAnchorBin sane targetMhz applyMv with
  | none => .error s!"{targetMhz} MHz @ {applyMv} mV is not an exact valid F2 anchor"
  | some anchorIndex =>
    planBoundedAnchoredPositiveOffset sane anchorIndex targetMhz referenceOffsetMhz limits

/-- A sane static curve: each bin has its own index, and no clock falls with the voltage. -/
structure BaseCurve where
  bins : List VfBin
  sane : isSaneBaseCurve bins = true
  distinct : (bins.map VfBin.index).Nodup
  monotone : ∀ low ∈ bins, ∀ high ∈ bins, low.mv ≤ high.mv → low.base ≤ high.base

def BaseCurve.limits (curve : BaseCurve) (clockCeilingMhz : Nat) : PositiveOffsetLimits :=
  anchoredLimits curve.bins clockCeilingMhz

/-- The planner accepts the pair, from any offset that an earlier raise left. -/
def BaseCurve.Plans (curve : BaseCurve) (clockCeilingMhz : Nat) (pair : ApplyPair) : Prop :=
  ∀ referenceOffsetMhz : Int, 0 ≤ referenceOffsetMhz →
    ∃ plan, planF2PowerCalibrationCandidate curve.bins pair.1 pair.2 referenceOffsetMhz
      (curve.limits clockCeilingMhz) = .ok plan

def BaseCurve.Raises (curve : BaseCurve) (pair : ApplyPair) : Prop :=
  ∃ bin ∈ curve.bins, bin.mv = pair.2 ∧ bin.base < pair.1

section Limits

variable {bins : List VfBin} {bin : VfBin} {ceiling : Nat}

theorem anchoredLimits_floor (hbin : bin ∈ bins) :
    (anchoredLimits bins ceiling).hwFloorMv ≤ bin.mv := by
  change (bins.map VfBin.mv).min?.getD 0 ≤ bin.mv
  cases hmin : (bins.map VfBin.mv).min? with
  | none => exact Nat.zero_le _
  | some mv => exact (List.min?_eq_some_iff.mp hmin).2 _ (List.mem_map_of_mem hbin)

theorem anchoredLimits_offset {targetMhz : Nat} (hbin : bin ∈ bins)
    (hceiling : targetMhz ≤ ceiling) :
    (targetMhz : Int) - bin.base ≤ ((max (ceiling - (bins.map VfBin.base).min?.getD 0) 1 : Nat) :
      Int) := by
  have hlow : (bins.map VfBin.base).min?.getD 0 ≤ bin.base := by
    cases hmin : (bins.map VfBin.base).min? with
    | none => exact Nat.zero_le _
    | some base => exact (List.min?_eq_some_iff.mp hmin).2 _ (List.mem_map_of_mem hbin)
  omega

theorem raisable_of_frontier {targetMhz : Nat} {referenceOffsetMhz : Int} (hbin : bin ∈ bins)
    (hraise : bin.base < targetMhz) (hceiling : targetMhz ≤ ceiling)
    (href : 0 ≤ referenceOffsetMhz) :
    Raisable (anchoredLimits bins ceiling) referenceOffsetMhz targetMhz bin where
  floor := anchoredLimits_floor hbin
  raised := hraise
  absolute := anchoredLimits_offset hbin hceiling
  step := by
    have hoffset := anchoredLimits_offset hbin hceiling
    change (targetMhz : Int) - bin.base - referenceOffsetMhz ≤ _
    change _ ≤ ((max (ceiling - (bins.map VfBin.base).min?.getD 0) 1 : Nat) : Int)
    omega
  ceiling := hceiling

end Limits

theorem filter_key_eq_singleton {α : Type*} {f : α → Nat} {l : List α} {a : α}
    (hnodup : (l.map f).Nodup) (ha : a ∈ l) : l.filter (fun x => f x == f a) = [a] := by
  induction l with
  | nil => cases ha
  | cons b l ih =>
    obtain ⟨hnot, hrest⟩ := List.nodup_cons.mp hnodup
    rcases List.mem_cons.mp ha with rfl | ha
    · have hnone : l.filter (fun x => f x == f a) = [] := by
        rw [List.filter_eq_nil_iff]
        intro x hx hkey
        rw [beq_iff_eq] at hkey
        exact hnot (hkey ▸ List.mem_map_of_mem hx)
      rw [List.filter_cons_of_pos (by simp), hnone]
    · have hne : f b ≠ f a := fun heq => hnot (heq ▸ List.mem_map_of_mem ha)
      rw [List.filter_cons_of_neg (by simpa using hne)]
      exact ih hrest ha

theorem find?_key_eq_some {α : Type*} {f : α → Nat} {l : List α} {a : α}
    (hnodup : (l.map f).Nodup) (ha : a ∈ l) : l.find? (fun x => f x == f a) = some a := by
  rw [← List.head?_filter, filter_key_eq_singleton hnodup ha]
  rfl

section Plan

variable {curve : BaseCurve} {targetMhz ceiling : Nat} {referenceOffsetMhz : Int} {bin : VfBin}

/-- What the plan of an anchor makes of a bin of a monotone curve. -/
def entryOf (anchor : PositiveOffsetPlan) (targetMhz : Nat) (bin : VfBin) : AnchoredBinEntry :=
  if bin.index = anchor.index then
    ⟨bin.index, bin.mv, bin.base, anchor.offsetMhz, targetMhz, .anchor⟩
  else if anchor.voltageMv < bin.mv then
    ⟨bin.index, bin.mv, bin.base, min 0 ((targetMhz : Int) - bin.base),
      ((bin.base : Int) + min 0 ((targetMhz : Int) - bin.base)).toNat, .cappedAbove⟩
  else ⟨bin.index, bin.mv, bin.base, 0, bin.base, .elasticBelow⟩

theorem entryOf_index (anchor : PositiveOffsetPlan) (targetMhz : Nat) (bin : VfBin) :
    (entryOf anchor targetMhz bin).index = bin.index := by
  unfold entryOf
  split
  next => rfl
  next => split <;> rfl

theorem entryOf_isPositive {anchor : PositiveOffsetPlan} (hpos : 0 < anchor.offsetMhz)
    (targetMhz : Nat) (bin : VfBin) :
    (entryOf anchor targetMhz bin).isPositive = (bin.index == anchor.index) := by
  unfold entryOf AnchoredBinEntry.isPositive
  by_cases hindex : bin.index = anchor.index
  · rw [if_pos hindex, hindex]
    simpa using hpos
  · rw [if_neg hindex, beq_eq_false_iff_ne.mpr hindex, decide_eq_false_iff_not]
    split
    next =>
      change ¬ 0 < min 0 ((targetMhz : Int) - bin.base)
      omega
    next => exact lt_irrefl 0

theorem anchoredEntry_raisePlan (hanchor : bin ∈ curve.bins) (hraise : bin.base < targetMhz)
    {other : VfBin} (hother : other ∈ curve.bins) :
    anchoredEntry (raisePlan referenceOffsetMhz targetMhz bin) targetMhz other =
      .ok (entryOf (raisePlan referenceOffsetMhz targetMhz bin) targetMhz other) := by
  unfold entryOf
  by_cases hindex : other.index = (raisePlan referenceOffsetMhz targetMhz bin).index
  · rw [if_pos hindex]
    exact anchoredEntry_anchor hindex
  · rw [if_neg hindex]
    by_cases habove : (raisePlan referenceOffsetMhz targetMhz bin).voltageMv < other.mv
    · rw [if_pos habove]
      exact anchoredEntry_above hindex habove
    · rw [if_neg habove]
      have hle : other.mv ≤ bin.mv := not_lt.mp habove
      have hbase : other.base ≤ bin.base := curve.monotone other hother bin hanchor hle
      exact anchoredEntry_below hindex hle (by omega)

/-- On a monotone curve a raise within the envelope becomes a plan of the whole curve. -/
theorem planBoundedAnchored_accepts (hbin : bin ∈ curve.bins) (hraise : bin.base < targetMhz)
    (hceiling : targetMhz ≤ ceiling) (href : 0 ≤ referenceOffsetMhz) :
    ∃ plan, planBoundedAnchoredPositiveOffset curve.bins bin.index targetMhz referenceOffsetMhz
      (curve.limits ceiling) = .ok plan := by
  have hanchor := planBoundedPositiveOffset_eq_ok curve.sane
    (find?_key_eq_some curve.distinct hbin) (raisable_of_frontier hbin hraise hceiling href)
  generalize hraised : raisePlan referenceOffsetMhz targetMhz bin = anchor at hanchor
  have hentries : curve.bins.mapM (anchoredEntry anchor targetMhz) =
      .ok (curve.bins.map (entryOf anchor targetMhz)) := by
    rw [mapM_eq_ok, List.forall₂_map_right_iff, List.forall₂_same]
    intro other hother
    rw [← hraised]
    exact anchoredEntry_raisePlan hbin hraise hother
  have hindex : anchor.index = bin.index := by rw [← hraised]; rfl
  have hpos : 0 < anchor.offsetMhz := by
    rw [← hraised]
    change (0 : Int) < (targetMhz : Int) - bin.base
    omega
  have hpositive : (curve.bins.map (entryOf anchor targetMhz)).filter
      AnchoredBinEntry.isPositive = [entryOf anchor targetMhz bin] := by
    rw [List.filter_map]
    have hsame : AnchoredBinEntry.isPositive ∘ entryOf anchor targetMhz =
        fun other => other.index == bin.index := by
      funext other
      rw [Function.comp_apply, entryOf_isPositive hpos, hindex]
    rw [hsame, filter_key_eq_singleton curve.distinct hbin]
    rfl
  have hone : ¬ ([entryOf anchor targetMhz bin].length ≠ 1 ∨
      [entryOf anchor targetMhz bin].head?.map AnchoredBinEntry.index ≠ some anchor.index) := by
    simp [entryOf_index, hindex]
  unfold planBoundedAnchoredPositiveOffset
  rw [BaseCurve.limits, hanchor]
  simp only [bind, Except.bind, hentries, hpositive, if_neg hone]
  exact ⟨_, rfl⟩

/-- The planner accepts a pair within the ceiling just where a bin of it still has to be raised. -/
theorem BaseCurve.plans_iff {pair : ApplyPair} (hceiling : pair.1 ≤ ceiling) :
    curve.Plans ceiling pair ↔ curve.Raises pair := by
  constructor
  · intro h
    obtain ⟨plan, hplan⟩ := h 0 le_rfl
    unfold planF2PowerCalibrationCandidate at hplan
    split at hplan
    next => cases hplan
    next anchorIndex hanchor =>
      obtain ⟨bin, hfind, -⟩ := Option.map_eq_some_iff.mp hanchor
      have hbin := List.mem_of_find?_eq_some hfind
      have hkey := List.find?_some hfind
      rw [Bool.and_eq_true, beq_iff_eq, decide_eq_true_eq] at hkey
      exact ⟨bin, hbin, hkey⟩
  · rintro ⟨bin, hbin, hmv, hraise⟩ referenceOffsetMhz href
    unfold planF2PowerCalibrationCandidate selectExactApplyAnchorBin
    cases hfind : curve.bins.find? fun bin => bin.mv == pair.2 && decide (bin.base < pair.1) with
    | none =>
      have hnone := List.find?_eq_none.mp hfind bin hbin
      simp [hmv, hraise] at hnone
    | some anchor =>
      have hanchor := List.mem_of_find?_eq_some hfind
      have hkey := List.find?_some hfind
      rw [Bool.and_eq_true, beq_iff_eq, decide_eq_true_eq] at hkey
      exact planBoundedAnchored_accepts hanchor hkey.2 hceiling href

end Plan

end Nidavellir

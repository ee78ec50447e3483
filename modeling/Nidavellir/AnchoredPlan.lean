import Nidavellir.ClassifiedFrontier
import Nidavellir.F2Preflight
import Nidavellir.Lib.Fallible

namespace Nidavellir

open Fallible

def VfBin.index (bin : VfBin) : Nat := bin.1

def VfBin.base (bin : VfBin) : Nat := bin.2.2

def isSaneBasePoint (voltageMv freqMhz : Nat) : Bool :=
  decide (600 ≤ voltageMv) && decide (voltageMv ≤ 1150) && decide (500 ≤ freqMhz) &&
    decide (freqMhz ≤ 3500)

def isSaneBaseCurve (curve : List VfBin) : Bool :=
  !curve.isEmpty && curve.all fun bin => isSaneBasePoint bin.mv bin.base

/-- The caps of the full frontier: the highest target less the lowest base, and one at least. -/
def PositiveOffsetLimits.hardwareFrontier (hwFloorMv clockCeilingMhz minBaseMhz : Nat) :
    PositiveOffsetLimits where
  absMaxOffsetMhz := ((max (clockCeilingMhz - minBaseMhz) 1 : Nat) : Int)
  stepMaxOffsetMhz := ((max (clockCeilingMhz - minBaseMhz) 1 : Nat) : Int)
  hwFloorMv := hwFloorMv
  clockCeilingMhz := clockCeilingMhz

/-- One positive offset, for the bin of that index; what breaks a rule is refused, never clamped. -/
def planBoundedPositiveOffset (staticBaseCurve : List VfBin) (binIndex targetMhz : Nat)
    (prevOffsetMhz : Int) (limits : PositiveOffsetLimits) : Except String PositiveOffsetPlan :=
  if staticBaseCurve.isEmpty then
    .error "F2: static VF-table base unavailable/empty — fail closed"
  else if !isSaneBaseCurve staticBaseCurve then
    .error "F2: base curve has foreign / non-sane points — fail closed"
  else
    match staticBaseCurve.find? fun bin => bin.index == binIndex with
    | none => .error s!"F2: bin index {binIndex} is not a real VF point — fail closed"
    | some bin =>
      let offsetMhz := (targetMhz : Int) - bin.base
      let stepDeltaMhz := offsetMhz - prevOffsetMhz
      let effectiveMhz := (bin.base : Int) + offsetMhz
      if bin.mv < limits.hwFloorMv then
        .error (s!"F2: bin {bin.mv} mV is below the hardware floor {limits.hwFloorMv} mV " ++
          "— fail closed")
      else if offsetMhz ≤ 0 then
        .error (s!"F2: bin {bin.mv} mV base {bin.base} MHz already >= target {targetMhz} MHz " ++
          s!"(offset {offsetMhz} <= 0) — positive-offset-only, fail closed")
      else if offsetMhz > limits.absMaxOffsetMhz then
        .error (s!"F2: offset +{offsetMhz} MHz exceeds the absolute cap " ++
          s!"+{limits.absMaxOffsetMhz} MHz — fail closed")
      else if stepDeltaMhz > limits.stepMaxOffsetMhz then
        .error (s!"F2: per-step increase +{stepDeltaMhz} MHz (prev +{prevOffsetMhz}) exceeds " ++
          s!"the per-step cap +{limits.stepMaxOffsetMhz} MHz — fail closed")
      else if effectiveMhz ≤ 0 ∨ effectiveMhz.toNat > limits.clockCeilingMhz then
        .error (s!"F2: planned clock {effectiveMhz} MHz exceeds the clock ceiling " ++
          s!"{limits.clockCeilingMhz} MHz — fail closed")
      else
        .ok
          { index := bin.index
            voltageMv := bin.mv
            baseMhz := bin.base
            offsetMhz, prevOffsetMhz, stepDeltaMhz
            effectiveMhz := effectiveMhz.toNat }

/-- A bin of the anchored curve: the anchor is raised, what lies above it is capped, what lies
below stays elastic. -/
def anchoredEntry (anchor : PositiveOffsetPlan) (targetMhz : Nat) (bin : VfBin) :
    Except String AnchoredBinEntry :=
  if bin.index = anchor.index then
    .ok ⟨bin.index, bin.mv, bin.base, anchor.offsetMhz, targetMhz, .anchor⟩
  else if anchor.voltageMv < bin.mv then
    let offset : Int := if (bin.base : Int) > targetMhz then targetMhz - bin.base else 0
    let effective := (bin.base : Int) + offset
    if offset > 0 then
      .error (s!"F2 anchored: higher-voltage bin {bin.mv} mV would need a positive offset " ++
        s!"+{offset} — only the anchor may be raised, fail closed")
    else if effective > targetMhz then
      .error (s!"F2 anchored: higher-voltage bin {bin.mv} mV stays at {effective} MHz above " ++
        s!"target {targetMhz} MHz — fail closed")
    else .ok ⟨bin.index, bin.mv, bin.base, offset, effective.toNat, .cappedAbove⟩
  else if (bin.base : Int) > targetMhz then
    .error (s!"F2 anchored: lower-voltage bin {bin.mv} mV base {bin.base} MHz already above " ++
      s!"target {targetMhz} MHz — non-monotone/unsafe, fail closed")
  else .ok ⟨bin.index, bin.mv, bin.base, 0, bin.base, .elasticBelow⟩

def AnchoredBinEntry.isCapped (entry : AnchoredBinEntry) : Bool :=
  entry.role == .cappedAbove && decide (entry.offsetMhz < 0)

def AnchoredBinEntry.isPositive (entry : AnchoredBinEntry) : Bool := decide (0 < entry.offsetMhz)

def planBoundedAnchoredPositiveOffset (staticBaseCurve : List VfBin)
    (anchorBinIndex targetMhz : Nat) (prevOffsetMhz : Int) (limits : PositiveOffsetLimits) :
    Except String AnchoredPositiveOffsetPlan := do
  let anchor ← planBoundedPositiveOffset staticBaseCurve anchorBinIndex targetMhz prevOffsetMhz
    limits
  let entries ← staticBaseCurve.mapM (anchoredEntry anchor targetMhz)
  let above := entries.filter fun entry => entry.role == .cappedAbove
  let positive := entries.filter AnchoredBinEntry.isPositive
  if positive.length ≠ 1 ∨ positive.head?.map AnchoredBinEntry.index ≠ some anchor.index then
    .error ("F2 anchored: plan would carry a positive offset outside the anchor bin " ++
      "— fail closed")
  else
    .ok
      { targetMhz, anchor, entries
        cappedAboveBins := (entries.filter AnchoredBinEntry.isCapped).length
        aboveAlreadyOkBins := (above.filter fun entry => !entry.isCapped).length
        elasticBelowBins := (entries.filter fun entry => entry.role == .elasticBelow).length
        maxPositiveOffsetMhz := anchor.offsetMhz
        maxNegativeFlattenMhz :=
          (entries.filter AnchoredBinEntry.isCapped).foldl (fun m e => max m (-e.offsetMhz)) 0 }

/-- The candidates of the bins in that order, each chained to the offset of the one before; the
first refusal ends the descent. -/
def planDescent (staticBaseCurve : List VfBin) (focusTargetMhz : Nat) (startMv : Option Nat)
    (limits : PositiveOffsetLimits) : Int → List VfBin → List AnchoredPositiveOffsetPlan
  | _, [] => []
  | prevOffset, bin :: bins =>
    if startMv.any (· < bin.mv) || decide (focusTargetMhz ≤ bin.base) then
      planDescent staticBaseCurve focusTargetMhz startMv limits prevOffset bins
    else
      match planBoundedAnchoredPositiveOffset staticBaseCurve bin.index focusTargetMhz prevOffset
          limits with
      | .ok plan =>
        plan :: planDescent staticBaseCurve focusTargetMhz startMv limits plan.anchor.offsetMhz bins
      | .error _ => []

/-- The candidates of a target without a step budget, highest voltage first. -/
def planAnchoredUndervoltDescent (staticBaseCurve : List VfBin) (focusTargetMhz : Nat)
    (startMv : Option Nat) (limits : PositiveOffsetLimits) : List AnchoredPositiveOffsetPlan :=
  planDescent staticBaseCurve focusTargetMhz startMv limits 0
    (staticBaseCurve.mergeSort fun a b => decide (b.mv ≤ a.mv))

/-- The exact validated bin, when it still has to be raised. -/
def selectExactApplyAnchorBin (staticBaseCurve : List VfBin) (targetMhz anchorMv : Nat) :
    Option Nat :=
  (staticBaseCurve.find? fun bin => bin.mv == anchorMv && decide (bin.base < targetMhz)).map
    VfBin.index

variable {curve : List VfBin} {targetMhz : Nat} {prevOffsetMhz : Int}
  {limits : PositiveOffsetLimits} {anchor : PositiveOffsetPlan} {bin : VfBin}

/-- What a single raise has to keep to. -/
structure Raisable (limits : PositiveOffsetLimits) (prevOffsetMhz : Int) (targetMhz : Nat)
    (bin : VfBin) : Prop where
  floor : limits.hwFloorMv ≤ bin.mv
  raised : bin.base < targetMhz
  absolute : (targetMhz : Int) - bin.base ≤ limits.absMaxOffsetMhz
  step : (targetMhz : Int) - bin.base - prevOffsetMhz ≤ limits.stepMaxOffsetMhz
  ceiling : targetMhz ≤ limits.clockCeilingMhz

/-- The raise that the planner makes of a bin. -/
def raisePlan (prevOffsetMhz : Int) (targetMhz : Nat) (bin : VfBin) : PositiveOffsetPlan where
  index := bin.index
  voltageMv := bin.mv
  baseMhz := bin.base
  offsetMhz := (targetMhz : Int) - bin.base
  prevOffsetMhz := prevOffsetMhz
  stepDeltaMhz := (targetMhz : Int) - bin.base - prevOffsetMhz
  effectiveMhz := targetMhz

theorem planBoundedPositiveOffset_eq_ok {binIndex : Nat} (hsane : isSaneBaseCurve curve = true)
    (hbin : curve.find? (fun bin => bin.index == binIndex) = some bin)
    (h : Raisable limits prevOffsetMhz targetMhz bin) :
    planBoundedPositiveOffset curve binIndex targetMhz prevOffsetMhz limits =
      .ok (raisePlan prevOffsetMhz targetMhz bin) := by
  have hcurve : curve.isEmpty = false := by
    cases curve with
    | nil => cases hbin
    | cons => rfl
  have heffective : (bin.base : Int) + ((targetMhz : Int) - bin.base) = targetMhz := by omega
  have hraised := h.raised
  have hpos : ¬ ((targetMhz : Int) - bin.base ≤ 0) := by omega
  have hclock : ¬ ((targetMhz : Int) ≤ 0 ∨ limits.clockCeilingMhz < targetMhz) := by
    have := h.ceiling
    omega
  unfold planBoundedPositiveOffset
  simp only [hcurve, hsane, hbin, heffective, Nat.not_lt.mpr h.floor, hpos,
    Int.not_lt.mpr h.absolute, Int.not_lt.mpr h.step, gt_iff_lt, if_false, Bool.not_true,
    Bool.false_eq_true, Int.toNat_natCast]
  exact if_neg hclock

theorem anchoredEntry_anchor (h : bin.index = anchor.index) :
    anchoredEntry anchor targetMhz bin =
      .ok ⟨bin.index, bin.mv, bin.base, anchor.offsetMhz, targetMhz, .anchor⟩ := if_pos h

/-- A bin above the anchor is never refused: its clock is brought down to the target. -/
theorem anchoredEntry_above (hne : bin.index ≠ anchor.index) (hmv : anchor.voltageMv < bin.mv) :
    anchoredEntry anchor targetMhz bin =
      .ok ⟨bin.index, bin.mv, bin.base, min 0 ((targetMhz : Int) - bin.base),
        ((bin.base : Int) + min 0 ((targetMhz : Int) - bin.base)).toNat, .cappedAbove⟩ := by
  have hoffset : (if (bin.base : Int) > targetMhz then (targetMhz : Int) - bin.base else 0) =
      min 0 ((targetMhz : Int) - bin.base) := by
    split <;> omega
  have hneg : ¬ min 0 ((targetMhz : Int) - bin.base) > 0 := by omega
  have hcapped : ¬ (bin.base : Int) + min 0 ((targetMhz : Int) - bin.base) > targetMhz := by omega
  unfold anchoredEntry
  simp only [if_neg hne, if_pos hmv, hoffset, if_neg hneg, if_neg hcapped]

theorem anchoredEntry_below (hne : bin.index ≠ anchor.index) (hmv : bin.mv ≤ anchor.voltageMv)
    (hbase : bin.base ≤ targetMhz) :
    anchoredEntry anchor targetMhz bin =
      .ok ⟨bin.index, bin.mv, bin.base, 0, bin.base, .elasticBelow⟩ := by
  have hmv : ¬ anchor.voltageMv < bin.mv := by omega
  have hbase : ¬ (bin.base : Int) > targetMhz := by omega
  unfold anchoredEntry
  simp only [if_neg hne, if_neg hmv, if_neg hbase]

theorem anchoredEntry_refused (hne : bin.index ≠ anchor.index) (hmv : bin.mv ≤ anchor.voltageMv)
    (hbase : targetMhz < bin.base) :
    ∃ e, anchoredEntry anchor targetMhz bin = .error e := by
  have hmv : ¬ anchor.voltageMv < bin.mv := by omega
  have hbase : (bin.base : Int) > targetMhz := by omega
  unfold anchoredEntry
  simp only [if_neg hne, if_neg hmv, if_pos hbase]
  exact ⟨_, rfl⟩

theorem anchoredEntry_index {entry : AnchoredBinEntry}
    (h : anchoredEntry anchor targetMhz bin = .ok entry) : entry.index = bin.index := by
  by_cases hne : bin.index = anchor.index
  · rw [anchoredEntry_anchor hne] at h
    cases h
    rfl
  · by_cases hmv : anchor.voltageMv < bin.mv
    · rw [anchoredEntry_above hne hmv] at h
      cases h
      rfl
    · by_cases hbase : bin.base ≤ targetMhz
      · rw [anchoredEntry_below hne (by omega) hbase] at h
        cases h
        rfl
      · have hrefused : ∃ e, anchoredEntry anchor targetMhz bin = .error e :=
          anchoredEntry_refused hne (by omega) (by omega)
        obtain ⟨e, he⟩ := hrefused
        rw [he] at h
        cases h

/-- The one raise of an accepted plan, and its entries bin by bin. -/
theorem planBoundedAnchoredPositiveOffset_ok {binIndex : Nat} {plan : AnchoredPositiveOffsetPlan}
    (h : planBoundedAnchoredPositiveOffset curve binIndex targetMhz prevOffsetMhz limits =
      .ok plan) :
    planBoundedPositiveOffset curve binIndex targetMhz prevOffsetMhz limits = .ok plan.anchor ∧
      curve.mapM (anchoredEntry plan.anchor targetMhz) = .ok plan.entries ∧
        plan.targetMhz = targetMhz ∧ ((plan.entries.filter AnchoredBinEntry.isPositive).length = 1 ∧
          (plan.entries.filter AnchoredBinEntry.isPositive).head?.map AnchoredBinEntry.index =
            some plan.anchor.index) := by
  unfold planBoundedAnchoredPositiveOffset at h
  obtain ⟨anchor, hanchor, h⟩ := bind_eq_ok.mp h
  obtain ⟨entries, hentries, h⟩ := bind_eq_ok.mp h
  simp only at h
  split at h
  next => cases h
  next hpositive =>
    cases h
    simp only [ne_eq, not_or, Decidable.not_not] at hpositive
    exact ⟨hanchor, hentries, rfl, hpositive⟩

theorem planBoundedAnchoredPositiveOffset_entry_mem {binIndex : Nat}
    {plan : AnchoredPositiveOffsetPlan}
    (h : planBoundedAnchoredPositiveOffset curve binIndex targetMhz prevOffsetMhz limits =
      .ok plan) {entry : AnchoredBinEntry} (hentry : entry ∈ plan.entries) :
    ∃ bin ∈ curve, entry.index = bin.index := by
  obtain ⟨_, hentries, _⟩ := planBoundedAnchoredPositiveOffset_ok h
  obtain ⟨bin, hbin, hmade⟩ := exists_of_mem_mapM hentries hentry
  exact ⟨bin, hbin, anchoredEntry_index hmade⟩

end Nidavellir

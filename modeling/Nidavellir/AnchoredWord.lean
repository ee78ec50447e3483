import Nidavellir.AnchoredSound

namespace Nidavellir.Word

open Fallible

/-- The limits as the source stores them. -/
structure Limits where
  absMaxOffsetMhz : Int32
  stepMaxOffsetMhz : Int32
  hwFloorMv : UInt32
  clockCeilingMhz : UInt32
deriving DecidableEq, Repr

def Limits.value (self : Limits) : PositiveOffsetLimits where
  absMaxOffsetMhz := self.absMaxOffsetMhz.toInt
  stepMaxOffsetMhz := self.stepMaxOffsetMhz.toInt
  hwFloorMv := self.hwFloorMv.toNat
  clockCeilingMhz := self.clockCeilingMhz.toNat

/-- The planner of one offset in the arithmetic of a release build, where an `i32` wraps. -/
def planBoundedPositiveOffset (staticBaseCurve : List VfBin) (binIndex : Nat)
    (targetMhz : UInt32) (prevOffsetMhz : Int32) (limits : Limits) :
    Except String PositiveOffsetPlan :=
  if staticBaseCurve.isEmpty then
    .error "F2: static VF-table base unavailable/empty — fail closed"
  else if !isSaneBaseCurve staticBaseCurve then
    .error "F2: base curve has foreign / non-sane points — fail closed"
  else
    match staticBaseCurve.find? fun bin => bin.index == binIndex with
    | none => .error s!"F2: bin index {binIndex} is not a real VF point — fail closed"
    | some bin =>
      let target := targetMhz.toNat
      let prev := prevOffsetMhz.toInt
      let offset := targetMhz.toInt32 - Int32.ofNat bin.base
      let offsetMhz := offset.toInt
      let stepDeltaMhz := (offset - prevOffsetMhz).toInt
      let effective := Int32.ofNat bin.base + offset
      if bin.mv < limits.hwFloorMv.toNat then
        .error (s!"F2: bin {bin.mv} mV is below the hardware floor {limits.hwFloorMv.toNat} mV " ++
          "— fail closed")
      else if offsetMhz ≤ 0 then
        .error (s!"F2: bin {bin.mv} mV base {bin.base} MHz already >= target {target} MHz " ++
          s!"(offset {offsetMhz} <= 0) — positive-offset-only, fail closed")
      else if offsetMhz > limits.absMaxOffsetMhz.toInt then
        .error (s!"F2: offset +{offsetMhz} MHz exceeds the absolute cap " ++
          s!"+{limits.absMaxOffsetMhz.toInt} MHz — fail closed")
      else if stepDeltaMhz > limits.stepMaxOffsetMhz.toInt then
        .error (s!"F2: per-step increase +{stepDeltaMhz} MHz (prev +{prev}) exceeds " ++
          s!"the per-step cap +{limits.stepMaxOffsetMhz.toInt} MHz — fail closed")
      else if effective.toInt ≤ 0 ∨ effective.toUInt32.toNat > limits.clockCeilingMhz.toNat then
        .error (s!"F2: planned clock {effective.toInt} MHz exceeds the clock ceiling " ++
          s!"{limits.clockCeilingMhz.toNat} MHz — fail closed")
      else
        .ok
          { index := bin.index
            voltageMv := bin.mv
            baseMhz := bin.base
            offsetMhz
            prevOffsetMhz := prev
            stepDeltaMhz
            effectiveMhz := effective.toUInt32.toNat }

def anchoredEntry (anchor : PositiveOffsetPlan) (targetMhz : UInt32) (bin : VfBin) :
    Except String AnchoredBinEntry :=
  let target := targetMhz.toNat
  let baseI := Int32.ofNat bin.base
  let targetI := targetMhz.toInt32
  if bin.index = anchor.index then
    .ok ⟨bin.index, bin.mv, bin.base, anchor.offsetMhz, target, .anchor⟩
  else if anchor.voltageMv < bin.mv then
    let offset : Int32 := if baseI.toInt > targetI.toInt then targetI - baseI else 0
    let effective := (baseI + offset).toInt
    if offset.toInt > 0 then
      .error (s!"F2 anchored: higher-voltage bin {bin.mv} mV would need a positive offset " ++
        s!"+{offset.toInt} — only the anchor may be raised, fail closed")
    else if effective > targetI.toInt then
      .error (s!"F2 anchored: higher-voltage bin {bin.mv} mV stays at {effective} MHz above " ++
        s!"target {target} MHz — fail closed")
    else .ok ⟨bin.index, bin.mv, bin.base, offset.toInt, effective.toNat, .cappedAbove⟩
  else if baseI.toInt > targetI.toInt then
    .error (s!"F2 anchored: lower-voltage bin {bin.mv} mV base {bin.base} MHz already above " ++
      s!"target {target} MHz — non-monotone/unsafe, fail closed")
  else .ok ⟨bin.index, bin.mv, bin.base, 0, bin.base, .elasticBelow⟩

def planBoundedAnchoredPositiveOffset (staticBaseCurve : List VfBin) (anchorBinIndex : Nat)
    (targetMhz : UInt32) (prevOffsetMhz : Int32) (limits : Limits) :
    Except String AnchoredPositiveOffsetPlan := do
  let anchor ← planBoundedPositiveOffset staticBaseCurve anchorBinIndex targetMhz prevOffsetMhz
    limits
  let entries ← staticBaseCurve.mapM (anchoredEntry anchor targetMhz)
  let above := entries.filter fun entry => entry.role == .cappedAbove
  let positive := entries.filter AnchoredBinEntry.isPositive
  if positive.length ≠ 1 ∨ positive.head?.map AnchoredBinEntry.index ≠ some anchor.index then
    .error ("F2 anchored: plan would carry a positive offset outside the anchor bin " ++
      "— fail closed")
  else
    .ok
      { targetMhz := targetMhz.toNat, anchor, entries
        cappedAboveBins := (entries.filter AnchoredBinEntry.isCapped).length
        aboveAlreadyOkBins := (above.filter fun entry => !entry.isCapped).length
        elasticBelowBins := (entries.filter fun entry => entry.role == .elasticBelow).length
        maxPositiveOffsetMhz := anchor.offsetMhz
        maxNegativeFlattenMhz :=
          (entries.filter AnchoredBinEntry.isCapped).foldl (fun m e => max m (-e.offsetMhz)) 0 }

variable {curve : List VfBin} {anchorBinIndex : Nat} {targetMhz : UInt32}
  {prevOffsetMhz : Int32} {limits : Limits} {anchor : PositiveOffsetPlan} {bin : VfBin}

theorem toInt_toInt32 (h : targetMhz.toNat < 2 ^ 31) :
    targetMhz.toInt32.toInt = targetMhz.toNat := by
  have hnat : targetMhz.toInt32 = Int32.ofNat targetMhz.toNat := by
    rw [← UInt32.toInt32_ofNat', UInt32.ofNat_toNat]
  rw [hnat, Int32.toInt_ofNat_of_lt h]

theorem toInt_sub_of_fits {a b : Int32} (hlow : -2 ^ 31 ≤ a.toInt - b.toInt)
    (hhigh : a.toInt - b.toInt < 2 ^ 31) : (a - b).toInt = a.toInt - b.toInt := by
  rw [Int32.toInt_sub]
  exact Int.bmod_eq_of_le (by omega) (by omega)

theorem toNat_toUInt32 {a : Int32} (h : 0 ≤ a.toInt) : a.toUInt32.toNat = a.toInt.toNat := by
  have hle : 0 ≤ a := Int32.le_iff_toInt_le.mpr (by simpa using h)
  rw [Int32.toNat_toUInt32_of_le hle]
  rfl

theorem base_le (hsane : isSaneBaseCurve curve = true) (hbin : bin ∈ curve) :
    bin.base ≤ 3500 := by
  rw [isSaneBaseCurve, Bool.and_eq_true, List.all_eq_true] at hsane
  have hpoint := hsane.2 bin hbin
  simp only [isSaneBasePoint, Bool.and_eq_true, decide_eq_true_eq] at hpoint
  exact hpoint.2

theorem toInt_base (h : bin.base ≤ 3500) : (Int32.ofNat bin.base).toInt = bin.base :=
  Int32.toInt_ofNat_of_lt (by omega)

theorem toInt_offset (htarget : targetMhz.toNat < 2 ^ 31) (hbase : bin.base ≤ 3500) :
    (targetMhz.toInt32 - Int32.ofNat bin.base).toInt = (targetMhz.toNat : Int) - bin.base := by
  have ht := toInt_toInt32 htarget
  have hb := toInt_base hbase
  rw [toInt_sub_of_fits (by omega) (by omega), ht, hb]

/-- The clock that a raise ends at is the target, whatever wraps on the way. -/
theorem effective_eq (bin : VfBin) :
    Int32.ofNat bin.base + (targetMhz.toInt32 - Int32.ofNat bin.base) = targetMhz.toInt32 := by
  rw [Int32.add_comm, Int32.sub_add_cancel]

/-- The step from the previous offset is a number that an `i32` holds. -/
def StepFits (curve : List VfBin) (anchorBinIndex : Nat) (targetMhz : UInt32)
    (prevOffsetMhz : Int32) : Prop :=
  ∀ bin, curve.find? (fun bin => bin.index == anchorBinIndex) = some bin →
    (targetMhz.toNat : Int) - bin.base - prevOffsetMhz.toInt < 2 ^ 31

/-- As long as the step fits, nothing wraps. -/
theorem planBoundedPositiveOffset_eq (htarget : targetMhz.toNat < 2 ^ 31)
    (hfits : StepFits curve anchorBinIndex targetMhz prevOffsetMhz) :
    planBoundedPositiveOffset curve anchorBinIndex targetMhz prevOffsetMhz limits =
      Nidavellir.planBoundedPositiveOffset curve anchorBinIndex targetMhz.toNat
        prevOffsetMhz.toInt limits.value := by
  unfold planBoundedPositiveOffset Nidavellir.planBoundedPositiveOffset
  cases hsane : isSaneBaseCurve curve with
  | false => rfl
  | true =>
    cases hbin : curve.find? fun bin => bin.index == anchorBinIndex with
    | none => rfl
    | some bin =>
      have hbase := base_le hsane (List.mem_of_find?_eq_some hbin)
      have hoffset := toInt_offset htarget hbase
      have heffective : (targetMhz.toInt32).toInt = targetMhz.toNat := toInt_toInt32 htarget
      have hfit := hfits bin hbin
      have hprev := prevOffsetMhz.le_toInt
      have hsum : (bin.base : Int) + ((targetMhz.toNat : Int) - bin.base) = targetMhz.toNat := by
        omega
      simp only [effective_eq, UInt32.toUInt32_toInt32, hoffset, heffective, hsum, Limits.value,
        Int.toNat_natCast]
      by_cases hraised : (targetMhz.toNat : Int) - bin.base ≤ 0
      · simp only [if_pos hraised]
      · have hprevHigh := prevOffsetMhz.toInt_lt
        have hstep : (targetMhz.toInt32 - Int32.ofNat bin.base - prevOffsetMhz).toInt =
            (targetMhz.toNat : Int) - bin.base - prevOffsetMhz.toInt := by
          rw [toInt_sub_of_fits (by omega) (by omega), hoffset]
        simp only [hstep]

theorem anchoredEntry_eq (htarget : targetMhz.toNat < 2 ^ 31) (hbase : bin.base ≤ 3500) :
    anchoredEntry anchor targetMhz bin =
      Nidavellir.anchoredEntry anchor targetMhz.toNat bin := by
  have ht := toInt_toInt32 htarget
  have hb := toInt_base hbase
  unfold anchoredEntry Nidavellir.anchoredEntry
  simp only [ht, hb]
  by_cases hcap : (bin.base : Int) > targetMhz.toNat
  · have hoffset := toInt_offset htarget hbase
    have hsum : (bin.base : Int) + ((targetMhz.toNat : Int) - bin.base) = targetMhz.toNat := by
      omega
    simp only [if_pos hcap, hoffset, effective_eq, ht, hsum]
  · simp only [if_neg hcap, Int32.add_zero, hb, Int32.toInt_zero, add_zero]

theorem mapM_congr {α β : Type*} {f g : α → Except String β} {xs : List α}
    (h : ∀ x ∈ xs, f x = g x) : xs.mapM f = xs.mapM g := by
  induction xs with
  | nil => rfl
  | cons x xs ih =>
    rw [List.mapM_cons, List.mapM_cons, h x List.mem_cons_self,
      ih fun y hy => h y (List.mem_cons_of_mem _ hy)]

/-- The plan of a release build is the plan over the integers as long as its step fits. -/
theorem planBoundedAnchoredPositiveOffset_eq (htarget : targetMhz.toNat < 2 ^ 31)
    (hfits : StepFits curve anchorBinIndex targetMhz prevOffsetMhz) :
    planBoundedAnchoredPositiveOffset curve anchorBinIndex targetMhz prevOffsetMhz limits =
      Nidavellir.planBoundedAnchoredPositiveOffset curve anchorBinIndex targetMhz.toNat
        prevOffsetMhz.toInt limits.value := by
  unfold planBoundedAnchoredPositiveOffset Nidavellir.planBoundedAnchoredPositiveOffset
  rw [planBoundedPositiveOffset_eq htarget hfits]
  cases hanchor : Nidavellir.planBoundedPositiveOffset curve anchorBinIndex targetMhz.toNat
      prevOffsetMhz.toInt limits.value with
  | error e => rfl
  | ok anchor =>
    obtain ⟨hsane, -⟩ := planBoundedPositiveOffset_ok hanchor
    have hentries : curve.mapM (anchoredEntry anchor targetMhz) =
        curve.mapM (Nidavellir.anchoredEntry anchor targetMhz.toNat) :=
      mapM_congr fun bin hbin => anchoredEntry_eq htarget (base_le hsane hbin)
    simp only [bind, Except.bind, hentries]

theorem toInt_toInt32_nonpos (h : 2 ^ 31 ≤ targetMhz.toNat) : targetMhz.toInt32.toInt ≤ 0 := by
  have hnat : targetMhz.toInt32 = Int32.ofNat targetMhz.toNat := by
    rw [← UInt32.toInt32_ofNat', UInt32.ofNat_toNat]
  have hword := targetMhz.toNat_lt
  have hwraps : (targetMhz.toNat : Int).bmod 4294967296 = targetMhz.toNat - 4294967296 := by
    rw [Int.bmod_neg _ _ (by omega)]
    omega
  rw [hnat, Int32.toInt_ofNat', hwraps]
  omega

/-- A target beyond an `i32` ends below zero and is refused, so the offset itself never wraps. -/
theorem planBoundedPositiveOffset_ok
    (h : planBoundedPositiveOffset curve anchorBinIndex targetMhz prevOffsetMhz limits =
      .ok anchor) :
    targetMhz.toNat < 2 ^ 31 ∧
      ∃ bin, curve.find? (fun bin => bin.index == anchorBinIndex) = some bin ∧
        anchor.offsetMhz = (targetMhz.toNat : Int) - bin.base ∧ bin.base < targetMhz.toNat ∧
          anchor.index = bin.index ∧ anchor.voltageMv = bin.mv ∧ anchor.baseMhz = bin.base := by
  unfold planBoundedPositiveOffset at h
  split at h
  next => cases h
  next =>
    split at h
    next => cases h
    next hsane =>
      rw [Bool.not_eq_true, Bool.not_eq_false'] at hsane
      split at h
      next => cases h
      next bin hbin =>
        simp only [effective_eq] at h
        repeat' split at h
        all_goals first
          | cases h; done
          | skip
        next hraised _ _ hclock =>
          have htarget : targetMhz.toNat < 2 ^ 31 := by
            by_contra hwraps
            exact hclock (.inl (toInt_toInt32_nonpos (not_lt.mp hwraps)))
          have hoffset := toInt_offset htarget
            (base_le hsane (List.mem_of_find?_eq_some hbin))
          rw [hoffset] at hraised
          refine ⟨htarget, bin, hbin, ?_⟩
          cases h
          exact ⟨hoffset, by omega, rfl, rfl, rfl⟩

theorem planBoundedAnchored_anchor {plan : AnchoredPositiveOffsetPlan}
    (h : planBoundedAnchoredPositiveOffset curve anchorBinIndex targetMhz prevOffsetMhz limits =
      .ok plan) :
    planBoundedPositiveOffset curve anchorBinIndex targetMhz prevOffsetMhz limits =
      .ok plan.anchor := by
  unfold planBoundedAnchoredPositiveOffset at h
  obtain ⟨anchor, hanchor, h⟩ := bind_eq_ok.mp h
  obtain ⟨entries, -, h⟩ := bind_eq_ok.mp h
  simp only at h
  split at h
  next => cases h
  next =>
    cases h
    exact hanchor

/-- An accepted plan keeps all its promises just where its step fits. -/
theorem anchoredSound_iff (curve : List VfBin) (anchorBinIndex : Nat) (targetMhz : UInt32)
    (prevOffsetMhz : Int32) (limits : Limits) (plan : AnchoredPositiveOffsetPlan)
    (h : planBoundedAnchoredPositiveOffset curve anchorBinIndex targetMhz prevOffsetMhz limits =
      .ok plan) :
    AnchoredSound curve anchorBinIndex targetMhz.toNat prevOffsetMhz.toInt limits.value plan ↔
      StepFits curve anchorBinIndex targetMhz prevOffsetMhz := by
  obtain ⟨htarget, bin, hbin, hoffset, -⟩ :=
    planBoundedPositiveOffset_ok (planBoundedAnchored_anchor h)
  constructor
  · intro hsound other hother
    have hsame := Option.some.inj (hbin.symm.trans hother)
    have hstep := hsound.step
    have hcap : limits.value.stepMaxOffsetMhz < 2 ^ 31 := limits.stepMaxOffsetMhz.toInt_lt
    rw [← hsame]
    omega
  · intro hfits
    rw [planBoundedAnchoredPositiveOffset_eq htarget hfits] at h
    exact planBoundedAnchored_sound h

def curve1845 : List VfBin := [(60, 850, 1830), (61, 862, 1860)]

def limits1845 : Limits := ⟨60, 15, 700, 1900⟩

/-- The plan of 1845 MHz at 850 mV, with the step that was computed for it. -/
def planFrom (prevOffsetMhz stepDeltaMhz : Int) : AnchoredPositiveOffsetPlan where
  targetMhz := 1845
  anchor := ⟨60, 850, 1830, 15, prevOffsetMhz, stepDeltaMhz, 1845⟩
  entries := [⟨60, 850, 1830, 15, 1845, .anchor⟩, ⟨61, 862, 1860, -15, 1845, .cappedAbove⟩]
  cappedAboveBins := 1
  aboveAlreadyOkBins := 0
  elasticBelowBins := 0
  maxPositiveOffsetMhz := 15
  maxNegativeFlattenMhz := 15

/-- From stock the step is the offset. -/
theorem anchoredSound_of_stock :
    AnchoredSound curve1845 60 1845 0 limits1845.value (planFrom 0 15) := by
  refine (anchoredSound_iff curve1845 60 1845 0 limits1845 (planFrom 0 15) rfl).mpr ?_
  intro bin hbin
  cases hbin
  decide

/-- From the lowest previous offset the step wraps below its cap, and the plan is accepted. -/
theorem step_wraps :
    planBoundedAnchoredPositiveOffset curve1845 60 1845 (-2147483648) limits1845 =
      .ok (planFrom (-2147483648) (-2147483633)) ∧
    ¬ AnchoredSound curve1845 60 1845 (-2147483648) limits1845.value
      (planFrom (-2147483648) (-2147483633)) := by
  refine ⟨rfl, fun hsound => ?_⟩
  exact absurd hsound.step (by decide)

end Nidavellir.Word

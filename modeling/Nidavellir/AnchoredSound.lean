import Nidavellir.CalibrationPlan

namespace Nidavellir

open Fallible

variable {curve : List VfBin} {anchorBinIndex targetMhz : Nat} {prevOffsetMhz : Int}
  {limits : PositiveOffsetLimits} {anchor : PositiveOffsetPlan}
  {plan : AnchoredPositiveOffsetPlan} {bin : VfBin}

theorem planBoundedPositiveOffset_ok
    (h : planBoundedPositiveOffset curve anchorBinIndex targetMhz prevOffsetMhz limits =
      .ok anchor) :
    isSaneBaseCurve curve = true ∧
      ∃ bin, curve.find? (fun bin => bin.index == anchorBinIndex) = some bin ∧
        Raisable limits prevOffsetMhz targetMhz bin ∧
          anchor = raisePlan prevOffsetMhz targetMhz bin := by
  unfold planBoundedPositiveOffset at h
  split at h
  next => cases h
  next =>
    split at h
    next => cases h
    next hsane =>
      rw [Bool.not_eq_true, Bool.not_eq_false'] at hsane
      refine ⟨hsane, ?_⟩
      split at h
      next => cases h
      next bin hbin =>
        have heffective : (bin.base : Int) + ((targetMhz : Int) - bin.base) = targetMhz := by omega
        simp only [heffective] at h
        repeat' split at h
        all_goals first
          | cases h; done
          | skip
        next hfloor hraised habsolute hstep hceiling =>
          have hclock : targetMhz ≤ limits.clockCeilingMhz := by
            have htoNat : (targetMhz : Int).toNat = targetMhz := Int.toNat_natCast _
            omega
          refine ⟨bin, hbin, ⟨by omega, by omega, by omega, by omega, hclock⟩, ?_⟩
          cases h
          rfl

theorem anchoredEntry_eq_ok_iff {entry : AnchoredBinEntry} :
    anchoredEntry anchor targetMhz bin = .ok entry ↔ entryOf anchor targetMhz bin = entry ∧
      (bin.index ≠ anchor.index → bin.mv ≤ anchor.voltageMv → bin.base ≤ targetMhz) := by
  unfold entryOf
  by_cases hindex : bin.index = anchor.index
  · rw [anchoredEntry_anchor hindex, if_pos hindex, Except.ok.injEq]
    exact ⟨fun h => ⟨h, fun hne => absurd hindex hne⟩, And.left⟩
  · rw [if_neg hindex]
    by_cases habove : anchor.voltageMv < bin.mv
    · rw [anchoredEntry_above hindex habove, if_pos habove, Except.ok.injEq]
      exact ⟨fun h => ⟨h, fun _ hle => absurd habove (not_lt.mpr hle)⟩, And.left⟩
    · rw [if_neg habove]
      have hle : bin.mv ≤ anchor.voltageMv := not_lt.mp habove
      by_cases hbase : bin.base ≤ targetMhz
      · rw [anchoredEntry_below hindex hle hbase, Except.ok.injEq]
        exact ⟨fun h => ⟨h, fun _ _ => hbase⟩, And.left⟩
      · obtain ⟨e, he⟩ := anchoredEntry_refused hindex hle (not_le.mp hbase)
        rw [he]
        constructor
        · intro h
          cases h
        · rintro ⟨-, h⟩
          exact absurd (h hindex hle) hbase

theorem planBoundedAnchored_entries
    (h : planBoundedAnchoredPositiveOffset curve anchorBinIndex targetMhz prevOffsetMhz limits =
      .ok plan) :
    plan.entries = curve.map (entryOf plan.anchor targetMhz) ∧
      ∀ bin ∈ curve, bin.index ≠ plan.anchor.index → bin.mv ≤ plan.anchor.voltageMv →
        bin.base ≤ targetMhz := by
  obtain ⟨-, hentries, -⟩ := planBoundedAnchoredPositiveOffset_ok h
  constructor
  · rw [← List.forall₂_eq_eq_eq, List.forall₂_map_right_iff]
    refine (mapM_eq_ok.mp hentries).flip.imp fun entry bin hmade => ?_
    exact (anchoredEntry_eq_ok_iff.mp hmade).1.symm
  · intro bin hbin
    obtain ⟨entry, hmade⟩ := mapM_isOk_iff.mp ⟨_, hentries⟩ bin hbin
    exact (anchoredEntry_eq_ok_iff.mp hmade).2

/-- What an accepted plan promises of the curve that it was made for. -/
structure AnchoredSound (curve : List VfBin) (anchorBinIndex targetMhz : Nat)
    (prevOffsetMhz : Int) (limits : PositiveOffsetLimits) (plan : AnchoredPositiveOffsetPlan) :
    Prop where
  bins : plan.entries.map (fun e => (e.index, e.voltageMv, e.baseMhz)) = curve
  anchor : ∃ e, plan.entries.filter AnchoredBinEntry.isPositive = [e] ∧
    e.index = anchorBinIndex ∧ e.voltageMv = plan.anchor.voltageMv ∧
      e.offsetMhz = plan.anchor.offsetMhz
  absolute : 1 ≤ plan.anchor.offsetMhz ∧ plan.anchor.offsetMhz ≤ limits.absMaxOffsetMhz
  step : plan.anchor.offsetMhz - prevOffsetMhz ≤ limits.stepMaxOffsetMhz
  effective : ∀ e ∈ plan.entries, (e.baseMhz : Int) + e.offsetMhz = e.effectiveMhz ∧
    e.effectiveMhz ≤ targetMhz
  ceiling : targetMhz ≤ limits.clockCeilingMhz
  elastic : ∀ e ∈ plan.entries, e.index ≠ anchorBinIndex →
    e.voltageMv ≤ plan.anchor.voltageMv → e.offsetMhz = 0
  floor : limits.hwFloorMv ≤ plan.anchor.voltageMv
  counted : plan.cappedAboveBins + plan.aboveAlreadyOkBins + plan.elasticBelowBins + 1 =
    curve.length

theorem entryOf_bin (anchor : PositiveOffsetPlan) (targetMhz : Nat) (bin : VfBin) :
    ((entryOf anchor targetMhz bin).index, (entryOf anchor targetMhz bin).voltageMv,
      (entryOf anchor targetMhz bin).baseMhz) = bin := by
  unfold entryOf
  split
  next => rfl
  next => split <;> rfl

theorem entryOf_elastic (hne : bin.index ≠ anchor.index) (hmv : bin.mv ≤ anchor.voltageMv) :
    entryOf anchor targetMhz bin = ⟨bin.index, bin.mv, bin.base, 0, bin.base, .elasticBelow⟩ := by
  rw [entryOf, if_neg hne, if_neg (not_lt.mpr hmv)]

theorem entryOf_effective (hne : bin.index ≠ anchor.index)
    (hbase : bin.mv ≤ anchor.voltageMv → bin.base ≤ targetMhz) :
    ((entryOf anchor targetMhz bin).baseMhz : Int) + (entryOf anchor targetMhz bin).offsetMhz =
      (entryOf anchor targetMhz bin).effectiveMhz ∧
        (entryOf anchor targetMhz bin).effectiveMhz ≤ targetMhz := by
  by_cases habove : anchor.voltageMv < bin.mv
  · rw [entryOf, if_neg hne, if_pos habove]
    dsimp only
    omega
  · rw [entryOf_elastic hne (not_lt.mp habove)]
    exact ⟨add_zero _, hbase (not_lt.mp habove)⟩

theorem length_by_role (entries : List AnchoredBinEntry) :
    (entries.filter AnchoredBinEntry.isCapped).length +
      ((entries.filter fun entry => entry.role == .cappedAbove).filter
        fun entry => !entry.isCapped).length +
      (entries.filter fun entry => entry.role == .elasticBelow).length +
      (entries.filter fun entry => entry.role == .anchor).length = entries.length := by
  rw [List.filter_filter]
  induction entries with
  | nil => rfl
  | cons entry entries ih =>
    by_cases hcapped : entry.isCapped = true
    · have hrole : entry.role = .cappedAbove := by
        rw [AnchoredBinEntry.isCapped, Bool.and_eq_true, beq_iff_eq] at hcapped
        exact hcapped.1
      simp [hcapped, hrole]
      omega
    · cases hrole : entry.role <;> simp [hcapped, hrole] <;> omega

/-- The anchor is the one raised bin of the plan, and the one of its role. -/
theorem filter_role_anchor (hpos : 0 < anchor.offsetMhz) (curve : List VfBin) :
    (curve.map (entryOf anchor targetMhz)).filter (fun entry => entry.role == .anchor) =
      (curve.map (entryOf anchor targetMhz)).filter AnchoredBinEntry.isPositive := by
  refine List.filter_congr fun entry hentry => ?_
  obtain ⟨bin, -, rfl⟩ := List.mem_map.mp hentry
  rw [entryOf_isPositive hpos]
  unfold entryOf
  by_cases hindex : bin.index = anchor.index
  · simp [hindex]
  · rw [if_neg hindex, beq_eq_false_iff_ne.mpr hindex]
    split <;> rfl

theorem planBoundedAnchored_counts
    (h : planBoundedAnchoredPositiveOffset curve anchorBinIndex targetMhz prevOffsetMhz limits =
      .ok plan) :
    plan.cappedAboveBins = (plan.entries.filter AnchoredBinEntry.isCapped).length ∧
      plan.aboveAlreadyOkBins =
        ((plan.entries.filter fun entry => entry.role == .cappedAbove).filter
          fun entry => !entry.isCapped).length ∧
      plan.elasticBelowBins =
        (plan.entries.filter fun entry => entry.role == .elasticBelow).length := by
  unfold planBoundedAnchoredPositiveOffset at h
  obtain ⟨anchor, -, h⟩ := bind_eq_ok.mp h
  obtain ⟨entries, -, h⟩ := bind_eq_ok.mp h
  simp only at h
  split at h
  next => cases h
  next =>
    cases h
    exact ⟨rfl, rfl, rfl⟩

/-- A plan that is accepted keeps all its promises. -/
theorem planBoundedAnchored_sound
    (h : planBoundedAnchoredPositiveOffset curve anchorBinIndex targetMhz prevOffsetMhz limits =
      .ok plan) :
    AnchoredSound curve anchorBinIndex targetMhz prevOffsetMhz limits plan := by
  obtain ⟨hanchor, -, -, hlength, hhead⟩ := planBoundedAnchoredPositiveOffset_ok h
  obtain ⟨-, bin, hbin, hraisable, hraise⟩ := planBoundedPositiveOffset_ok hanchor
  obtain ⟨hentries, hbelow⟩ := planBoundedAnchored_entries h
  have hindex : bin.index = anchorBinIndex := by
    have hkey := List.find?_some hbin
    rwa [beq_iff_eq] at hkey
  have hanchorIndex : plan.anchor.index = anchorBinIndex := by
    rw [hraise]
    exact hindex
  have hraised := hraisable.raised
  have hoffset : plan.anchor.offsetMhz = (targetMhz : Int) - bin.base := by
    rw [hraise]
    rfl
  have hself : entryOf plan.anchor targetMhz bin =
      ⟨bin.index, bin.mv, bin.base, plan.anchor.offsetMhz, targetMhz, .anchor⟩ := by
    rw [entryOf, if_pos (hindex.trans hanchorIndex.symm)]
  -- the anchor is the raised bin, and no bin besides it has its index
  obtain ⟨e, he⟩ := List.length_eq_one_iff.mp hlength
  have halone : ∀ other ∈ curve, other.index = anchorBinIndex →
      entryOf plan.anchor targetMhz other = e := by
    intro other hother hsame
    have hpositive : (entryOf plan.anchor targetMhz other).isPositive := by
      rw [entryOf_isPositive (by omega), hsame, hanchorIndex, beq_self_eq_true]
    have hin : entryOf plan.anchor targetMhz other ∈ plan.entries :=
      hentries ▸ List.mem_map_of_mem hother
    have hfiltered := List.mem_filter.mpr ⟨hin, hpositive⟩
    rwa [he, List.mem_singleton] at hfiltered
  have hthis := halone bin (List.mem_of_find?_eq_some hbin) hindex
  rw [hself] at hthis
  have hothers : ∀ entry ∈ plan.entries, entry.index ≠ anchorBinIndex →
      ∃ other ∈ curve, other.index ≠ plan.anchor.index ∧
        entryOf plan.anchor targetMhz other = entry := by
    intro entry hentry hne
    rw [hentries] at hentry
    obtain ⟨other, hother, rfl⟩ := List.mem_map.mp hentry
    rw [entryOf_index] at hne
    exact ⟨other, hother, hanchorIndex ▸ hne, rfl⟩
  constructor
  case bins =>
    rw [hentries, List.map_map]
    exact List.map_id'' (entryOf_bin plan.anchor targetMhz) curve
  case anchor =>
    refine ⟨e, he, ?_⟩
    rw [← hthis, hraise]
    exact ⟨hindex, rfl, rfl⟩
  case absolute =>
    rw [hoffset]
    exact ⟨by omega, hraisable.absolute⟩
  case step =>
    rw [hoffset]
    exact hraisable.step
  case effective =>
    intro entry hentry
    by_cases hself' : entry.index = anchorBinIndex
    · rw [hentries] at hentry
      obtain ⟨other, hother, rfl⟩ := List.mem_map.mp hentry
      rw [entryOf_index] at hself'
      rw [halone other hother hself', ← hthis]
      dsimp only
      omega
    · obtain ⟨other, hother, hne, rfl⟩ := hothers entry hentry hself'
      exact entryOf_effective hne (hbelow other hother hne)
  case ceiling => exact hraisable.ceiling
  case elastic =>
    intro entry hentry helse hmv
    obtain ⟨other, -, hne, rfl⟩ := hothers entry hentry helse
    have hvoltage : (entryOf plan.anchor targetMhz other).voltageMv = other.mv :=
      congrArg (·.2.1) (entryOf_bin plan.anchor targetMhz other)
    rw [hvoltage] at hmv
    rw [entryOf_elastic hne hmv]
  case floor =>
    rw [hraise]
    exact hraisable.floor
  case counted =>
    obtain ⟨hcapped, halready, helastic⟩ := planBoundedAnchored_counts h
    have hroles := length_by_role plan.entries
    rw [hentries, filter_role_anchor (by omega), ← hentries, hlength] at hroles
    rw [hcapped, halready, helastic, hroles, hentries, List.length_map]

/-- From a higher previous offset the same plan is made, but for the step that it records. -/
theorem planBoundedAnchored_replan {prevOffsetMhz' : Int} (hle : prevOffsetMhz ≤ prevOffsetMhz')
    (h : planBoundedAnchoredPositiveOffset curve anchorBinIndex targetMhz prevOffsetMhz limits =
      .ok plan) :
    ∃ anchor, planBoundedAnchoredPositiveOffset curve anchorBinIndex targetMhz prevOffsetMhz'
      limits = .ok { plan with anchor } := by
  obtain ⟨hanchor, -⟩ := planBoundedAnchoredPositiveOffset_ok h
  obtain ⟨hsane, bin, hbin, hraisable, hraise⟩ := planBoundedPositiveOffset_ok hanchor
  have hstep := hraisable.step
  have hraisable' : Raisable limits prevOffsetMhz' targetMhz bin :=
    { hraisable with step := by omega }
  refine ⟨raisePlan prevOffsetMhz' targetMhz bin, ?_⟩
  unfold planBoundedAnchoredPositiveOffset at h ⊢
  rw [planBoundedPositiveOffset_eq_ok hsane hbin hraisable] at h
  rw [planBoundedPositiveOffset_eq_ok hsane hbin hraisable']
  obtain ⟨anchor, hmade, h⟩ := bind_eq_ok.mp h
  cases hmade
  obtain ⟨entries, hentries, h⟩ := bind_eq_ok.mp h
  -- the entries look at no previous offset
  have hentries' : curve.mapM (anchoredEntry (raisePlan prevOffsetMhz' targetMhz bin) targetMhz) =
      .ok entries := hentries
  simp only at h
  split at h
  next => cases h
  next hone =>
    cases h
    simp only [bind, Except.bind, hentries']
    exact if_neg hone

end Nidavellir

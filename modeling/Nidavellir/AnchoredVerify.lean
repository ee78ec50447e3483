import Nidavellir.AnchoredWord
import Nidavellir.VfHardware

namespace Nidavellir.Word

open Fallible

inductive PositiveOffsetVerification
  | raiseVerified
  | raiseIncomplete
  | overRaise
  | unverifiable
deriving DecidableEq, Repr

/-- One intended raise: the readback of the offset decides, a clock that is supplied may refuse. -/
def verifyPositiveOffset (intendedOffsetMhz : Int32) (targetMhz : UInt32)
    (observedOffsetMhz : Option Int32) (observedFreqMhz : Option UInt32) (tolMhz : UInt32) :
    PositiveOffsetVerification :=
  match observedOffsetMhz with
  | none => .unverifiable
  | some observedOffset =>
    let tol := tolMhz.toInt32
    if observedOffset - intendedOffsetMhz > tol then .overRaise
    else if intendedOffsetMhz - observedOffset > tol then .raiseIncomplete
    else
      match observedFreqMhz with
      | none => .raiseVerified
      | some freq =>
        if freq.toInt32 - targetMhz.toInt32 > tol then .overRaise
        else if targetMhz.toInt32 - freq.toInt32 > tol then .raiseIncomplete
        else .raiseVerified

/-- The offsets that were read back, by the index of their bin. -/
abbrev Readback := List (Nat × Option Int32)

/-- The first entry of an index wins, whether it was read or not. -/
def Readback.observed (self : Readback) (idx : Nat) : Option Int32 :=
  (List.find? (fun entry => entry.1 == idx) self).bind Prod.snd

def verifyOthers (anchorIndex : Nat) (targetMhz : UInt32) (tol : Int32) (readback : Readback) :
    List AnchoredBinEntry → AnchoredOffsetVerification
  | [] => .anchoredRaiseVerified
  | e :: rest =>
    if e.index = anchorIndex then verifyOthers anchorIndex targetMhz tol readback rest
    else
      match readback.observed e.index with
      | none => .unverifiable
      | some obs =>
        if obs > tol then .unexpectedPositiveOffset
        else if Int32.ofNat e.baseMhz + obs - targetMhz.toInt32 > tol then .higherBinAboveTarget
        else verifyOthers anchorIndex targetMhz tol readback rest

def verifyAnchoredPositiveOffset (plan : AnchoredPositiveOffsetPlan) (readback : Readback)
    (tolMhz : UInt32) : AnchoredOffsetVerification :=
  let targetMhz := UInt32.ofNat plan.targetMhz
  match verifyPositiveOffset (Int32.ofInt plan.anchor.offsetMhz) targetMhz
      (readback.observed plan.anchor.index) none tolMhz with
  | .unverifiable => .unverifiable
  | .raiseIncomplete => .anchorRaiseIncomplete
  | .overRaise => .anchorOverRaise
  | .raiseVerified =>
    verifyOthers plan.anchor.index targetMhz tolMhz.toInt32 readback plan.entries

variable {curve : List VfBin} {anchorBinIndex : Nat} {targetMhz : UInt32}
  {prevOffsetMhz : Int32} {limits : Limits} {plan : AnchoredPositiveOffsetPlan}

theorem planBoundedPositiveOffset_sane {anchor : PositiveOffsetPlan}
    (h : planBoundedPositiveOffset curve anchorBinIndex targetMhz prevOffsetMhz limits =
      .ok anchor) : isSaneBaseCurve curve = true := by
  unfold planBoundedPositiveOffset at h
  split at h
  next => cases h
  next =>
    split at h
    next => cases h
    next hsane => simpa using hsane

theorem anchoredEntry_congr {anchor anchor' : PositiveOffsetPlan} {target : Nat}
    (hindex : anchor'.index = anchor.index) (hmv : anchor'.voltageMv = anchor.voltageMv)
    (hoffset : anchor'.offsetMhz = anchor.offsetMhz) (bin : VfBin) :
    Nidavellir.anchoredEntry anchor' target bin = Nidavellir.anchoredEntry anchor target bin := by
  unfold Nidavellir.anchoredEntry
  rw [hindex, hmv, hoffset]

/-- Whatever its step was, an accepted plan is one of the integer planner, from stock and within
limits of its own. -/
theorem exists_integer_plan
    (h : planBoundedAnchoredPositiveOffset curve anchorBinIndex targetMhz prevOffsetMhz limits =
      .ok plan) :
    plan.targetMhz = targetMhz.toNat ∧ targetMhz.toNat < 2 ^ 31 ∧ isSaneBaseCurve curve = true ∧
      ∃ limits' anchor', anchor'.offsetMhz = plan.anchor.offsetMhz ∧
        anchor'.index = plan.anchor.index ∧ plan.anchor.index = anchorBinIndex ∧
        Nidavellir.planBoundedAnchoredPositiveOffset curve anchorBinIndex targetMhz.toNat 0
          limits' = .ok { plan with anchor := anchor' } := by
  unfold planBoundedAnchoredPositiveOffset at h
  obtain ⟨anchor, hanchor, h⟩ := bind_eq_ok.mp h
  have hsane := planBoundedPositiveOffset_sane hanchor
  obtain ⟨htarget, bin, hbin, hoffset, hraised, hindex, hmv, -⟩ :=
    planBoundedPositiveOffset_ok hanchor
  have hbinIndex : bin.index = anchorBinIndex := by
    have hkey := List.find?_some hbin
    rwa [beq_iff_eq] at hkey
  let limits' : PositiveOffsetLimits :=
    ⟨(targetMhz.toNat : Int) - bin.base, (targetMhz.toNat : Int) - bin.base, 0, targetMhz.toNat⟩
  have hraisable : Raisable limits' 0 targetMhz.toNat bin :=
    ⟨Nat.zero_le _, hraised, le_rfl, by simp [limits'], le_rfl⟩
  obtain ⟨entries, hentries, h⟩ := bind_eq_ok.mp h
  have hsame : curve.mapM (Nidavellir.anchoredEntry (raisePlan 0 targetMhz.toNat bin)
      targetMhz.toNat) = .ok entries := by
    rw [← hentries]
    refine mapM_congr fun other hother => ?_
    rw [anchoredEntry_eq htarget (base_le hsane hother)]
    exact anchoredEntry_congr hindex.symm hmv.symm hoffset.symm other
  simp only at h
  split at h
  next => cases h
  next hone =>
    cases h
    refine ⟨rfl, htarget, hsane, limits', raisePlan 0 targetMhz.toNat bin, hoffset.symm,
      hindex.symm, hindex.trans hbinIndex, ?_⟩
    unfold Nidavellir.planBoundedAnchoredPositiveOffset
    rw [planBoundedPositiveOffset_eq_ok hsane hbin hraisable]
    simp only [bind, Except.bind, hsame]
    rw [hindex] at hone
    rw [hoffset]
    exact if_neg hone

/-- What the verifier can rely on in a plan. -/
structure Planned (plan : AnchoredPositiveOffsetPlan) : Prop where
  target : plan.targetMhz < 2 ^ 31
  raised : 1 ≤ plan.anchor.offsetMhz ∧ plan.anchor.offsetMhz < 2 ^ 31
  base : ∀ e ∈ plan.entries, e.baseMhz ≤ 3500
  some_anchor : ∃ e ∈ plan.entries, e.index = plan.anchor.index
  anchor : ∀ e ∈ plan.entries, e.index = plan.anchor.index →
    e.offsetMhz = plan.anchor.offsetMhz ∧ (e.baseMhz : Int) + e.offsetMhz = plan.targetMhz
  others : ∀ e ∈ plan.entries, e.index ≠ plan.anchor.index →
    e.offsetMhz ≤ 0 ∧ 0 ≤ (e.baseMhz : Int) + e.offsetMhz ∧
      (e.baseMhz : Int) + e.offsetMhz ≤ plan.targetMhz

theorem planned_of_ok
    (h : planBoundedAnchoredPositiveOffset curve anchorBinIndex targetMhz prevOffsetMhz limits =
      .ok plan) : Planned plan := by
  obtain ⟨htarget, hword, hsane, limits', anchor', hoffset, hindex, hbinIndex, hplan⟩ :=
    exists_integer_plan h
  have hsound := planBoundedAnchored_sound hplan
  obtain ⟨hentries, -⟩ := planBoundedAnchored_entries hplan
  obtain ⟨raised, hraised, hself, -, -⟩ := hsound.anchor
  have hmem : raised ∈ plan.entries := by
    have hfiltered : raised ∈ plan.entries.filter AnchoredBinEntry.isPositive := by simp [hraised]
    exact List.mem_of_mem_filter hfiltered
  have heffective := hsound.effective
  have htargetEffective : ∀ e ∈ plan.entries, e.index = plan.anchor.index →
      e.offsetMhz = plan.anchor.offsetMhz ∧ e.effectiveMhz = plan.targetMhz := by
    intro e he hsame
    rw [hentries] at he
    obtain ⟨bin, -, rfl⟩ := List.mem_map.mp he
    rw [entryOf_index, ← hindex] at hsame
    rw [entryOf, if_pos hsame]
    exact ⟨hoffset, htarget.symm⟩
  constructor
  case target => rw [htarget]; exact hword
  case raised =>
    have habsolute := hsound.absolute
    rw [hoffset] at habsolute
    have hsum := heffective raised hmem
    have hfacts := htargetEffective raised hmem (hself.trans hbinIndex.symm)
    omega
  case base =>
    intro e he
    have hbin : (e.index, e.voltageMv, e.baseMhz) ∈ curve := by
      rw [← hsound.bins]
      exact List.mem_map_of_mem he
    exact base_le hsane hbin
  case some_anchor => exact ⟨raised, hmem, hself.trans hbinIndex.symm⟩
  case anchor =>
    intro e he hsame
    obtain ⟨hfirst, hsecond⟩ := htargetEffective e he hsame
    exact ⟨hfirst, by rw [(heffective e he).1, hsecond]⟩
  case others =>
    intro e he hother
    obtain ⟨hsum, hle⟩ := heffective e he
    refine ⟨?_, by omega, by omega⟩
    by_contra hpositive
    have hfiltered : e ∈ plan.entries.filter AnchoredBinEntry.isPositive :=
      List.mem_filter.mpr ⟨he, decide_eq_true (not_le.mp hpositive)⟩
    rw [hraised, List.mem_singleton] at hfiltered
    exact hother (hfiltered ▸ hself.trans hbinIndex.symm)

/-- The check of a bin, in the arithmetic of a release build. -/
def Accepts (plan : AnchoredPositiveOffsetPlan) (tolMhz : UInt32) (e : AnchoredBinEntry)
    (obs : Int32) : Prop :=
  if e.index = plan.anchor.index then
    verifyPositiveOffset (Int32.ofInt plan.anchor.offsetMhz) (UInt32.ofNat plan.targetMhz)
      (some obs) none tolMhz = .raiseVerified
  else ¬ obs > tolMhz.toInt32 ∧
    ¬ Int32.ofNat e.baseMhz + obs - (UInt32.ofNat plan.targetMhz).toInt32 > tolMhz.toInt32

structure BinHolds (plan : AnchoredPositiveOffsetPlan) (tolMhz : UInt32) (e : AnchoredBinEntry)
    (obs : Int32) : Prop where
  effective : (e.baseMhz : Int) + obs.toInt ≤ plan.targetMhz + tolMhz.toNat
  unraised : e.index ≠ plan.anchor.index → obs.toInt ≤ tolMhz.toNat
  raised : e.index = plan.anchor.index →
    obs.toInt - plan.anchor.offsetMhz ≤ tolMhz.toNat ∧
      plan.anchor.offsetMhz - obs.toInt ≤ tolMhz.toNat

/-- A readback whose difference leaves the range of an `i32` and comes back within tolerance. -/
def Wraps (plan : AnchoredPositiveOffsetPlan) (tolMhz : UInt32) (e : AnchoredBinEntry)
    (obs : Int32) : Prop :=
  if e.index = plan.anchor.index then
    obs.toInt - plan.anchor.offsetMhz = -2 ^ 31 ∨
      obs.toInt - plan.anchor.offsetMhz < -2 ^ 31 ∧
        obs.toInt - plan.anchor.offsetMhz + 2 ^ 32 ≤ tolMhz.toNat
  else obs.toInt ≤ tolMhz.toNat ∧ 2 ^ 31 ≤ (e.baseMhz : Int) + obs.toInt - plan.targetMhz

section Verifier

variable {plan : AnchoredPositiveOffsetPlan} {readback : Readback} {tolMhz : UInt32}
  {e : AnchoredBinEntry} {obs : Int32}

theorem verifyPositiveOffset_some_iff {intended : Int32} {target : UInt32} :
    verifyPositiveOffset intended target (some obs) none tolMhz = .raiseVerified ↔
      (obs - intended).toInt ≤ tolMhz.toInt32.toInt ∧
        (intended - obs).toInt ≤ tolMhz.toInt32.toInt := by
  rw [← not_lt, ← not_lt, ← Int32.lt_iff_toInt_lt, ← Int32.lt_iff_toInt_lt]
  unfold verifyPositiveOffset
  dsimp only
  split
  next h => exact iff_of_false (by decide) fun hok => hok.1 h
  next h =>
    split
    next h' => exact iff_of_false (by decide) fun hok => hok.2 h'
    next h' => exact iff_of_true rfl ⟨h, h'⟩

theorem verifyOthers_iff {anchorIndex : Nat} {target : UInt32} {tol : Int32}
    {entries : List AnchoredBinEntry} :
    verifyOthers anchorIndex target tol readback entries = .anchoredRaiseVerified ↔
      ∀ e ∈ entries, e.index ≠ anchorIndex → ∃ obs, readback.observed e.index = some obs ∧
        ¬ obs > tol ∧ ¬ Int32.ofNat e.baseMhz + obs - target.toInt32 > tol := by
  induction entries with
  | nil => simp [verifyOthers]
  | cons e rest ih =>
    rw [List.forall_mem_cons, ← ih, verifyOthers]
    by_cases hindex : e.index = anchorIndex
    · rw [if_pos hindex]
      exact ⟨fun h => ⟨fun hne => absurd hindex hne, h⟩, And.right⟩
    · rw [if_neg hindex]
      cases hobs : readback.observed e.index with
      | none =>
        refine iff_of_false (by simp) fun h => ?_
        obtain ⟨obs, hsome, -⟩ := h.1 hindex
        cases hsome
      | some obs =>
        dsimp only
        split
        next hraised =>
          refine iff_of_false (by decide) fun h => ?_
          obtain ⟨obs', hsome, hok, -⟩ := h.1 hindex
          cases hsome
          exact hok hraised
        next hraised =>
          split
          next habove =>
            refine iff_of_false (by decide) fun h => ?_
            obtain ⟨obs', hsome, -, hok⟩ := h.1 hindex
            cases hsome
            exact hok habove
          next habove => exact ⟨fun h => ⟨fun _ => ⟨obs, rfl, hraised, habove⟩, h⟩, And.right⟩

/-- A plan is verified exactly where every bin has a readback that its check accepts. -/
theorem verifyAnchoredPositiveOffset_iff
    (hanchor : ∃ e ∈ plan.entries, e.index = plan.anchor.index) :
    verifyAnchoredPositiveOffset plan readback tolMhz = .anchoredRaiseVerified ↔
      ∀ e ∈ plan.entries, ∃ obs, readback.observed e.index = some obs ∧
        Accepts plan tolMhz e obs := by
  have hsplit : verifyAnchoredPositiveOffset plan readback tolMhz = .anchoredRaiseVerified ↔
      verifyPositiveOffset (Int32.ofInt plan.anchor.offsetMhz) (UInt32.ofNat plan.targetMhz)
          (readback.observed plan.anchor.index) none tolMhz = .raiseVerified ∧
        verifyOthers plan.anchor.index (UInt32.ofNat plan.targetMhz) tolMhz.toInt32 readback
          plan.entries = .anchoredRaiseVerified := by
    unfold verifyAnchoredPositiveOffset
    dsimp only
    cases verifyPositiveOffset (Int32.ofInt plan.anchor.offsetMhz) (UInt32.ofNat plan.targetMhz)
        (readback.observed plan.anchor.index) none tolMhz with
    | raiseVerified => simp
    | raiseIncomplete => simp
    | overRaise => simp
    | unverifiable => simp
  rw [hsplit, verifyOthers_iff]
  constructor
  · rintro ⟨hraise, hothers⟩ e he
    by_cases hindex : e.index = plan.anchor.index
    · cases hobs : readback.observed plan.anchor.index with
      | none =>
        rw [hobs] at hraise
        cases hraise
      | some obs =>
        rw [hobs] at hraise
        exact ⟨obs, hindex ▸ hobs, by rwa [Accepts, if_pos hindex]⟩
    · obtain ⟨obs, hobs, hok⟩ := hothers e he hindex
      exact ⟨obs, hobs, by rwa [Accepts, if_neg hindex]⟩
  · intro h
    refine ⟨?_, fun e he hindex => ?_⟩
    · obtain ⟨e, he, hindex⟩ := hanchor
      obtain ⟨obs, hobs, hok⟩ := h e he
      rw [Accepts, if_pos hindex] at hok
      rw [← hindex, hobs]
      exact hok
    · obtain ⟨obs, hobs, hok⟩ := h e he
      rw [Accepts, if_neg hindex] at hok
      exact ⟨obs, hobs, hok⟩

theorem bmod_word {x : Int} (hlow : -2 ^ 32 ≤ x) (hhigh : x < 2 ^ 32) :
    x.bmod (2 ^ 32) =
      if x < -2 ^ 31 then x + 2 ^ 32 else if x < 2 ^ 31 then x else x - 2 ^ 32 := by
  rw [Int.bmod_def]
  split <;> split_ifs <;> omega

theorem toInt_tol (tolMhz : UInt32) :
    tolMhz.toInt32.toInt =
      if tolMhz.toNat < 2 ^ 31 then (tolMhz.toNat : Int) else tolMhz.toNat - 2 ^ 32 := by
  have hword := tolMhz.toNat_lt
  have hnat : tolMhz.toInt32 = Int32.ofNat tolMhz.toNat := by
    rw [← UInt32.toInt32_ofNat', UInt32.ofNat_toNat]
  have hwraps : (tolMhz.toNat : Int).bmod Int32.size = _ := bmod_word (by omega) (by omega)
  rw [hnat, Int32.toInt_ofNat', hwraps]
  split_ifs <;> omega

namespace Planned

theorem toInt_anchor (hplan : Planned plan) :
    (Int32.ofInt plan.anchor.offsetMhz).toInt = plan.anchor.offsetMhz := by
  obtain ⟨hpos, hfits⟩ := hplan.raised
  exact Int32.toInt_ofInt_of_le (by omega) hfits

theorem toInt_target (hplan : Planned plan) :
    (UInt32.ofNat plan.targetMhz).toInt32.toInt = plan.targetMhz := by
  have hnat : (UInt32.ofNat plan.targetMhz).toNat = plan.targetMhz :=
    UInt32.toNat_ofNat_of_lt' (hplan.target.trans (by decide))
  rw [toInt_toInt32 (by rw [hnat]; exact hplan.target), hnat]

theorem toInt_entryBase (hplan : Planned plan) (he : e ∈ plan.entries) :
    (Int32.ofNat e.baseMhz).toInt = e.baseMhz :=
  Int32.toInt_ofNat_of_lt ((hplan.base e he).trans_lt (by decide))

end Planned

theorem accepts_anchor_iff (hplan : Planned plan) (hindex : e.index = plan.anchor.index) :
    Accepts plan tolMhz e obs ↔
      (obs.toInt - plan.anchor.offsetMhz).bmod (2 ^ 32) ≤ tolMhz.toInt32.toInt ∧
        (plan.anchor.offsetMhz - obs.toInt).bmod (2 ^ 32) ≤ tolMhz.toInt32.toInt := by
  rw [Accepts, if_pos hindex, verifyPositiveOffset_some_iff, Int32.toInt_sub, Int32.toInt_sub,
    hplan.toInt_anchor]

theorem accepts_other_iff (hplan : Planned plan) (he : e ∈ plan.entries)
    (hindex : e.index ≠ plan.anchor.index) :
    Accepts plan tolMhz e obs ↔ obs.toInt ≤ tolMhz.toInt32.toInt ∧
      ((e.baseMhz : Int) + obs.toInt - plan.targetMhz).bmod (2 ^ 32) ≤ tolMhz.toInt32.toInt := by
  rw [Accepts, if_neg hindex, gt_iff_lt, gt_iff_lt, Int32.lt_iff_toInt_lt, Int32.lt_iff_toInt_lt,
    not_lt, not_lt, Int32.toInt_sub, Int32.toInt_add, hplan.toInt_entryBase he,
    hplan.toInt_target, Int.bmod_sub_bmod]

/-- Below 2^31 a check goes wrong exactly where its difference wraps. -/
theorem accepts_and_not_holds_iff (hplan : Planned plan) (he : e ∈ plan.entries)
    (htol : tolMhz.toNat < 2 ^ 31) :
    Accepts plan tolMhz e obs ∧ ¬ BinHolds plan tolMhz e obs ↔ Wraps plan tolMhz e obs := by
  have hlow := obs.le_toInt
  have hhigh := obs.toInt_lt
  have htarget := hplan.target
  have hbase := hplan.base e he
  have htolInt := toInt_tol tolMhz
  rw [if_pos htol] at htolInt
  by_cases hindex : e.index = plan.anchor.index
  · obtain ⟨hpos, hfits⟩ := hplan.raised
    obtain ⟨hoffset, hsum⟩ := hplan.anchor e he hindex
    have hup := bmod_word (x := obs.toInt - plan.anchor.offsetMhz) (by omega) (by omega)
    have hdown := bmod_word (x := plan.anchor.offsetMhz - obs.toInt) (by omega) (by omega)
    rw [accepts_anchor_iff hplan hindex, hup, hdown, htolInt, Wraps, if_pos hindex]
    have hholds : BinHolds plan tolMhz e obs ↔ obs.toInt - plan.anchor.offsetMhz ≤ tolMhz.toNat ∧
        plan.anchor.offsetMhz - obs.toInt ≤ tolMhz.toNat :=
      ⟨fun h => h.raised hindex, fun h => ⟨by omega, fun hne => absurd hindex hne, fun _ => h⟩⟩
    rw [hholds]
    split_ifs <;> omega
  · have hwrap := bmod_word (x := (e.baseMhz : Int) + obs.toInt - plan.targetMhz) (by omega)
      (by omega)
    rw [accepts_other_iff hplan he hindex, hwrap, htolInt, Wraps, if_neg hindex]
    have hholds : BinHolds plan tolMhz e obs ↔
        (e.baseMhz : Int) + obs.toInt ≤ plan.targetMhz + tolMhz.toNat ∧
          obs.toInt ≤ tolMhz.toNat :=
      ⟨fun h => ⟨h.effective, h.unraised hindex⟩,
        fun h => ⟨h.1, fun _ => h.2, fun heq => absurd heq hindex⟩⟩
    rw [hholds]
    split_ifs <;> omega

/-- From 2^31 on the tolerance is read as negative, and the checks accept too little. -/
theorem holds_of_accepts (hplan : Planned plan) (he : e ∈ plan.entries)
    (htol : 2 ^ 31 ≤ tolMhz.toNat) (h : Accepts plan tolMhz e obs) :
    BinHolds plan tolMhz e obs := by
  have hlow := obs.le_toInt
  have hhigh := obs.toInt_lt
  have htarget := hplan.target
  have hbase := hplan.base e he
  have hword := tolMhz.toNat_lt
  have htolInt := toInt_tol tolMhz
  rw [if_neg (not_lt.mpr htol)] at htolInt
  by_cases hindex : e.index = plan.anchor.index
  · obtain ⟨hpos, hfits⟩ := hplan.raised
    obtain ⟨hoffset, hsum⟩ := hplan.anchor e he hindex
    have hup := bmod_word (x := obs.toInt - plan.anchor.offsetMhz) (by omega) (by omega)
    have hdown := bmod_word (x := plan.anchor.offsetMhz - obs.toInt) (by omega) (by omega)
    rw [accepts_anchor_iff hplan hindex, hup, hdown, htolInt] at h
    split_ifs at h <;> exact ⟨by omega, fun hne => absurd hindex hne, fun _ => by omega⟩
  · rw [accepts_other_iff hplan he hindex, htolInt] at h
    exact ⟨by omega, fun _ => by omega, fun heq => absurd heq hindex⟩

/-- The planned offset of a bin passes its check, unless the tolerance is read as negative. -/
theorem accepts_planned (hplan : Planned plan) (he : e ∈ plan.entries)
    (htol : tolMhz.toNat < 2 ^ 31) : Accepts plan tolMhz e (Int32.ofInt e.offsetMhz) := by
  have htarget := hplan.target
  have hbase := hplan.base e he
  have htolInt := toInt_tol tolMhz
  rw [if_pos htol] at htolInt
  by_cases hindex : e.index = plan.anchor.index
  · obtain ⟨hoffset, -⟩ := hplan.anchor e he hindex
    have hobs : (Int32.ofInt e.offsetMhz).toInt = plan.anchor.offsetMhz := by
      rw [hoffset, hplan.toInt_anchor]
    rw [accepts_anchor_iff hplan hindex, hobs, htolInt, sub_self, Int.zero_bmod]
    omega
  · obtain ⟨hlow, hsum, hhigh⟩ := hplan.others e he hindex
    have hobs : (Int32.ofInt e.offsetMhz).toInt = e.offsetMhz :=
      Int32.toInt_ofInt_of_le (by omega) (by omega)
    have hwrap := bmod_word (x := (e.baseMhz : Int) + e.offsetMhz - plan.targetMhz) (by omega)
      (by omega)
    rw [accepts_other_iff hplan he hindex, hobs, hwrap, htolInt]
    split_ifs <;> omega

theorem not_accepts_planned (hplan : Planned plan) (he : e ∈ plan.entries)
    (hindex : e.index = plan.anchor.index) (htol : 2 ^ 31 ≤ tolMhz.toNat) :
    ¬ Accepts plan tolMhz e (Int32.ofInt e.offsetMhz) := by
  obtain ⟨hoffset, -⟩ := hplan.anchor e he hindex
  have hword := tolMhz.toNat_lt
  have htolInt := toInt_tol tolMhz
  rw [if_neg (not_lt.mpr htol)] at htolInt
  have hobs : (Int32.ofInt e.offsetMhz).toInt = plan.anchor.offsetMhz := by
    rw [hoffset, hplan.toInt_anchor]
  rw [accepts_anchor_iff hplan hindex, hobs, htolInt, sub_self, Int.zero_bmod]
  omega

end Verifier

/-- Clocks and offsets that no sum of two brings out of an `i32`. -/
structure Small (plan : AnchoredPositiveOffsetPlan) (readback : Readback) (tolMhz : UInt32) :
    Prop where
  target : plan.targetMhz < 2 ^ 30
  tol : tolMhz.toNat < 2 ^ 31
  observed : ∀ idx obs, readback.observed idx = some obs →
    -2 ^ 30 ≤ obs.toInt ∧ obs.toInt < 2 ^ 30

theorem verifyAnchoredPositiveOffset_eq {plan : AnchoredPositiveOffsetPlan} {readback : Readback}
    {tolMhz : UInt32} (hplan : Planned plan) (hsmall : Small plan readback tolMhz) :
    verifyAnchoredPositiveOffset plan readback tolMhz =
      Nidavellir.verifyAnchoredPositiveOffset plan
        (fun idx => (readback.observed idx).map Int32.toInt) tolMhz.toNat := by
  obtain ⟨hpos, hfits⟩ := hplan.raised
  obtain ⟨e, he, hindex⟩ := hplan.some_anchor
  obtain ⟨hoffset, hsum⟩ := hplan.anchor e he hindex
  have hsmallTarget := hsmall.target
  have htolInt := toInt_tol tolMhz
  rw [if_pos hsmall.tol] at htolInt
  have hintended := hplan.toInt_anchor
  have htarget := hplan.toInt_target
  have hothers : ∀ entries, (∀ e ∈ entries, e ∈ plan.entries) →
      verifyOthers plan.anchor.index (UInt32.ofNat plan.targetMhz) tolMhz.toInt32 readback
          entries =
        Nidavellir.verifyOthers plan.anchor.index plan.targetMhz tolMhz.toNat
          (fun idx => (readback.observed idx).map Int32.toInt) entries := by
    intro entries hentries
    induction entries with
    | nil => rfl
    | cons e rest ih =>
      have hrest := ih fun other hother => hentries other (List.mem_cons_of_mem _ hother)
      have hbase := hplan.base e (hentries e List.mem_cons_self)
      have hbaseInt := hplan.toInt_entryBase (hentries e List.mem_cons_self)
      rw [verifyOthers, Nidavellir.verifyOthers, hrest]
      cases hobs : readback.observed e.index with
      | none => rfl
      | some obs =>
        obtain ⟨hlow, hhigh⟩ := hsmall.observed e.index obs hobs
        have heffective : (Int32.ofNat e.baseMhz + obs -
            (UInt32.ofNat plan.targetMhz).toInt32).toInt =
              (e.baseMhz : Int) + obs.toInt - plan.targetMhz := by
          rw [Int32.toInt_sub, Int32.toInt_add, hbaseInt, htarget, Int.bmod_sub_bmod]
          exact Int.bmod_eq_of_le (by omega) (by omega)
        simp only [Option.map_some, gt_iff_lt, Int32.lt_iff_toInt_lt, heffective, htolInt]
  unfold verifyAnchoredPositiveOffset Nidavellir.verifyAnchoredPositiveOffset verifyPositiveOffset
  dsimp only
  rw [hothers plan.entries fun _ => id]
  cases hobs : readback.observed plan.anchor.index with
  | none => rfl
  | some obs =>
    obtain ⟨hlow, hhigh⟩ := hsmall.observed plan.anchor.index obs hobs
    have hup : (obs - Int32.ofInt plan.anchor.offsetMhz).toInt =
        obs.toInt - plan.anchor.offsetMhz := by
      rw [toInt_sub_of_fits (by omega) (by omega), hintended]
    have hdown : (Int32.ofInt plan.anchor.offsetMhz - obs).toInt =
        plan.anchor.offsetMhz - obs.toInt := by
      rw [toInt_sub_of_fits (by omega) (by omega), hintended]
    simp only [Option.map_some, gt_iff_lt, Int32.lt_iff_toInt_lt, hup, hdown, htolInt]
    by_cases hover : (tolMhz.toNat : Int) < obs.toInt - plan.anchor.offsetMhz
    · simp only [if_pos hover]
    · by_cases hshort : (tolMhz.toNat : Int) < plan.anchor.offsetMhz - obs.toInt
      · simp only [if_neg hover, if_pos hshort]
      · simp only [if_neg hover, if_neg hshort]

def Exact (plan : AnchoredPositiveOffsetPlan) (readback : Readback) : Prop :=
  ∀ e ∈ plan.entries, readback.observed e.index = some (Int32.ofInt e.offsetMhz)

/-- Every bin of the plan was read back, and what was read is right. -/
def Holds (plan : AnchoredPositiveOffsetPlan) (readback : Readback) (tolMhz : UInt32) : Prop :=
  ∀ e ∈ plan.entries, ∃ obs, readback.observed e.index = some obs ∧ BinHolds plan tolMhz e obs

/-- No readback wraps into its tolerance, or another bin is not accepted anyway; and a tolerance
that is read as negative meets no exact readback. -/
def Readable (plan : AnchoredPositiveOffsetPlan) (readback : Readback) (tolMhz : UInt32) : Prop :=
  if tolMhz.toNat < 2 ^ 31 then
    (∀ e ∈ plan.entries, ∀ obs, readback.observed e.index = some obs →
      ¬ Wraps plan tolMhz e obs) ∨
    ∃ e ∈ plan.entries, ∀ obs, readback.observed e.index = some obs → ¬ Accepts plan tolMhz e obs
  else ¬ Exact plan readback

/-- An exact readback of an accepted plan is verified, and what is verified holds, exactly where the
readback and the tolerance can be read in 32 bits. -/
theorem anchoredVerifier_iff (curve : List VfBin) (anchorBinIndex : Nat) (targetMhz : UInt32)
    (prevOffsetMhz : Int32) (limits : Limits) (plan : AnchoredPositiveOffsetPlan)
    (h : planBoundedAnchoredPositiveOffset curve anchorBinIndex targetMhz prevOffsetMhz limits =
      .ok plan) (readback : Readback) (tolMhz : UInt32) :
    ((Exact plan readback →
        verifyAnchoredPositiveOffset plan readback tolMhz = .anchoredRaiseVerified) ∧
      (verifyAnchoredPositiveOffset plan readback tolMhz = .anchoredRaiseVerified →
        Holds plan readback tolMhz)) ↔
      Readable plan readback tolMhz := by
  have hplan := planned_of_ok h
  rw [verifyAnchoredPositiveOffset_iff hplan.some_anchor, Readable]
  split
  next htol =>
    have hexact : Exact plan readback → ∀ e ∈ plan.entries, ∃ obs,
        readback.observed e.index = some obs ∧ Accepts plan tolMhz e obs := by
      intro hexact e he
      exact ⟨_, hexact e he, accepts_planned hplan he htol⟩
    constructor
    · rintro ⟨-, hsound⟩
      by_cases hall : ∀ e ∈ plan.entries, ∃ obs,
          readback.observed e.index = some obs ∧ Accepts plan tolMhz e obs
      · refine .inl fun e he obs hobs hwraps => ?_
        obtain ⟨obs', hobs', hholds⟩ := hsound hall e he
        obtain rfl := Option.some.inj (hobs.symm.trans hobs')
        exact ((accepts_and_not_holds_iff hplan he htol).mpr hwraps).2 hholds
      · push Not at hall
        exact .inr hall
    · intro hreadable
      refine ⟨hexact, fun hall e he => ?_⟩
      obtain ⟨obs, hobs, haccepts⟩ := hall e he
      rcases hreadable with hstays | ⟨other, hother, hrefused⟩
      · refine ⟨obs, hobs, ?_⟩
        by_contra hholds
        exact hstays e he obs hobs
          ((accepts_and_not_holds_iff hplan he htol).mp ⟨haccepts, hholds⟩)
      · obtain ⟨obs', hobs', haccepts'⟩ := hall other hother
        exact absurd haccepts' (hrefused obs' hobs')
  next htol =>
    have hwide := not_lt.mp htol
    constructor
    · rintro ⟨hverified, -⟩ hexact
      obtain ⟨e, he, hindex⟩ := hplan.some_anchor
      obtain ⟨obs, hobs, haccepts⟩ := hverified hexact e he
      obtain rfl := Option.some.inj ((hexact e he).symm.trans hobs)
      exact not_accepts_planned hplan he hindex hwide haccepts
    · intro hinexact
      refine ⟨fun hexact => absurd hexact hinexact, fun hall e he => ?_⟩
      obtain ⟨obs, hobs, haccepts⟩ := hall e he
      exact ⟨obs, hobs, holds_of_accepts hplan he hwide haccepts⟩

def readback1845 (anchor : Int32) : Readback := [(60, some anchor), (61, some (-15))]

theorem readback_holds :
    verifyAnchoredPositiveOffset (planFrom 0 15) (readback1845 15) 15 = .anchoredRaiseVerified ∧
      Holds (planFrom 0 15) (readback1845 15) 15 := by
  have hboth := (anchoredVerifier_iff curve1845 60 1845 0 limits1845 (planFrom 0 15) rfl
    (readback1845 15) 15).mpr (.inl ?_)
  · have hverified := hboth.1 (List.forall_mem_cons.mpr ⟨rfl, List.forall_mem_singleton.mpr rfl⟩)
    exact ⟨hverified, hboth.2 hverified⟩
  · refine List.forall_mem_cons.mpr ⟨?_, List.forall_mem_singleton.mpr ?_⟩
    · intro obs hobs
      obtain rfl := Option.some.inj hobs
      unfold Wraps
      decide
    · intro obs hobs
      obtain rfl := Option.some.inj hobs
      unfold Wraps
      decide

/-- The lowest readbacks of an `i32` pass as a raise that took. -/
theorem wrapped_readback_verified :
    planBoundedAnchoredPositiveOffset curve1845 60 1845 0 limits1845 = .ok (planFrom 0 15) ∧
      verifyAnchoredPositiveOffset (planFrom 0 15) (readback1845 (-2147483633)) 15 =
        .anchoredRaiseVerified ∧
      ¬ Holds (planFrom 0 15) (readback1845 (-2147483633)) 15 := by
  refine ⟨rfl, by decide, fun hholds => ?_⟩
  obtain ⟨obs, hobs, hbin⟩ := hholds ⟨60, 850, 1830, 15, 1845, .anchor⟩ (by decide)
  obtain rfl := Option.some.inj hobs
  exact absurd (hbin.raised rfl).2 (by decide)

end Nidavellir.Word

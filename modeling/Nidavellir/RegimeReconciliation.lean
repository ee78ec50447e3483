import Mathlib.Data.List.Perm.Basic
import Nidavellir.ForgePoint

namespace Nidavellir

open Extremes

/-- The bin that a point needs before any lift. -/
def PowerSweepPoint.baseApply (point : PowerSweepPoint) : Option Nat :=
  point.baseApplyMv <|> point.vfTableVoltageMv

/-- The regime of a point: the least target of the frontier that reaches its p95, or its own target
when the p95 does not exceed it. -/
def IsRegimeSupport (point : PowerSweepPoint) (frontier : Classified) (supportMhz : Nat) : Prop :=
  ∃ targetMhz p95, point.targetClockMhz = some targetMhz ∧ point.p95ClockMhz = some p95 ∧ 0 < p95 ∧
    (p95 ≤ targetMhz ∧ supportMhz = targetMhz ∨ targetMhz < p95 ∧ p95 ≤ supportMhz ∧
      (∃ entry ∈ frontier, entry.1.targetClockMhz = some supportMhz) ∧
        ∀ entry ∈ frontier, ∀ other, entry.1.targetClockMhz = some other → p95 ≤ other →
          supportMhz ≤ other)

/-- Between the target of the point and its regime. -/
def InRegimeSpan (point : PowerSweepPoint) (supportMhz : Nat) (other : PowerSweepPoint) : Prop :=
  ∃ targetMhz otherMhz, point.targetClockMhz = some targetMhz ∧
    other.targetClockMhz = some otherMhz ∧ targetMhz ≤ otherMhz ∧ otherMhz ≤ supportMhz

/-- The bins of the span. -/
def spanBins (targetMhz supportMhz : Nat) (frontier : Classified) : List Nat :=
  frontier.filterMap fun entry => do
    let candidateTarget ← entry.1.targetClockMhz
    let applyMv ← entry.1.baseApplyMv <|> entry.1.vfTableVoltageMv
    if targetMhz ≤ candidateTarget ∧ candidateTarget ≤ supportMhz then some applyMv else none

/-- The regime's target as the code looks it up. -/
def supportOf (targetMhz p95 : Nat) (frontier : Classified) : Option Nat :=
  if targetMhz < p95 then
    ((frontier.filterMap fun entry => entry.1.targetClockMhz).filter (p95 ≤ ·)).min?
  else some targetMhz

variable {point : PowerSweepPoint} {frontier frontier' : Classified} {support : F2RegimeSupport}
  {targetMhz p95 supportMhz mv : Nat}

theorem mem_spanBins : mv ∈ spanBins targetMhz supportMhz frontier ↔
    ∃ entry ∈ frontier, ∃ otherMhz, entry.1.targetClockMhz = some otherMhz ∧
      targetMhz ≤ otherMhz ∧ otherMhz ≤ supportMhz ∧ entry.1.baseApply = some mv := by
  unfold spanBins
  rw [List.mem_filterMap]
  refine exists_congr fun entry => and_congr_right fun _ => ?_
  constructor
  · intro h
    obtain ⟨otherMhz, htarget, h⟩ := Option.bind_eq_some_iff.mp h
    obtain ⟨applyMv, happly, h⟩ := Option.bind_eq_some_iff.mp h
    split at h
    next hspan =>
      cases h
      exact ⟨otherMhz, htarget, hspan.1, hspan.2, happly⟩
    next => cases h
  · rintro ⟨otherMhz, htarget, hlow, hhigh, happly⟩
    refine Option.bind_eq_some_iff.mpr ⟨otherMhz, htarget, ?_⟩
    exact Option.bind_eq_some_iff.mpr ⟨mv, happly, if_pos ⟨hlow, hhigh⟩⟩

theorem supportOf_eq_some_iff (htarget : point.targetClockMhz = some targetMhz)
    (hp95 : point.p95ClockMhz = some p95) (hpos : 0 < p95) :
    supportOf targetMhz p95 frontier = some supportMhz ↔
      IsRegimeSupport point frontier supportMhz := by
  unfold supportOf IsRegimeSupport
  by_cases hlt : targetMhz < p95
  · rw [if_pos hlt, List.min?_eq_some_iff]
    simp only [List.mem_filter, List.mem_filterMap, decide_eq_true_eq, htarget, hp95]
    constructor
    · rintro ⟨⟨hmem, hle⟩, hleast⟩
      refine ⟨targetMhz, p95, rfl, rfl, hpos, .inr ⟨hlt, hle, hmem, ?_⟩⟩
      exact fun entry hentry other hother hge => hleast other ⟨⟨entry, hentry, hother⟩, hge⟩
    · rintro ⟨_, _, ⟨⟩, ⟨⟩, -, ⟨hge, -⟩ | ⟨-, hle, hmem, hleast⟩⟩
      · exact absurd hlt (not_lt.mpr hge)
      · refine ⟨⟨hmem, hle⟩, ?_⟩
        rintro other ⟨⟨entry, hentry, hother⟩, hge⟩
        exact hleast entry hentry other hother hge
  · rw [if_neg hlt, Option.some.injEq]
    constructor
    · rintro rfl
      exact ⟨targetMhz, p95, htarget, hp95, hpos, .inl ⟨not_lt.mp hlt, rfl⟩⟩
    · rintro ⟨_, _, htarget', hp95', -, ⟨-, rfl⟩ | ⟨hlt', -⟩⟩
      · exact Option.some.inj (htarget.symm.trans htarget')
      · cases htarget.symm.trans htarget'
        cases hp95.symm.trans hp95'
        exact absurd hlt' hlt

/-- The lookup in parts. -/
theorem f2RegimeSupport_eq (htarget : point.targetClockMhz = some targetMhz)
    (hp95 : point.p95ClockMhz = some p95) (hpos : 0 < p95) :
    f2RegimeSupport point frontier =
      ((supportOf targetMhz p95 frontier).elim
        (.error "no measured target supports the observed p95 regime") fun supportMhz =>
        (spanBins targetMhz supportMhz frontier).max?.elim
          (.error "observed p95 regime has no measured Apply anchor") fun requiredMv =>
          .ok ⟨p95, supportMhz, requiredMv⟩) := by
  unfold f2RegimeSupport
  have hfilter : point.p95ClockMhz.filter (0 < ·) = some p95 := by
    rw [hp95, Option.filter_some, decide_eq_true hpos]
    rfl
  rw [htarget, hfilter]
  dsimp only
  split
  next hnone =>
    have hsupport : supportOf targetMhz p95 frontier = none := hnone
    rw [hsupport]
    rfl
  next supportMhz hsome =>
    have hsupport : supportOf targetMhz p95 frontier = some supportMhz := hsome
    rw [hsupport, Option.elim_some]
    split
    next hnone =>
      have hrequired : (spanBins targetMhz supportMhz frontier).max? = none := hnone
      rw [hrequired]
      rfl
    next requiredMv hsome =>
      have hrequired : (spanBins targetMhz supportMhz frontier).max? = some requiredMv := hsome
      rw [hrequired]
      rfl

theorem f2RegimeSupport_ok_iff : f2RegimeSupport point frontier = .ok support ↔
    IsRegimeSupport point frontier support.supportTargetMhz ∧
      point.p95ClockMhz = some support.observedP95Mhz ∧
      ∃ targetMhz, point.targetClockMhz = some targetMhz ∧
        (spanBins targetMhz support.supportTargetMhz frontier).max? =
          some support.requiredApplyMv := by
  constructor
  · intro h
    cases htarget : point.targetClockMhz with
    | none =>
      unfold f2RegimeSupport at h
      rw [htarget] at h
      cases h
    | some targetMhz =>
      cases hfilter : point.p95ClockMhz.filter (0 < ·) with
      | none =>
        unfold f2RegimeSupport at h
        rw [htarget, hfilter] at h
        cases h
      | some p95 =>
        obtain ⟨hp95, hpos⟩ := Option.filter_eq_some_iff.mp hfilter
        have hpos := of_decide_eq_true hpos
        rw [f2RegimeSupport_eq htarget hp95 hpos] at h
        cases hsupport : supportOf targetMhz p95 frontier with
        | none =>
          rw [hsupport] at h
          cases h
        | some supportMhz =>
          rw [hsupport, Option.elim_some] at h
          cases hrequired : (spanBins targetMhz supportMhz frontier).max? with
          | none =>
            rw [hrequired] at h
            cases h
          | some requiredMv =>
            rw [hrequired] at h
            cases h
            exact ⟨(supportOf_eq_some_iff htarget hp95 hpos).mp hsupport, hp95, targetMhz, rfl,
              hrequired⟩
  · rintro ⟨hsupport, hp95, targetMhz, htarget, hrequired⟩
    obtain ⟨_, p95, -, hp95', hpos, -⟩ := id hsupport
    cases hp95.symm.trans hp95'
    rw [f2RegimeSupport_eq htarget hp95 hpos,
      (supportOf_eq_some_iff htarget hp95 hpos).mpr hsupport, Option.elim_some, hrequired]
    rfl

theorem f2RegimeSupport_perm (hperm : frontier.Perm frontier') :
    f2RegimeSupport point frontier = f2RegimeSupport point frontier' := by
  cases htarget : point.targetClockMhz with
  | none =>
    unfold f2RegimeSupport
    rw [htarget]
  | some targetMhz =>
    cases hfilter : point.p95ClockMhz.filter (0 < ·) with
    | none =>
      unfold f2RegimeSupport
      rw [htarget, hfilter]
    | some p95 =>
      obtain ⟨hp95, hpos⟩ := Option.filter_eq_some_iff.mp hfilter
      have hsupport : supportOf targetMhz p95 frontier = supportOf targetMhz p95 frontier' := by
        unfold supportOf
        rw [min?_eq_of_perm ((hperm.filterMap _).filter _)]
      have hspan : ∀ supportMhz, (spanBins targetMhz supportMhz frontier).max? =
          (spanBins targetMhz supportMhz frontier').max? :=
        fun _ => max?_eq_of_perm (hperm.filterMap _)
      rw [f2RegimeSupport_eq htarget hp95 (of_decide_eq_true hpos),
        f2RegimeSupport_eq htarget hp95 (of_decide_eq_true hpos), hsupport]
      simp only [hspan]

/-- The first point of that target. -/
def firstOf (frontier : Classified) (supportMhz : Nat) : Option PowerSweepPoint :=
  (frontier.map Prod.fst).find? fun candidate => candidate.targetClockMhz == some supportMhz

/-- The points of one target are qualified or they are not. -/
def TargetUniform (qualified : PowerSweepPoint → Bool) (frontier : Classified) (supportMhz : Nat) :
    Prop :=
  (∀ entry ∈ frontier, entry.1.targetClockMhz = some supportMhz → qualified entry.1 = true) ∨
    ∀ entry ∈ frontier, entry.1.targetClockMhz = some supportMhz → qualified entry.1 = false

variable {qualified : PowerSweepPoint → Bool}

theorem firstOf_eq_some {first : PowerSweepPoint} (h : firstOf frontier supportMhz = some first) :
    ∃ entry ∈ frontier, entry.1.targetClockMhz = some supportMhz ∧ entry.1 = first := by
  have htarget : (first.targetClockMhz == some supportMhz) = true := by
    unfold firstOf at h
    exact (List.find?_eq_some_iff_append.mp h).1
  obtain ⟨entry, hentry, rfl⟩ := List.mem_map.mp (List.mem_of_find?_eq_some h)
  exact ⟨entry, hentry, eq_of_beq htarget, rfl⟩

theorem exists_firstOf {entry : PowerSweepPoint × ℚ} (hentry : entry ∈ frontier)
    (htarget : entry.1.targetClockMhz = some supportMhz) :
    ∃ first, firstOf frontier supportMhz = some first := by
  refine Option.isSome_iff_exists.mp (List.find?_isSome.mpr ?_)
  exact ⟨entry.1, List.mem_map_of_mem hentry, beq_iff_eq.mpr htarget⟩

theorem firstOf_any_iff (huniform : TargetUniform qualified frontier supportMhz) :
    (firstOf frontier supportMhz).any qualified = true ↔ ∃ entry ∈ frontier,
      entry.1.targetClockMhz = some supportMhz ∧ qualified entry.1 = true := by
  constructor
  · intro h
    obtain ⟨first, hfirst, hqualified⟩ := (Option.any_eq_true _ _).mp h
    obtain ⟨entry, hentry, htarget, rfl⟩ := firstOf_eq_some hfirst
    exact ⟨entry, hentry, htarget, hqualified⟩
  · rintro ⟨entry, hentry, htarget, hqualified⟩
    obtain ⟨first, hfirst⟩ := exists_firstOf hentry htarget
    obtain ⟨other, hother, hsame, rfl⟩ := firstOf_eq_some hfirst
    rcases huniform with hall | hnone
    · rw [hfirst]
      exact hall other hother hsame
    · rw [hnone entry hentry htarget] at hqualified
      cases hqualified

theorem TargetUniform.perm (h : TargetUniform qualified frontier supportMhz)
    (hperm : frontier.Perm frontier') : TargetUniform qualified frontier' supportMhz :=
  h.imp (fun hall entry hentry => hall entry (hperm.mem_iff.mpr hentry))
    fun hall entry hentry => hall entry (hperm.mem_iff.mpr hentry)

theorem TargetUniform.firstOf_perm (h : TargetUniform qualified frontier supportMhz)
    (hperm : frontier.Perm frontier') :
    (firstOf frontier supportMhz).any qualified = (firstOf frontier' supportMhz).any qualified := by
  rw [Bool.eq_iff_iff, firstOf_any_iff h, firstOf_any_iff (h.perm hperm)]
  exact exists_congr fun entry => and_congr_left fun _ => hperm.mem_iff

/-- A point of the frontier can be brought to the front. -/
theorem exists_perm_firstOf {entry : PowerSweepPoint × ℚ} (hentry : entry ∈ frontier)
    (htarget : entry.1.targetClockMhz = some supportMhz) :
    ∃ frontier', frontier.Perm frontier' ∧ firstOf frontier' supportMhz = some entry.1 := by
  obtain ⟨before, after, rfl⟩ := List.append_of_mem hentry
  refine ⟨entry :: (before ++ after), List.perm_middle, ?_⟩
  have hfirst : (entry.1.targetClockMhz == some supportMhz) = true := beq_iff_eq.mpr htarget
  unfold firstOf
  rw [List.map_cons, List.find?_cons, hfirst]

theorem TargetUniform.all_of_first (h : TargetUniform qualified frontier supportMhz)
    (hfirst : (firstOf frontier supportMhz).any qualified = true) :
    ∀ entry ∈ frontier, entry.1.targetClockMhz = some supportMhz → qualified entry.1 = true := by
  rcases id h with hall | hnone
  · exact hall
  · obtain ⟨entry, hentry, htarget, hqualified⟩ := (firstOf_any_iff h).mp hfirst
    rw [hnone entry hentry htarget] at hqualified
    cases hqualified

theorem mixed_of_not_uniform (h : ¬ TargetUniform qualified frontier supportMhz) :
    (∃ entry ∈ frontier, entry.1.targetClockMhz = some supportMhz ∧ qualified entry.1 = false) ∧
      ∃ entry ∈ frontier, entry.1.targetClockMhz = some supportMhz ∧
        qualified entry.1 = true := by
  unfold TargetUniform at h
  push Not at h
  simpa using h

theorem dropWhile_toString (n : Nat) (rest : String) :
    (toString n ++ rest).toList.dropWhile Char.isDigit = rest.toList.dropWhile Char.isDigit := by
  rw [String.toList_append, Nat.toString_eq_repr, Nat.toList_repr,
    List.dropWhile_append_of_pos fun c hc =>
      Nat.isDigit_of_mem_toDigits (by decide) (by decide) hc]

/-- What is said of a point behind its qualification and its regime. -/
def voltageRefusal (point : PowerSweepPoint) (support : F2RegimeSupport) : Option String :=
  match point.vfTableVoltageMv with
  | none => some "candidate has no exact Apply anchor"
  | some applyMv =>
    if applyMv < support.requiredApplyMv then
      some (toString point.target ++ " MHz target sustains p95 " ++
        toString support.observedP95Mhz ++ " MHz but Apply " ++ toString applyMv ++
        " mV is below the " ++ toString support.requiredApplyMv ++
        " mV required by the " ++ toString support.supportTargetMhz ++ " MHz regime")
    else none

def regimeRefusal (support : F2RegimeSupport) : String :=
  toString support.observedP95Mhz ++ " MHz p95 maps to " ++ toString support.supportTargetMhz ++
    " MHz, whose frontier is failed or inconclusive"

theorem voltageRefusal_eq_none (h : voltageRefusal point support = none) :
    ∃ applyMv, point.vfTableVoltageMv = some applyMv ∧ support.requiredApplyMv ≤ applyMv := by
  unfold voltageRefusal at h
  split at h
  next => cases h
  next applyMv hmv =>
    split at h
    next => cases h
    next hle => exact ⟨applyMv, hmv, not_lt.mp hle⟩

theorem voltageRefusal_ne (point : PowerSweepPoint) (support : F2RegimeSupport) :
    voltageRefusal point support ≠ some (regimeRefusal support) := by
  unfold voltageRefusal regimeRefusal
  simp only [String.append_assoc]
  intro h
  split at h
  next =>
    have hdrop := congrArg (fun s : String => (s.toList.dropWhile Char.isDigit)[0]?)
      (Option.some.inj h)
    rw [dropWhile_toString] at hdrop
    simp at hdrop
  next =>
    split at h
    next =>
      have hdrop := congrArg (fun s : String => (s.toList.dropWhile Char.isDigit)[5]?)
        (Option.some.inj h)
      rw [dropWhile_toString, dropWhile_toString] at hdrop
      simp at hdrop
    next => cases h

section Refusal

variable {requiredConfirmations : Nat} {confidenceThreshold : ℚ}

theorem refusal_of_unqualified
    (h : f2BoundaryPointIsQualified point requiredConfirmations confidenceThreshold = false) :
    f2RegimeCandidateRefusal point frontier true requiredConfirmations confidenceThreshold =
      some "its own frontier boundary lacks current Texture Hop v13-r3 qualification" := by
  have hbranch : (true && !f2BoundaryPointIsQualified point requiredConfirmations
      confidenceThreshold) = true := by rw [h]; rfl
  exact if_pos hbranch

section Qualified

variable
  (h : f2BoundaryPointIsQualified point requiredConfirmations confidenceThreshold = true)

include h

theorem not_unqualified : ¬ (true && !f2BoundaryPointIsQualified point requiredConfirmations
    confidenceThreshold) = true := by
  rw [h]
  exact Bool.false_ne_true

theorem refusal_of_error {reason : String}
    (hsupport : f2RegimeSupport point frontier = .error reason) :
    f2RegimeCandidateRefusal point frontier true requiredConfirmations confidenceThreshold =
      some reason := by
  refine (if_neg (not_unqualified h)).trans ?_
  rw [hsupport]

theorem refusal_of_ok (hsupport : f2RegimeSupport point frontier = .ok support) :
    f2RegimeCandidateRefusal point frontier true requiredConfirmations confidenceThreshold =
      if (firstOf frontier support.supportTargetMhz).any fun candidate =>
        f2BoundaryPointIsQualified candidate requiredConfirmations confidenceThreshold
      then voltageRefusal point support else some (regimeRefusal support) := by
  refine (if_neg (not_unqualified h)).trans ?_
  rw [hsupport]
  unfold firstOf
  dsimp only
  cases ((frontier.map Prod.fst).find? fun candidate =>
    candidate.targetClockMhz == some support.supportTargetMhz).any fun candidate =>
      f2BoundaryPointIsQualified candidate requiredConfirmations confidenceThreshold <;> rfl

end Qualified

end Refusal

/-- Some point of the span has a bin. -/
def RegimeAnchored (point : PowerSweepPoint) (frontier : Classified) (supportMhz : Nat) : Prop :=
  ∃ entry ∈ frontier, InRegimeSpan point supportMhz entry.1 ∧ entry.1.baseApply.isSome = true

theorem le_baseApply_of_ok (h : f2RegimeSupport point frontier = .ok support)
    {entry : PowerSweepPoint × ℚ} (hentry : entry ∈ frontier)
    (hspan : InRegimeSpan point support.supportTargetMhz entry.1)
    (hmv : entry.1.baseApply = some mv) :
    mv ≤ support.requiredApplyMv := by
  obtain ⟨-, -, targetMhz, htarget, hrequired⟩ := f2RegimeSupport_ok_iff.mp h
  obtain ⟨_, otherMhz, htarget', hother, hlow, hhigh⟩ := hspan
  cases htarget.symm.trans htarget'
  exact (List.max?_eq_some_iff.mp hrequired).2 mv
    (mem_spanBins.mpr ⟨entry, hentry, otherMhz, hother, hlow, hhigh, hmv⟩)

theorem anchored_of_ok (h : f2RegimeSupport point frontier = .ok support) :
    RegimeAnchored point frontier support.supportTargetMhz := by
  obtain ⟨-, -, targetMhz, htarget, hrequired⟩ := f2RegimeSupport_ok_iff.mp h
  obtain ⟨entry, hentry, otherMhz, hother, hlow, hhigh, hmv⟩ :=
    mem_spanBins.mp (List.max?_mem hrequired)
  exact ⟨entry, hentry, ⟨targetMhz, otherMhz, htarget, hother, hlow, hhigh⟩, by rw [hmv]; rfl⟩

theorem exists_support (hsupport : IsRegimeSupport point frontier supportMhz)
    (hanchored : RegimeAnchored point frontier supportMhz) :
    ∃ support, f2RegimeSupport point frontier = .ok support ∧
      support.supportTargetMhz = supportMhz := by
  obtain ⟨entry, hentry, ⟨targetMhz, otherMhz, htarget, hother, hlow, hhigh⟩, hbin⟩ := hanchored
  obtain ⟨mv, hmv⟩ := Option.isSome_iff_exists.mp hbin
  obtain ⟨_, p95, -, hp95, -⟩ := id hsupport
  cases hrequired : (spanBins targetMhz supportMhz frontier).max? with
  | none =>
    rw [List.max?_eq_none_iff] at hrequired
    have hmem : mv ∈ spanBins targetMhz supportMhz frontier :=
      mem_spanBins.mpr ⟨entry, hentry, otherMhz, hother, hlow, hhigh, hmv⟩
    rw [hrequired] at hmem
    cases hmem
  | some requiredMv =>
    exact ⟨⟨p95, supportMhz, requiredMv⟩,
      f2RegimeSupport_ok_iff.mpr ⟨hsupport, hp95, targetMhz, htarget, hrequired⟩, rfl⟩

theorem IsRegimeSupport.le (h : IsRegimeSupport point frontier supportMhz)
    (htarget : point.targetClockMhz = some targetMhz) : targetMhz ≤ supportMhz := by
  obtain ⟨_, p95, htarget', -, -, ⟨-, rfl⟩ | ⟨hlt, hle, -⟩⟩ := h
  · cases htarget.symm.trans htarget'
    exact le_rfl
  · cases htarget.symm.trans htarget'
    omega

/-- A point of the frontier with a bin is an anchor of its own regime. -/
theorem anchored_self {entry : PowerSweepPoint × ℚ} (hentry : entry ∈ frontier)
    (hsupport : IsRegimeSupport entry.1 frontier supportMhz)
    (hmv : entry.1.vfTableVoltageMv = some mv) : RegimeAnchored entry.1 frontier supportMhz := by
  obtain ⟨targetMhz, -, htarget, -⟩ := id hsupport
  refine ⟨entry, hentry, ⟨targetMhz, targetMhz, htarget, htarget, le_rfl, hsupport.le htarget⟩, ?_⟩
  unfold PowerSweepPoint.baseApply
  rw [hmv]
  cases entry.1.baseApplyMv <;> rfl

/-- The pairs that inherit the failed one. -/
def RegimeDependent (failedKey : ApplyPair) (frontier : Classified) (key : ApplyPair) : Prop :=
  ∃ entry ∈ frontier, f2ApplyKey entry.1 = some key ∧ IsRegimeSupport entry.1 frontier failedKey.1 ∧
    key ≠ failedKey ∧ key.2 ≤ failedKey.2

theorem mem_f2RegimeDependentApplyKeys {failedKey key : ApplyPair} :
    key ∈ f2RegimeDependentApplyKeys failedKey frontier ↔
      RegimeDependent failedKey frontier key := by
  unfold f2RegimeDependentApplyKeys RegimeDependent
  rw [List.mem_filterMap]
  refine exists_congr fun entry => and_congr_right fun hentry => ?_
  constructor
  · intro h
    obtain ⟨found, hkey, h⟩ := Option.bind_eq_some_iff.mp h
    obtain ⟨support, hsupport, h⟩ := Option.bind_eq_some_iff.mp h
    split at h
    next hcond =>
      cases h
      have hok : f2RegimeSupport entry.1 frontier = .ok support := by
        cases hresult : f2RegimeSupport entry.1 frontier with
        | error reason =>
          rw [hresult] at hsupport
          cases hsupport
        | ok found =>
          rw [hresult] at hsupport
          cases hsupport
          rfl
      have hregime := (f2RegimeSupport_ok_iff.mp hok).1
      rw [hcond.2.1] at hregime
      exact ⟨hkey, hregime, hcond.1, hcond.2.2⟩
    next => cases h
  · rintro ⟨hkey, hregime, hne, hle⟩
    have hmv := (f2ApplyKey_eq_some.mp hkey).2
    obtain ⟨support, hok, htarget⟩ := exists_support hregime (anchored_self hentry hregime hmv)
    refine Option.bind_eq_some_iff.mpr ⟨key, hkey, ?_⟩
    refine Option.bind_eq_some_iff.mpr ⟨support, by rw [hok]; rfl, ?_⟩
    exact if_pos ⟨hne, htarget, hle⟩

section Conservative

variable (point) (frontier) (requiredConfirmations : Nat) (confidenceThreshold : ℚ)

/-- What an accepted point has been checked for. -/
structure RegimeAccepted (supportMhz : Nat) : Prop where
  support : IsRegimeSupport point frontier supportMhz
  own : f2BoundaryPointIsQualified point requiredConfirmations confidenceThreshold = true
  regime : ∀ entry ∈ frontier, entry.1.targetClockMhz = some supportMhz →
    f2BoundaryPointIsQualified entry.1 requiredConfirmations confidenceThreshold = true
  voltage : ∃ applyMv, point.vfTableVoltageMv = some applyMv ∧
    ∀ entry ∈ frontier, InRegimeSpan point supportMhz entry.1 → ∀ mv, entry.1.baseApply = some mv →
      mv ≤ applyMv

/-- The reconciliation is conservative, and the order of the frontier does not matter to it. -/
structure RegimeReconciled : Prop where
  accepted : f2RegimeCandidateRefusal point frontier true requiredConfirmations
      confidenceThreshold = none →
    ∃ supportMhz, RegimeAccepted point frontier requiredConfirmations confidenceThreshold supportMhz
  permuted : ∀ frontier', frontier.Perm frontier' →
    f2RegimeCandidateRefusal point frontier true requiredConfirmations confidenceThreshold =
      f2RegimeCandidateRefusal point frontier' true requiredConfirmations confidenceThreshold
  dependents : ∀ failedKey key, key ∈ f2RegimeDependentApplyKeys failedKey frontier ↔
    RegimeDependent failedKey frontier key

/-- Where the point is qualified itself and its regime has an anchor, the points of the regime's
target are all qualified or none is. -/
def RegimeUniform : Prop :=
  f2BoundaryPointIsQualified point requiredConfirmations confidenceThreshold = true →
    ∀ supportMhz, IsRegimeSupport point frontier supportMhz →
      RegimeAnchored point frontier supportMhz →
        TargetUniform (fun candidate => f2BoundaryPointIsQualified candidate requiredConfirmations
          confidenceThreshold) frontier supportMhz

/-- Regime reconciliation is conservative just where the points of one target agree. -/
theorem regime_reconciled_iff :
    RegimeReconciled point frontier requiredConfirmations confidenceThreshold ↔
      RegimeUniform point frontier requiredConfirmations confidenceThreshold := by
  cases hown : f2BoundaryPointIsQualified point requiredConfirmations confidenceThreshold with
  | false =>
    refine iff_of_true ⟨fun h => ?_, fun frontier' _ => ?_,
      fun _ _ => mem_f2RegimeDependentApplyKeys⟩ fun h => ?_
    · rw [refusal_of_unqualified hown] at h
      cases h
    · rw [refusal_of_unqualified hown, refusal_of_unqualified hown]
    · rw [hown] at h
      cases h
  | true =>
    refine ⟨fun h _ supportMhz hregime hanchored => ?_, fun h => ⟨fun hnone => ?_,
      fun frontier' hperm => ?_, fun _ _ => mem_f2RegimeDependentApplyKeys⟩⟩
    · obtain ⟨support, hok, rfl⟩ := exists_support hregime hanchored
      by_contra hmixed
      obtain ⟨⟨low, hlow, hlowTarget, hunqualified⟩, high, hhigh, hhighTarget, hqualified⟩ :=
        mixed_of_not_uniform hmixed
      -- the answer is another one for each of the two in front
      obtain ⟨frontier₁, hperm₁, hfirst₁⟩ := exists_perm_firstOf hlow hlowTarget
      obtain ⟨frontier₂, hperm₂, hfirst₂⟩ := exists_perm_firstOf hhigh hhighTarget
      have hsame := (h.permuted frontier₁ hperm₁).symm.trans (h.permuted frontier₂ hperm₂)
      rw [refusal_of_ok hown (f2RegimeSupport_perm hperm₁ ▸ hok),
        refusal_of_ok hown (f2RegimeSupport_perm hperm₂ ▸ hok), hfirst₁, hfirst₂,
        Option.any_some, Option.any_some, hunqualified, hqualified] at hsame
      exact voltageRefusal_ne point support hsame.symm
    · cases hsupport : f2RegimeSupport point frontier with
      | error reason =>
        rw [refusal_of_error hown hsupport] at hnone
        cases hnone
      | ok support =>
        rw [refusal_of_ok hown hsupport] at hnone
        have hregime := (f2RegimeSupport_ok_iff.mp hsupport).1
        split at hnone
        next hfirst =>
          refine ⟨support.supportTargetMhz, hregime, hown, ?_, ?_⟩
          · exact (h hown _ hregime (anchored_of_ok hsupport)).all_of_first hfirst
          · obtain ⟨applyMv, hmv, hle⟩ := voltageRefusal_eq_none hnone
            exact ⟨applyMv, hmv, fun entry hentry hspan mv hbin =>
              (le_baseApply_of_ok hsupport hentry hspan hbin).trans hle⟩
        next => cases hnone
    · cases hsupport : f2RegimeSupport point frontier with
      | error reason =>
        rw [refusal_of_error hown hsupport,
          refusal_of_error hown (f2RegimeSupport_perm hperm ▸ hsupport)]
      | ok support =>
        have hregime := (f2RegimeSupport_ok_iff.mp hsupport).1
        rw [refusal_of_ok hown hsupport, refusal_of_ok hown (f2RegimeSupport_perm hperm ▸ hsupport),
          (h hown _ hregime (anchored_of_ok hsupport)).firstOf_perm hperm]

end Conservative

def regimePoint (targetMhz applyMv p95 validationCount : Nat) : PowerSweepPoint where
  clockMhz := p95
  offsetMhz := 0
  maxPowerW := 185
  vfTableVoltageMv := some applyMv
  p5ClockMhz := some p95
  p95ClockMhz := some p95
  targetClockMhz := some targetMhz
  confidence := some (99 / 100)
  validationCount := some validationCount

/-- A repair has put a second bin of 1890 MHz behind the first, with one confirmation less. -/
def repairedFrontier : Classified :=
  [(regimePoint 1860 925 1890 3, 99 / 100), (regimePoint 1890 918 1890 3, 99 / 100),
    (regimePoint 1890 925 1890 2, 99 / 100)]

/-- The first bin of the regime answers for the second. -/
theorem regime_accepts_unqualified :
    ¬ RegimeReconciled (regimePoint 1860 925 1890 3) repairedFrontier 3 (85 / 100) := by
  intro h
  have hnone : f2RegimeCandidateRefusal (regimePoint 1860 925 1890 3) repairedFrontier true 3
      (85 / 100) = none := by decide +kernel
  obtain ⟨supportMhz, haccepted⟩ := h.accepted hnone
  obtain ⟨_, _, ⟨⟩, ⟨⟩, -, ⟨hle, -⟩ | ⟨-, hge, -, hleast⟩⟩ := haccepted.support
  · exact absurd hle (by decide)
  · have hle := hleast (regimePoint 1890 925 1890 2, 99 / 100) (by decide +kernel) 1890 rfl
      (by decide)
    obtain rfl : supportMhz = 1890 := le_antisymm hle hge
    have hqualified := haccepted.regime (regimePoint 1890 925 1890 2, 99 / 100)
      (by decide +kernel) rfl
    exact absurd hqualified (by decide +kernel)

end Nidavellir

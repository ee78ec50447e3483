import Nidavellir.F2Observation
import Nidavellir.Lib.Extremes
import Mathlib.Algebra.Order.Field.Rat
import Mathlib.Data.Finset.Basic

namespace Nidavellir

open Extremes

/-- A target clock and the VF bin that Apply writes for it. -/
abbrev ApplyPair := Nat × Nat

/-- A measured operating point, as far as the Forge selects and publishes it; every power and
ratio is the exact value of the finite float. -/
structure PowerSweepPoint where
  voltageMv : Nat := 0
  clockMhz : Nat
  offsetMhz : Int
  powerW : ℚ := 0
  maxPowerW : ℚ
  powerP99W : Option ℚ := none
  powerCappedFrac : ℚ := 0
  perfPerWatt : ℚ := 0
  vfTableVoltageMv : Option Nat
  boundaryVoltageMv : Option Nat := none
  applyMarginMv : Option Nat := none
  baseApplyMv : Option Nat := none
  p5ClockMhz : Option Nat := none
  p95ClockMhz : Option Nat := none
  targetClockMhz : Option Nat := none
  confidence : Option ℚ := none
  validationCount : Option Nat := none
  applyQualified : Bool := false
  applyQualificationVersion : Option Nat := none
deriving DecidableEq

/-- Points with the confidence the frontier gave them. -/
abbrev Classified := List (PowerSweepPoint × ℚ)

def PowerSweepPoint.target (point : PowerSweepPoint) : Nat :=
  point.targetClockMhz.getD point.clockMhz

def PowerSweepPoint.sustained (point : PowerSweepPoint) : Nat :=
  point.p5ClockMhz.getD point.clockMhz

/-- What synthesis and the dominance test score: p99 once a boundary was learned. -/
def PowerSweepPoint.selectionPower (point : PowerSweepPoint) : ℚ :=
  if point.boundaryVoltageMv.isSome then point.powerP99W.getD 0 else point.powerW

/-- Approved by the exact-Apply gate under the current contract. -/
def PowerSweepPoint.approved (point : PowerSweepPoint) : Bool :=
  point.applyQualified && point.applyQualificationVersion == some f2QualificationContractVersion

def f2ApplyKey (point : PowerSweepPoint) : Option ApplyPair :=
  point.vfTableVoltageMv.map fun mv => (point.target, mv)

def f2UniqueProfilePoints (profiles : List (Option PowerSweepPoint)) : List PowerSweepPoint :=
  go [] (profiles.filterMap id)
where
  go (seen : List ApplyPair) : List PowerSweepPoint → List PowerSweepPoint
    | [] => []
    | point :: rest =>
      match f2ApplyKey point with
      | none => go seen rest
      | some key => if key ∈ seen then go seen rest else point :: go (key :: seen) rest

def powerHeadroomFrac : ℚ := 6 / 100

def offCapCeilingW (powerLimitW : ℚ) : ℚ := powerLimitW * (1 - powerHeadroomFrac)

/-- An unknown cap lets every point pass; a known one refuses a point without a measurement. -/
def isOffCapSafe (point : PowerSweepPoint) (powerLimitW : ℚ) : Bool :=
  if powerLimitW ≤ 0 then true
  else
    let estimatedW := max point.maxPowerW (point.powerP99W.getD 0)
    decide (0 < estimatedW) && decide (estimatedW ≤ offCapCeilingW powerLimitW)

def f2ApprovedDominator (candidate : PowerSweepPoint) (classified : Classified) :
    Option ApplyPair := do
  let candKey ← f2ApplyKey candidate
  let candPower := candidate.selectionPower
  if candPower ≤ 0 then none
  else
    let approved := (classified.map Prod.fst).filter fun p =>
      p.approved && (f2ApplyKey p).any (· != candKey)
    let dominator ← approved.find? fun p =>
      decide (candidate.sustained ≤ p.sustained) && decide (0 < p.selectionPower) &&
        decide (p.selectionPower ≤ candPower)
    f2ApplyKey dominator

/-- The template of a candidate at the voltage where a faster clock was exhausted. -/
def f2GodforgeFastDropCandidate (classified : Classified) (excluded : Finset ApplyPair)
    (exhaustedKey : ApplyPair) : Option (PowerSweepPoint × ℚ) := do
  let nextTarget ← ((classified.filterMap fun entry =>
    (f2ApplyKey entry.1).map Prod.fst).filter (· < exhaustedKey.1)).max?
  let (template, confidence) ← maxByKey Prod.snd
    (classified.filter fun entry => entry.1.target == nextTarget)
  if (nextTarget, exhaustedKey.2) ∈ excluded then none
  else
    some ({ template with
      vfTableVoltageMv := some exhaustedKey.2
      applyMarginMv := template.boundaryVoltageMv.map (exhaustedKey.2 - ·)
      applyQualified := false
      applyQualificationVersion := none }, confidence)

def replaceFirst (candidate : PowerSweepPoint × ℚ) (key : ApplyPair) : Classified → Classified
  | [] => []
  | entry :: rest =>
    if f2ApplyKey entry.1 = some key then (candidate.1, max candidate.2 entry.2) :: rest
    else entry :: replaceFirst candidate key rest

def f2UpsertClassifiedCandidate (classified : Classified) (candidate : PowerSweepPoint × ℚ) :
    Classified :=
  match f2ApplyKey candidate.1 with
  | none => classified ++ [candidate]
  | some key =>
    if classified.any fun entry => f2ApplyKey entry.1 == some key then
      replaceFirst candidate key classified
    else classified ++ [candidate]

/-- The Apply pairs of the points that have one. -/
def keysOf (classified : Classified) : List ApplyPair :=
  classified.filterMap fun entry => f2ApplyKey entry.1

theorem mem_keysOf {classified : Classified} {key : ApplyPair} :
    key ∈ keysOf classified ↔ ∃ entry ∈ classified, f2ApplyKey entry.1 = some key :=
  List.mem_filterMap

theorem f2ApplyKey_eq_some {point : PowerSweepPoint} {key : ApplyPair} :
    f2ApplyKey point = some key ↔
      point.target = key.1 ∧ point.vfTableVoltageMv = some key.2 := by
  rw [f2ApplyKey, Option.map_eq_some_iff]
  constructor
  · rintro ⟨mv, hmv, rfl⟩
    exact ⟨rfl, hmv⟩
  · rintro ⟨htarget, hmv⟩
    exact ⟨key.2, hmv, by rw [htarget]⟩

/-- A dominator is an approved entry of another pair, no slower and drawing no more. -/
theorem f2ApprovedDominator_spec {candidate : PowerSweepPoint} {classified : Classified}
    {key : ApplyPair} (h : f2ApprovedDominator candidate classified = some key) :
    ∃ entry ∈ classified, f2ApplyKey entry.1 = some key ∧ entry.1.approved = true ∧
      f2ApplyKey candidate ≠ some key ∧ candidate.sustained ≤ entry.1.sustained ∧
      0 < entry.1.selectionPower ∧ entry.1.selectionPower ≤ candidate.selectionPower := by
  unfold f2ApprovedDominator at h
  obtain ⟨candKey, hcand, h⟩ := Option.bind_eq_some_iff.mp h
  simp only at h
  split at h
  next => cases h
  next =>
    obtain ⟨dominator, hfind, hkey⟩ := Option.bind_eq_some_iff.mp h
    have hmem := List.mem_of_find?_eq_some hfind
    have hbest := List.find?_some hfind
    rw [List.mem_filter, Bool.and_eq_true, hkey] at hmem
    obtain ⟨hmem, happroved, hother⟩ := hmem
    obtain ⟨entry, hentry, rfl⟩ := List.mem_map.mp hmem
    rw [Bool.and_eq_true, Bool.and_eq_true, decide_eq_true_eq, decide_eq_true_eq,
      decide_eq_true_eq] at hbest
    obtain ⟨⟨hclock, hpositive⟩, hpower⟩ := hbest
    refine ⟨entry, hentry, hkey, happroved, fun heq => ?_, hclock, hpositive, hpower⟩
    obtain rfl : candKey = key := Option.some.inj (hcand.symm.trans heq)
    simp at hother

section Unique

variable {profiles : List (Option PowerSweepPoint)} {points : List PowerSweepPoint}
  {seen : List ApplyPair}

theorem f2UniqueProfilePoints.length_go_le :
    (f2UniqueProfilePoints.go seen points).length ≤ points.length := by
  induction points generalizing seen with
  | nil => simp [go]
  | cons point rest ih =>
    have hstep := @ih seen
    rw [go]
    split
    next => exact Nat.le_succ_of_le hstep
    next key _ =>
      have hseen := @ih (key :: seen)
      split
      next => exact Nat.le_succ_of_le hstep
      next => simpa using hseen

theorem f2UniqueProfilePoints.mem_of_mem_go {point : PowerSweepPoint}
    (h : point ∈ go seen points) :
    point ∈ points ∧ ∃ key, f2ApplyKey point = some key := by
  induction points generalizing seen with
  | nil => simp [go] at h
  | cons head rest ih =>
    rw [go] at h
    split at h
    next =>
      obtain ⟨hmem, hkey⟩ := ih h
      exact ⟨List.mem_cons_of_mem _ hmem, hkey⟩
    next key hkey =>
      split at h
      next =>
        obtain ⟨hmem, hsome⟩ := ih h
        exact ⟨List.mem_cons_of_mem _ hmem, hsome⟩
      next =>
        rcases List.mem_cons.mp h with rfl | h
        · exact ⟨List.mem_cons_self, key, hkey⟩
        · obtain ⟨hmem, hsome⟩ := ih h
          exact ⟨List.mem_cons_of_mem _ hmem, hsome⟩

/-- A key not seen before is that of a point that stays. -/
theorem f2UniqueProfilePoints.exists_mem_go {point : PowerSweepPoint} {key : ApplyPair}
    (hmem : point ∈ points) (hkey : f2ApplyKey point = some key) (hnew : key ∉ seen) :
    ∃ kept ∈ go seen points, f2ApplyKey kept = some key := by
  induction points generalizing seen with
  | nil => simp at hmem
  | cons head rest ih =>
    rw [go]
    split
    next hhead =>
      rcases List.mem_cons.mp hmem with rfl | hrest
      · simp [hkey] at hhead
      · exact ih hrest hnew
    next key' hhead =>
      split
      next hseen =>
        rcases List.mem_cons.mp hmem with rfl | hrest
        · obtain rfl : key = key' := Option.some.inj (hkey.symm.trans hhead)
          exact absurd hseen hnew
        · exact ih hrest hnew
      next =>
        by_cases heq : key = key'
        · subst heq
          exact ⟨head, List.mem_cons_self, hhead⟩
        · rcases List.mem_cons.mp hmem with rfl | hrest
          · exact absurd (Option.some.inj (hkey.symm.trans hhead)) heq
          · have hunseen : key ∉ key' :: seen := by simp [heq, hnew]
            obtain ⟨kept, hkept, hk⟩ := ih hrest hunseen
            exact ⟨kept, List.mem_cons_of_mem _ hkept, hk⟩

theorem length_f2UniqueProfilePoints_le :
    (f2UniqueProfilePoints profiles).length ≤ profiles.length :=
  f2UniqueProfilePoints.length_go_le.trans (List.length_filterMap_le _ _)

theorem mem_f2UniqueProfilePoints {point : PowerSweepPoint}
    (h : point ∈ f2UniqueProfilePoints profiles) :
    some point ∈ profiles ∧ ∃ key, f2ApplyKey point = some key := by
  obtain ⟨hmem, hkey⟩ := f2UniqueProfilePoints.mem_of_mem_go h
  exact ⟨by simpa using hmem, hkey⟩

theorem exists_mem_f2UniqueProfilePoints {point : PowerSweepPoint} {key : ApplyPair}
    (hmem : some point ∈ profiles) (hkey : f2ApplyKey point = some key) :
    ∃ kept ∈ f2UniqueProfilePoints profiles, f2ApplyKey kept = some key :=
  f2UniqueProfilePoints.exists_mem_go (by simpa using hmem) hkey List.not_mem_nil

end Unique

section Upsert

variable {classified : Classified} {candidate entry : PowerSweepPoint × ℚ} {pair : ApplyPair}

theorem mem_replaceFirst (h : entry ∈ replaceFirst candidate pair classified) :
    entry ∈ classified ∨ entry.1 = candidate.1 := by
  induction classified with
  | nil => simp [replaceFirst] at h
  | cons head rest ih =>
    rw [replaceFirst] at h
    split at h
    next =>
      rcases List.mem_cons.mp h with rfl | hrest
      · exact .inr rfl
      · exact .inl (List.mem_cons_of_mem _ hrest)
    next =>
      rcases List.mem_cons.mp h with rfl | hrest
      · exact .inl List.mem_cons_self
      · exact (ih hrest).imp (List.mem_cons_of_mem _) id

theorem keysOf_replaceFirst (hkey : f2ApplyKey candidate.1 = some pair) :
    keysOf (replaceFirst candidate pair classified) = keysOf classified := by
  induction classified with
  | nil => rfl
  | cons head rest ih =>
    rw [replaceFirst]
    split
    next hhead => simp [keysOf, hkey, hhead]
    next => simpa [keysOf, List.filterMap_cons] using by rw [← keysOf, ih, keysOf]

theorem mem_f2UpsertClassifiedCandidate
    (h : entry ∈ f2UpsertClassifiedCandidate classified candidate) :
    entry ∈ classified ∨ entry.1 = candidate.1 := by
  unfold f2UpsertClassifiedCandidate at h
  have happend (h : entry ∈ classified ++ [candidate]) :
      entry ∈ classified ∨ entry.1 = candidate.1 := by
    rcases List.mem_append.mp h with h | h
    · exact .inl h
    · exact .inr (congrArg Prod.fst (List.mem_singleton.mp h))
  split at h
  next => exact happend h
  next =>
    split at h
    next => exact mem_replaceFirst h
    next => exact happend h

theorem keysOf_f2UpsertClassifiedCandidate (hkey : f2ApplyKey candidate.1 = some pair) :
    keysOf (f2UpsertClassifiedCandidate classified candidate) =
      if pair ∈ keysOf classified then keysOf classified else keysOf classified ++ [pair] := by
  have hany : (classified.any fun entry => f2ApplyKey entry.1 == some pair) = true ↔
      pair ∈ keysOf classified := by
    simp [mem_keysOf]
  rw [f2UpsertClassifiedCandidate, hkey]
  by_cases h : pair ∈ keysOf classified
  · rw [if_pos h]
    simp only [hany.mpr h, if_true]
    exact keysOf_replaceFirst hkey
  · rw [if_neg h]
    simp only [mt hany.mp h]
    simp [keysOf, hkey]

theorem mem_keysOf_upsert (hkey : f2ApplyKey candidate.1 = some pair) {key : ApplyPair} :
    key ∈ keysOf (f2UpsertClassifiedCandidate classified candidate) ↔
      key ∈ keysOf classified ∨ key = pair := by
  rw [keysOf_f2UpsertClassifiedCandidate hkey]
  split
  next h =>
    refine ⟨.inl, ?_⟩
    rintro (hmem | rfl)
    · exact hmem
    · exact h
  next => rw [List.mem_append, List.mem_singleton]

theorem nodup_keysOf_upsert (hkey : f2ApplyKey candidate.1 = some pair)
    (hnodup : (keysOf classified).Nodup) :
    (keysOf (f2UpsertClassifiedCandidate classified candidate)).Nodup := by
  rw [keysOf_f2UpsertClassifiedCandidate hkey]
  split
  next => exact hnodup
  next h =>
    refine List.nodup_append.mpr ⟨hnodup, List.nodup_singleton _, fun key hkey new hnew heq => ?_⟩
    rw [List.mem_singleton] at hnew
    exact h (hnew ▸ heq ▸ hkey)

end Upsert

/-- A fast-drop candidate keeps the exhausted voltage and the clock of a point below it. -/
theorem f2GodforgeFastDropCandidate_spec {classified : Classified} {excluded : Finset ApplyPair}
    {exhaustedKey : ApplyPair} {carried : PowerSweepPoint} {confidence : ℚ}
    (h : f2GodforgeFastDropCandidate classified excluded exhaustedKey =
      some (carried, confidence)) :
    f2ApplyKey carried = some (carried.target, exhaustedKey.2) ∧
      (∃ key ∈ keysOf classified, key.1 = carried.target) ∧
      carried.target < exhaustedKey.1 ∧ (carried.target, exhaustedKey.2) ∉ excluded := by
  unfold f2GodforgeFastDropCandidate at h
  obtain ⟨nextTarget, hnext, h⟩ := Option.bind_eq_some_iff.mp h
  obtain ⟨⟨template, confidence'⟩, htemplate, h⟩ := Option.bind_eq_some_iff.mp h
  obtain ⟨hmem, -⟩ := List.max?_eq_some_iff.mp hnext
  rw [List.mem_filter, List.mem_filterMap, decide_eq_true_eq] at hmem
  obtain ⟨⟨entry, hentry, hkey⟩, hlt⟩ := hmem
  obtain ⟨key, hkey, hfst⟩ := Option.map_eq_some_iff.mp hkey
  have htarget : template.target = nextTarget := by
    have hfilter := maxByKey_mem htemplate
    simpa using (List.mem_filter.mp hfilter).2
  simp only at h
  split at h
  next => simp at h
  next hexcluded =>
    obtain ⟨rfl, -⟩ := Prod.mk.inj (Option.some.inj h)
    have hcarried : (PowerSweepPoint.target { template with
        vfTableVoltageMv := some exhaustedKey.2
        applyMarginMv := template.boundaryVoltageMv.map (exhaustedKey.2 - ·)
        applyQualified := false
        applyQualificationVersion := none }) = nextTarget := htarget
    refine ⟨f2ApplyKey_eq_some.mpr ⟨rfl, rfl⟩, ?_, ?_, ?_⟩
    · exact ⟨key, mem_keysOf.mpr ⟨entry, hentry, hkey⟩, hfst.trans hcarried.symm⟩
    · rw [hcarried]
      exact hlt
    · rw [hcarried]
      exact hexcluded

/-- No clock of the frontier lies between a fast-drop candidate and the exhausted one. -/
theorem f2GodforgeFastDropCandidate_next {classified : Classified} {excluded : Finset ApplyPair}
    {exhaustedKey : ApplyPair} {carried : PowerSweepPoint} {confidence : ℚ}
    (h : f2GodforgeFastDropCandidate classified excluded exhaustedKey =
      some (carried, confidence)) :
    ∀ key ∈ keysOf classified, key.1 < exhaustedKey.1 → key.1 ≤ carried.target := by
  unfold f2GodforgeFastDropCandidate at h
  obtain ⟨nextTarget, hnext, h⟩ := Option.bind_eq_some_iff.mp h
  obtain ⟨⟨template, confidence'⟩, htemplate, h⟩ := Option.bind_eq_some_iff.mp h
  obtain ⟨-, hgreatest⟩ := List.max?_eq_some_iff.mp hnext
  have htarget : template.target = nextTarget := by
    have hfilter := maxByKey_mem htemplate
    simpa using (List.mem_filter.mp hfilter).2
  simp only at h
  split at h
  next => simp at h
  next =>
    obtain ⟨rfl, -⟩ := Prod.mk.inj (Option.some.inj h)
    intro key hkey hlt
    obtain ⟨entry, hentry, hentryKey⟩ := mem_keysOf.mp hkey
    refine (hgreatest key.1 (List.mem_filter.mpr ⟨?_, by simpa using hlt⟩)).trans htarget.ge
    exact List.mem_filterMap.mpr ⟨entry, hentry, by rw [hentryKey]; rfl⟩

structure F2RegimeSupport where
  observedP95Mhz : Nat
  supportTargetMhz : Nat
  requiredApplyMv : Nat
deriving DecidableEq, Repr

def f2BoundaryPointIsQualified (point : PowerSweepPoint) (requiredConfirmations : Nat)
    (confidenceThreshold : ℚ) : Bool :=
  decide (requiredConfirmations ≤ point.validationCount.getD 0) &&
    decide (confidenceThreshold ≤ point.confidence.getD 0)

/-- The nearest measured target at or above the p95 of the point, and the greatest Apply bin,
before any lift, of the targets up to it. -/
def f2RegimeSupport (point : PowerSweepPoint) (frontier : Classified) :
    Except String F2RegimeSupport :=
  match point.targetClockMhz with
  | none => .error "candidate has no configured target"
  | some targetMhz =>
    match point.p95ClockMhz.filter (0 < ·) with
    | none => .error "candidate has no measured p95"
    | some observedP95Mhz =>
      let support :=
        if targetMhz < observedP95Mhz then
          ((frontier.filterMap fun entry => entry.1.targetClockMhz).filter
            (observedP95Mhz ≤ ·)).min?
        else some targetMhz
      match support with
      | none => .error "no measured target supports the observed p95 regime"
      | some supportTargetMhz =>
        let required := (frontier.filterMap fun entry => do
          let candidateTarget ← entry.1.targetClockMhz
          let applyMv ← entry.1.baseApplyMv <|> entry.1.vfTableVoltageMv
          if targetMhz ≤ candidateTarget ∧ candidateTarget ≤ supportTargetMhz then some applyMv
          else none).max?
        match required with
        | none => .error "observed p95 regime has no measured Apply anchor"
        | some requiredApplyMv => .ok { observedP95Mhz, supportTargetMhz, requiredApplyMv }

def f2RegimeCandidateRefusal (point : PowerSweepPoint) (frontier : Classified)
    (requireBoundaryQualification : Bool) (requiredConfirmations : Nat)
    (confidenceThreshold : ℚ) : Option String :=
  let qualified (candidate : PowerSweepPoint) : Bool :=
    f2BoundaryPointIsQualified candidate requiredConfirmations confidenceThreshold
  if requireBoundaryQualification && !qualified point then
    some "its own frontier boundary lacks current Texture Hop v13-r3 qualification"
  else
    match f2RegimeSupport point frontier with
    | .error reason => some reason
    | .ok support =>
      let supportPoint := (frontier.map Prod.fst).find? fun candidate =>
        candidate.targetClockMhz == some support.supportTargetMhz
      if requireBoundaryQualification && !supportPoint.any qualified then
        some (toString support.observedP95Mhz ++ " MHz p95 maps to " ++
          toString support.supportTargetMhz ++
          " MHz, whose frontier is failed or inconclusive")
      else
        match point.vfTableVoltageMv with
        | none => some "candidate has no exact Apply anchor"
        | some applyMv =>
          if applyMv < support.requiredApplyMv then
            some (toString point.target ++ " MHz target sustains p95 " ++
              toString support.observedP95Mhz ++ " MHz but Apply " ++ toString applyMv ++
              " mV is below the " ++ toString support.requiredApplyMv ++
              " mV required by the " ++ toString support.supportTargetMhz ++ " MHz regime")
          else none

/-- The pairs at or below the failed voltage whose regime is the failed target. -/
def f2RegimeDependentApplyKeys (failedKey : ApplyPair) (frontier : Classified) :
    List ApplyPair :=
  frontier.filterMap fun entry => do
    let key ← f2ApplyKey entry.1
    let support ← (f2RegimeSupport entry.1 frontier).toOption
    if key ≠ failedKey ∧ support.supportTargetMhz = failedKey.1 ∧ key.2 ≤ failedKey.2 then
      some key
    else none

end Nidavellir

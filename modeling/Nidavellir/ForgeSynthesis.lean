import Nidavellir.ForgePoint
import Mathlib.Data.Prod.Lex

namespace Nidavellir

open Extremes

/-- The thresholds of profile synthesis. -/
structure ForgePolicy where
  brokkrsMinClockFrac : ℚ
  deepCalmMinClockFrac : ℚ
  confidenceThreshold : ℚ

def ForgePolicy.balanced : ForgePolicy where
  brokkrsMinClockFrac := 95 / 100
  deepCalmMinClockFrac := 90 / 100
  confidenceThreshold := 85 / 100

structure ForgeProfiles where
  godforge : Option PowerSweepPoint
  brokkrs : Option PowerSweepPoint
  deepCalm : Option PowerSweepPoint
  powerBoundExcluded : Nat
  powerBoundCollapse : Bool
deriving DecidableEq

def ForgeProfiles.all (self : ForgeProfiles) : List (Option PowerSweepPoint) :=
  [self.godforge, self.brokkrs, self.deepCalm]

def powerBoundFrac : ℚ := 95 / 100

def minUsefulFrontierPoints : Nat := 2

def isPowerBoundFrac (f : ℚ) : Bool :=
  decide (0 ≤ f) && decide (f ≤ 1) && decide (powerBoundFrac ≤ f)

def isPowerBoundPoint (p : PowerSweepPoint) : Bool := isPowerBoundFrac p.powerCappedFrac

def usefulFrontierPoints (frontier : Classified) : Classified :=
  frontier.filter fun entry => !isPowerBoundPoint entry.1

def frontierPowerBoundCollapse (frontier : Classified) : Bool :=
  !frontier.isEmpty && (frontier.any fun entry => isPowerBoundPoint entry.1) &&
    decide ((usefulFrontierPoints frontier).length < minUsefulFrontierPoints)

/-- The points synthesis works on: power-bound ones only when too few others remain. -/
def workingFrontier (frontier : Classified) : Classified :=
  if frontier.length - (usefulFrontierPoints frontier).length = 0 then frontier
  else if frontierPowerBoundCollapse frontier then frontier
  else usefulFrontierPoints frontier

/-- The points of enough confidence, or all when none has it. -/
def trustedPool (working : Classified) (policy : ForgePolicy) : Classified :=
  let trusted := working.filter fun entry => decide (policy.confidenceThreshold ≤ entry.2)
  if trusted.isEmpty then working else trusted

def offCapPool (pool : Classified) (powerLimitW : ℚ) : Classified :=
  if 0 < powerLimitW then pool.filter fun entry => isOffCapSafe entry.1 powerLimitW else pool

def efficiency (p : PowerSweepPoint) : ℚ :=
  if 0 < p.selectionPower then p.sustained / p.selectionPower else 0

/-- The highest sustained clock; of several, the one that draws least. -/
def selectGodforge (pool : Classified) : Option (PowerSweepPoint × ℚ) :=
  maxByKey (fun entry => toLex (entry.1.sustained, -entry.1.selectionPower)) pool

def selectDeepCalm (pool : Classified) (policy : ForgePolicy) (godforge : PowerSweepPoint) :
    Option (PowerSweepPoint × ℚ) :=
  maxByKey (fun entry => efficiency entry.1) (pool.filter fun entry =>
    decide (godforge.sustained * policy.deepCalmMinClockFrac ≤ (entry.1.sustained : ℚ)))

/-- Power saved for each share of clock lost, against Godforge. -/
def benefit (godforge p : PowerSweepPoint) : ℚ :=
  let clockLost := ((godforge.sustained : ℚ) - p.sustained) / godforge.sustained
  let powerSaved := (godforge.selectionPower - p.selectionPower) / godforge.selectionPower
  if 0 < clockLost then powerSaved / clockLost else 0

def selectBrokkrs (pool : Classified) (policy : ForgePolicy) (godforge : PowerSweepPoint) :
    Option (PowerSweepPoint × ℚ) :=
  maxByKey (fun entry => benefit godforge entry.1) (pool.filter fun entry =>
    decide (godforge.sustained * policy.brokkrsMinClockFrac ≤ (entry.1.sustained : ℚ)) &&
      decide (entry.1.sustained < godforge.sustained) &&
      decide (entry.1.selectionPower < godforge.selectionPower))

def synthesizeForgeProfilesCapped (frontier : Classified) (policy : ForgePolicy)
    (powerLimitW : ℚ) : ForgeProfiles :=
  let powerBoundExcluded := frontier.length - (usefulFrontierPoints frontier).length
  let powerBoundCollapse := frontierPowerBoundCollapse frontier
  let pool := offCapPool (trustedPool (workingFrontier frontier) policy) powerLimitW
  match selectGodforge pool with
  | none =>
    { godforge := none, brokkrs := none, deepCalm := none, powerBoundExcluded,
      powerBoundCollapse }
  | some godforge =>
    let deepCalm := (selectDeepCalm pool policy godforge.1).getD godforge
    let brokkrs := (selectBrokkrs pool policy godforge.1).getD godforge
    { godforge := some godforge.1, brokkrs := some brokkrs.1, deepCalm := some deepCalm.1,
      powerBoundExcluded, powerBoundCollapse }

def f2ApplyGodforgeOverride (profiles : ForgeProfiles) (eligible : Classified)
    (preferred : Option ApplyPair) (powerLimitW : ℚ) : ForgeProfiles :=
  match preferred with
  | none => profiles
  | some preferred =>
    match (eligible.map Prod.fst).find? fun point =>
        f2ApplyKey point == some preferred && isOffCapSafe point powerLimitW with
    | none => profiles
    | some point => { profiles with godforge := some point }

inductive F2ProfileRole
  | godforge
  | brokkrs
  | deepCalm
deriving DecidableEq

def f2ProfileRole (profiles : ForgeProfiles) (key : ApplyPair) : F2ProfileRole :=
  if profiles.godforge.bind f2ApplyKey = some key then .godforge
  else if profiles.brokkrs.bind f2ApplyKey = some key then .brokkrs
  else .deepCalm

/-- An index of the VF curve with the voltage and the base clock of its bin. -/
abbrev VfBin := Nat × Nat × Nat

def VfBin.mv (bin : VfBin) : Nat := bin.2.1

def f2PreviousRealBin (saneCurve : List VfBin) (belowMv : Nat) : Option Nat :=
  ((saneCurve.map VfBin.mv).filter (· < belowMv)).max?

/-- How far a profile may climb: Brokkr's and Deep Calm stay one real bin below the profiles
above them. -/
def f2ProfileRepairMaxMv (role : F2ProfileRole) (profiles : ForgeProfiles)
    (currentKey : ApplyPair) (saneCurve : List VfBin) : Nat :=
  let physicalMax := (saneCurve.map VfBin.mv).max?.getD 0
  let upper := match role with
    | .godforge => []
    | .brokkrs => [profiles.godforge]
    | .deepCalm => [profiles.godforge, profiles.brokkrs]
  let upperKeys := upper.filterMap fun point => point.bind f2ApplyKey
  match ((upperKeys.filter (· ≠ currentKey)).map Prod.snd).min? with
  | none => physicalMax
  | some upperMv => (f2PreviousRealBin saneCurve upperMv).getD 0

section Members

variable {frontier pool : Classified} {policy : ForgePolicy} {powerLimitW : ℚ}
  {entry : PowerSweepPoint × ℚ}

theorem mem_workingFrontier (h : entry ∈ workingFrontier frontier) : entry ∈ frontier := by
  unfold workingFrontier at h
  split at h
  next => exact h
  next =>
    split at h
    next => exact h
    next => exact List.mem_of_mem_filter h

theorem mem_trustedPool (h : entry ∈ trustedPool frontier policy) : entry ∈ frontier := by
  unfold trustedPool at h
  simp only at h
  split at h
  next => exact h
  next => exact List.mem_of_mem_filter h

theorem mem_offCapPool (h : entry ∈ offCapPool pool powerLimitW) :
    entry ∈ pool ∧ isOffCapSafe entry.1 powerLimitW = true := by
  unfold offCapPool at h
  split at h
  next => exact ⟨List.mem_of_mem_filter h, (List.mem_filter.mp h).2⟩
  next hlimit => exact ⟨h, by rw [isOffCapSafe, if_pos (not_lt.mp hlimit)]⟩

theorem mem_selectGodforge (h : selectGodforge pool = some entry) : entry ∈ pool :=
  maxByKey_mem h

theorem mem_selectDeepCalm {godforge : PowerSweepPoint}
    (h : selectDeepCalm pool policy godforge = some entry) : entry ∈ pool :=
  List.mem_of_mem_filter (maxByKey_mem h)

theorem mem_selectBrokkrs {godforge : PowerSweepPoint}
    (h : selectBrokkrs pool policy godforge = some entry) : entry ∈ pool :=
  List.mem_of_mem_filter (maxByKey_mem h)

/-- Every profile is an off-cap safe point of the frontier. -/
theorem mem_synthesizeForgeProfilesCapped {point : PowerSweepPoint}
    (h : some point ∈ (synthesizeForgeProfilesCapped frontier policy powerLimitW).all) :
    (∃ confidence, (point, confidence) ∈ frontier) ∧ isOffCapSafe point powerLimitW = true := by
  have hpool {entry : PowerSweepPoint × ℚ}
      (hmem : entry ∈ offCapPool (trustedPool (workingFrontier frontier) policy) powerLimitW) :
      (∃ confidence, (entry.1, confidence) ∈ frontier) ∧
        isOffCapSafe entry.1 powerLimitW = true := by
    obtain ⟨hmem, hsafe⟩ := mem_offCapPool hmem
    exact ⟨⟨entry.2, mem_workingFrontier (mem_trustedPool hmem)⟩, hsafe⟩
  unfold synthesizeForgeProfilesCapped at h
  simp only at h
  split at h
  next => simp [ForgeProfiles.all] at h
  next godforge hgodforge =>
    have hgod := mem_selectGodforge hgodforge
    simp only [ForgeProfiles.all, List.mem_cons, Option.some.injEq, List.not_mem_nil,
      or_false] at h
    rcases h with rfl | rfl | rfl
    · exact hpool hgod
    · cases hb : selectBrokkrs (offCapPool (trustedPool (workingFrontier frontier) policy)
        powerLimitW) policy godforge.1 with
      | none => simpa using hpool hgod
      | some brokkrs => simpa using hpool (mem_selectBrokkrs hb)
    · cases hd : selectDeepCalm (offCapPool (trustedPool (workingFrontier frontier) policy)
        powerLimitW) policy godforge.1 with
      | none => simpa using hpool hgod
      | some deepCalm => simpa using hpool (mem_selectDeepCalm hd)

theorem mem_f2ApplyGodforgeOverride {profiles : ForgeProfiles} {eligible : Classified}
    {preferred : Option ApplyPair} {point : PowerSweepPoint}
    (h : some point ∈ (f2ApplyGodforgeOverride profiles eligible preferred powerLimitW).all) :
    some point ∈ profiles.all ∨
      (∃ confidence, (point, confidence) ∈ eligible) ∧
        isOffCapSafe point powerLimitW = true := by
  unfold f2ApplyGodforgeOverride at h
  split at h
  next => exact .inl h
  next preferred =>
    split at h
    next => exact .inl h
    next chosen hchosen =>
      simp only [ForgeProfiles.all, List.mem_cons, List.not_mem_nil, or_false] at h
      rcases h with h | h | h
      · obtain rfl := Option.some.inj h
        obtain ⟨entry, hentry, hfst⟩ := List.mem_map.mp (List.mem_of_find?_eq_some hchosen)
        have hsafe := List.find?_some hchosen
        rw [Bool.and_eq_true] at hsafe
        refine .inr ⟨⟨entry.2, ?_⟩, hsafe.2⟩
        rw [← hfst]
        exact hentry
      · exact .inl (by simp [ForgeProfiles.all, h])
      · exact .inl (by simp [ForgeProfiles.all, h])

end Members

end Nidavellir

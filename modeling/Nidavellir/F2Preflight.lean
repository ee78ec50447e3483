import Nidavellir.F2Sweep

namespace Nidavellir

structure PositiveOffsetLimits where
  absMaxOffsetMhz : Int
  stepMaxOffsetMhz : Int
  hwFloorMv : Nat
  clockCeilingMhz : Nat
deriving DecidableEq, Repr

def debugSteps : Option Nat → String
  | some steps => s!"Some({steps})"
  | none => "None"

def confirmedF2Refusal (record : SafeLoopRecord) (bootFlagArmed : Bool) (steps : Option Nat)
    (candidate : Option PositiveOffsetPlan) (limits : PositiveOffsetLimits) (targetMhz : Nat) :
    Option String :=
  if steps ≠ some 1 then
    some s!"confirmed F2 is single-step only — pass --steps 1 (got --steps {debugSteps steps})"
  else if record.safeMode then some "Safe Mode is active"
  else if bootFlagArmed then
    some "a Safe Loop boot flag is already armed (prior run did not clear)"
  else if record.consecutiveCrashes ≥ safeModeCrashThreshold then
    some (s!"consecutive_crashes {record.consecutiveCrashes} >= abort threshold " ++
      s!"{safeModeCrashThreshold}")
  else
    match candidate with
    | none => some "no valid candidate to confirm"
    | some cand =>
      if cand.offsetMhz ≤ 0 then
        some s!"candidate offset {cand.offsetMhz} <= 0 (not a positive raise)"
      else if cand.offsetMhz > limits.absMaxOffsetMhz then
        some (s!"candidate offset +{cand.offsetMhz} exceeds the absolute cap " ++
          s!"+{limits.absMaxOffsetMhz}")
      else if cand.stepDeltaMhz > limits.stepMaxOffsetMhz then
        some (s!"candidate per-step +{cand.stepDeltaMhz} exceeds the per-step cap " ++
          s!"+{limits.stepMaxOffsetMhz}")
      else if cand.voltageMv < limits.hwFloorMv then
        some (s!"candidate bin {cand.voltageMv} mV below the hardware floor " ++
          s!"{limits.hwFloorMv} mV")
      else if cand.effectiveMhz > limits.clockCeilingMhz then
        some (s!"candidate clock {cand.effectiveMhz} MHz exceeds the clock ceiling " ++
          s!"{limits.clockCeilingMhz} MHz")
      else if candidateBlacklisted record targetMhz cand then
        some "the candidate intent is blacklisted or below the field-learned voltage floor"
      else none

def confirmedManualPriorRefusal (record : SafeLoopRecord) (bootFlagArmed : Bool)
    (startMv : Option Nat) (steps : Option Nat) (candidate : Option PositiveOffsetPlan)
    (manualLimits : PositiveOffsetLimits) (targetMhz : Nat) : Option String :=
  if startMv.isNone then some "manual-prior requires an explicit --start-mv"
  else confirmedF2Refusal record bootFlagArmed steps candidate manualLimits targetMhz

def confirmedF2MultiRefusal (record : SafeLoopRecord) (bootFlagArmed : Bool)
    (steps : Option Nat) (candidateCount cap : Nat) : Option String :=
  match steps with
  | none =>
    some s!"confirmed anchored multi-step requires --steps between 1 and {cap} (got none)"
  | some n =>
    if n < 1 then some s!"confirmed anchored multi-step requires --steps >= 1 (got --steps {n})"
    else if n > cap then
      some (s!"confirmed anchored multi-step is capped at --steps {cap} (got --steps {n}) " ++
        "— fail closed")
    else if record.safeMode then some "Safe Mode is active"
    else if bootFlagArmed then
      some "a Safe Loop boot flag is already armed (prior run did not clear)"
    else if candidateCount = 0 then some "no anchored candidates to confirm"
    else none

def ledgerRefusal (condemned : CondemnedPairs) (targetMhz anchorMv : Nat) : Option String :=
  if condemned.refuses targetMhz anchorMv then
    some (s!"the candidate {targetMhz} MHz @ {anchorMv} mV VF is blacklisted by the durable " ++
      "condemnation ledger (rigid/quarantine floor)")
  else none

def chainedPrevOffset (candidates : List AnchoredPositiveOffsetPlan) (i : Nat)
    (baselineOffset : Int) : Int :=
  match i with
  | 0 => baselineOffset
  | p + 1 => candidates[p]?.elim baselineOffset fun prev => prev.anchor.offsetMhz

variable {record : SafeLoopRecord} {targetMhz : Nat} {cand : PositiveOffsetPlan}

theorem not_fieldPairBlacklisted_of_candidate (h : ¬ candidateBlacklisted record targetMhz cand) :
    ¬ fieldPairBlacklisted record targetMhz cand.voltageMv := by
  intro hpair
  exact h (by simp [candidateBlacklisted, hpair])

theorem ledgerRefusal_eq_none_iff {condemned : CondemnedPairs} {anchorMv : Nat} :
    ledgerRefusal condemned targetMhz anchorMv = none ↔
      ¬ condemned.refuses targetMhz anchorMv := by
  unfold ledgerRefusal
  by_cases hrefused : condemned.refuses targetMhz anchorMv
  · simp [hrefused]
  · simp [hrefused]

theorem ite_some_eq_none_iff {α : Type*} {p : Prop} [Decidable p] {a : α} {rest : Option α} :
    (if p then some a else rest) = none ↔ ¬ p ∧ rest = none := by
  by_cases hp : p
  · simp [hp]
  · simp [hp]

/-- What a passed preflight says of its candidate. -/
theorem confirmedF2Refusal_eq_none {bootFlagArmed : Bool} {steps : Option Nat}
    {limits : PositiveOffsetLimits} {candidate : Option PositiveOffsetPlan}
    (h : confirmedF2Refusal record bootFlagArmed steps candidate limits targetMhz = none) :
    ∃ cand, candidate = some cand ∧ ¬ candidateBlacklisted record targetMhz cand := by
  cases candidate with
  | none =>
    simp only [confirmedF2Refusal, ite_some_eq_none_iff] at h
    obtain ⟨-, -, -, -, hnone⟩ := h
    exact absurd hnone (by simp)
  | some cand =>
    simp only [confirmedF2Refusal, ite_some_eq_none_iff] at h
    obtain ⟨-, -, -, -, -, -, -, -, -, hadmits, -⟩ := h
    exact ⟨cand, rfl, hadmits⟩

theorem confirmedManualPriorRefusal_eq_none {bootFlagArmed : Bool} {startMv steps : Option Nat}
    {limits : PositiveOffsetLimits} {candidate : Option PositiveOffsetPlan}
    (h : confirmedManualPriorRefusal record bootFlagArmed startMv steps candidate limits
      targetMhz = none) :
    confirmedF2Refusal record bootFlagArmed steps candidate limits targetMhz = none := by
  unfold confirmedManualPriorRefusal at h
  split at h
  next => simp at h
  next => exact h

end Nidavellir

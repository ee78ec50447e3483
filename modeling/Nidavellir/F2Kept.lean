import Nidavellir.F2Calls
import Nidavellir.F2Transaction

namespace Nidavellir

open F2Ops F2MultiStepOps F2CandidateTransactionOps

variable {O : Type*} {I J : O → Prop} {ops : O}

/-- None of the seven operations of a confirmed step breaks `I`. -/
structure F2Kept [F2Ops O] (I : O → Prop) : Prop where
  armBootFlag : ∀ {ops}, I ops → I (armBootFlag ops).2
  applyPositiveOffset : ∀ {ops}, I ops → I (applyPositiveOffset ops).2
  verify : ∀ {ops}, I ops → I (F2Ops.verify ops).2
  dwell : ∀ {ops}, I ops → I (F2Ops.dwell ops).2
  resetToStock : ∀ {ops}, I ops → I (resetToStock ops).2
  clearBootFlag : ∀ {ops}, I ops → I (clearBootFlag ops).2
  blacklistPoint : ∀ countsAsCrash {ops}, I ops → I (blacklistPoint countsAsCrash ops).2

section Step

variable [F2Ops O]

theorem F2Kept.finishAfterWrite (h : F2Kept I) (hi : I ops) (r : F2StepReport)
    (blacklist : Bool) : I (finishAfterWrite ops r blacklist).2 := by
  have hreset := h.resetToStock hi
  have hlisted := h.blacklistPoint false hreset
  unfold Nidavellir.finishAfterWrite
  cases blacklist with
  | true =>
    have hcleared := h.clearBootFlag hlisted
    simp only [if_true]
    split
    next =>
      split
      next heq => split <;> simpa [heq] using hcleared
      next heq => simpa [heq] using hcleared
    next => exact hlisted
  | false =>
    have hcleared := h.clearBootFlag hreset
    simp only [Bool.false_eq_true, if_false]
    split
    next =>
      split
      next heq => split <;> simpa [heq] using hcleared
      next heq => simpa [heq] using hcleared
    next => exact hreset

theorem F2Kept.settleDwell (h : F2Kept I) (hi : I ops) (r : F2StepReport) (d : F2DwellOutcome) :
    I (settleDwell ops r d).2 := by
  cases d with
  | deviceLost => exact h.blacklistPoint true (h.resetToStock hi)
  | silentError => exact h.finishAfterWrite hi r true
  | unstable => exact h.finishAfterWrite hi r true
  | clockDrop => exact h.finishAfterWrite hi r false
  | inconclusive => exact h.finishAfterWrite hi r false
  | stable => exact h.finishAfterWrite hi r false

theorem F2Kept.runConfirmedF2Step [BuildEnv] (h : F2Kept I) (hi : I ops) :
    I (runConfirmedF2Step ops).2 := by
  have harmed := h.armBootFlag hi
  have happlied := h.applyPositiveOffset harmed
  have hverified := h.verify happlied
  have hdwelt := h.dwell hverified
  unfold Nidavellir.runConfirmedF2Step
  split
  next heq => exact h.resetToStock (by simpa [heq] using harmed)
  next heq =>
    simp only [heq] at happlied hverified hdwelt
    split
    next heq => exact h.finishAfterWrite (by simpa [heq] using happlied) _ _
    next heq =>
      simp only [heq] at hverified hdwelt
      simp only []
      split
      next => exact h.finishAfterWrite hverified _ _
      next => exact h.settleDwell hdwelt _ _

theorem F2Kept.clearAfterReset (h : F2Kept I) (hi : I ops) (reports : List F2StepReport) :
    I (clearAfterReset ops reports).2.2 := by
  have hcleared := h.clearBootFlag hi
  unfold Nidavellir.clearAfterReset
  split
  next heq => simpa [heq] using hcleared
  next heq => simpa [heq] using hcleared

theorem F2Kept.finishF2TransactionReports (h : F2Kept I) (hi : I ops)
    (reports : List F2StepReport) : I (finishF2TransactionReports ops reports).2.2 := by
  have hreset := h.resetToStock hi
  unfold Nidavellir.finishF2TransactionReports
  simp only []
  cases (reports.findIdx? fun report => report.outcome == .deviceLost).or
      (reports.findIdx? fun report => report.outcome.isBoundary) with
  | none =>
    simp only []
    split
    next => exact hreset
    next =>
      split
      next heq => simp at heq
      next => exact hreset
      next => exact h.clearAfterReset hreset _
  | some index =>
    have hlisted := fun countsAsCrash => h.blacklistPoint countsAsCrash hreset
    simp only []
    split
    next => exact hlisted _
    next =>
      split
      next => exact hlisted _
      next => exact hlisted _
      next => exact h.clearAfterReset (hlisted _) _

/-- The executor a transaction holds after its start, whether the start failed or not. -/
def startedOps : Except (O × F2StepReport × F2TransactionCleanup) (ActiveF2Candidate O) → O
  | .error (ops, _, _) => ops
  | .ok active => active.ops

theorem F2Kept.finishFailed (h : F2Kept I) (hi : I ops) (report : F2StepReport) :
    I (startedOps (match Nidavellir.finishF2TransactionReports ops [report] with
      | (reports, cleanup, ops) => .error (ops, reports.headD report, cleanup))) :=
  h.finishF2TransactionReports hi [report]

theorem F2Kept.beginF2CandidateTransaction [BuildEnv] (h : F2Kept I) (hi : I ops) :
    I (startedOps (beginF2CandidateTransaction ops)) := by
  have harmed := h.armBootFlag hi
  have happlied := h.applyPositiveOffset harmed
  have hverified := h.verify happlied
  unfold Nidavellir.beginF2CandidateTransaction
  split
  next heq => exact h.resetToStock (by simpa [heq] using harmed)
  next heq =>
    simp only [heq] at happlied hverified
    split
    next _ error ops₁ heq =>
      have hfailed : I ops₁ := by simpa [heq] using happlied
      exact h.finishFailed hfailed
        { emptyF2StepReport with armed := true, outcome := .applyFailed error }
    next ops₁ heq =>
      simp only [heq] at hverified
      simp only []
      split
      next =>
        exact h.finishFailed hverified
          { emptyF2StepReport with
            armed := true, applied := true, verify := some (F2Ops.verify ops₁).1
            outcome := .verifyFailed }
      next => exact hverified

end Step

section Transaction

variable [F2CandidateTransactionOps O]

theorem F2Kept.runPhases (h : F2Kept I)
    (hphase : ∀ dwellMs purpose {ops}, I ops → I (configurePhase dwellMs purpose ops))
    (phases : List (Nat × F2StressPurpose)) (active : ActiveF2Candidate O) (hi : I active.ops) :
    I (active.runPhases phases).2.ops := by
  induction phases generalizing active with
  | nil => exact hi
  | cons phase phases ih =>
    have hdwelt := h.dwell (hphase phase.1 phase.2 hi)
    exact ih _ hdwelt

theorem F2Kept.runF2Transaction [BuildEnv] (h : F2Kept I)
    (hphase : ∀ dwellMs purpose {ops}, I ops → I (configurePhase dwellMs purpose ops))
    (hi : I ops) (phases : List (Nat × F2StressPurpose))
    (collect : List F2StepReport → List F2StepReport) :
    I (runF2Transaction ops phases collect).ops := by
  have hstarted := h.beginF2CandidateTransaction hi
  unfold Nidavellir.runF2Transaction
  split
  next heq => simpa [heq, startedOps] using hstarted
  next active heq =>
    have hactive : I active.ops := by simpa [heq, startedOps] using hstarted
    exact h.finishF2TransactionReports (h.runPhases hphase phases active hactive) _

end Transaction

section Descent

variable [F2MultiStepOps O] [BuildEnv]

theorem F2Kept.runCandidates (h : F2Kept I) (hend : ∀ {ops}, I ops → J ops)
    (hselect : ∀ {i ops}, J ops →
      J (select i ops).2 ∧ ((select i ops).1 = .ok () → I (select i ops).2))
    (lastGoodIndex : Option Nat) (i remaining : Nat) (hj : J ops) :
    J (runCandidates ops lastGoodIndex i remaining).ops := by
  induction remaining generalizing ops lastGoodIndex i with
  | zero => exact hj
  | succ remaining ih =>
    have hselected := hselect (i := i) hj
    unfold Nidavellir.runCandidates
    split
    next heq => simpa [heq] using hselected.1
    next heq =>
      have hready := h.runConfirmedF2Step (hselected.2 (by rw [heq]))
      simp only [heq] at hready
      simp only []
      split
      next => exact hend hready
      next => exact ih _ _ (hend hready)

theorem F2Kept.runConfirmedF2MultiStep (h : F2Kept I) (hend : ∀ {ops}, I ops → J ops)
    (hselect : ∀ {i ops}, J ops →
      J (select i ops).2 ∧ ((select i ops).1 = .ok () → I (select i ops).2))
    (cap : Nat) (hj : J ops) : J (runConfirmedF2MultiStep ops cap).2 :=
  h.runCandidates hend hselect none 0 _ hj

end Descent

end Nidavellir

import Nidavellir.F2TransactionCalls
import Nidavellir.F2Sweep

namespace Nidavellir

open F2Ops Trace

def F2Call.isApply : F2Call → Bool
  | .applyPositiveOffset _ => true
  | _ => false

def F2Call.isClear : F2Call → Bool
  | .clearBootFlag _ => true
  | _ => false

/-- The calls that change the curve on the card. -/
def F2Call.affectsCurve : F2Call → Bool
  | .applyPositiveOffset _ | .resetToStock _ => true
  | _ => false

section Write

variable {w : List F2Call}

theorem TransactionWrite.writesArmed (hw : TransactionWrite w) : Every WritesArmed w := by
  have hdwells : ∀ ds : List F2DwellOutcome, Every WritesArmed (ds.map .dwell) := by
    rintro ds before e after heq r rfl
    have hmem : F2Call.applyPositiveOffset r ∈ ds.map .dwell := by simp [heq]
    simp at hmem
  cases hw with
  | applyFailed e => simp [every_cons, every_nil, WritesArmed]
  | verifyFailed v => simp [every_cons, every_nil, WritesArmed]
  | phases ds =>
    exact Every.append (s := [.armBootFlag (.ok ()), .applyPositiveOffset (.ok ()),
        .verify .raiseVerified]) (by simp [every_cons, every_nil, WritesArmed])
      writesArmed_local (hdwells ds)

theorem TransactionWrite.countP_isApply (hw : TransactionWrite w) :
    w.countP F2Call.isApply = 1 := by
  cases hw <;> simp [List.countP_cons, List.countP_map, F2Call.isApply, Function.comp_def]

/-- Before its cleanup a transaction neither clears nor blacklists. -/
theorem TransactionWrite.notMem (hw : TransactionWrite w) :
    (∀ r, F2Call.clearBootFlag r ∉ w) ∧ ∀ b r, F2Call.blacklistPoint b r ∉ w := by
  cases hw <;> simp

end Write

section Cleanup

variable {lost boundary : Bool} {reset listed cleared : Except String Unit}

theorem transactionCleanupCalls_writesArmed :
    Every WritesArmed (transactionCleanupCalls lost boundary reset listed cleared) := by
  rintro before e after heq r rfl
  have hmem : F2Call.applyPositiveOffset r ∈
      transactionCleanupCalls lost boundary reset listed cleared := by simp [heq]
  unfold transactionCleanupCalls at hmem
  split at hmem <;> split at hmem <;> simp at hmem

theorem transactionCleanupCalls_clearsReset :
    Every ClearsReset (transactionCleanupCalls lost boundary reset listed cleared) := by
  cases lost <;> cases boundary <;> cases reset <;> cases listed <;>
    simp [transactionCleanupCalls, every_cons, every_nil, ClearsReset]
  all_goals exact Or.inr ⟨_, List.suffix_refl _⟩

theorem transactionCleanupCalls_countP (lost boundary : Bool)
    (reset listed cleared : Except String Unit) :
    (transactionCleanupCalls lost boundary reset listed cleared).countP F2Call.isApply = 0 ∧
      (transactionCleanupCalls lost boundary reset listed cleared).countP F2Call.isClear ≤ 1 := by
  unfold transactionCleanupCalls
  split <;> split <;> simp [List.countP_cons, F2Call.isApply, F2Call.isClear]

theorem filter_transactionCleanupCalls :
    (transactionCleanupCalls lost boundary reset listed cleared).filter F2Call.affectsCurve =
      [.resetToStock reset] := by
  unfold transactionCleanupCalls
  split <;> split <;> rfl

theorem mem_transactionCleanupCalls_clear {r : Except String Unit} :
    .clearBootFlag r ∈ transactionCleanupCalls lost boundary reset listed cleared ↔
      r = cleared ∧ lost = false ∧ reset.isOk ∧ (boundary → listed.isOk) := by
  cases lost <;> cases boundary <;> cases reset <;> cases listed <;>
    simp [transactionCleanupCalls]

theorem mem_transactionCleanupCalls_blacklist {b : Bool} {r : Except String Unit} :
    .blacklistPoint b r ∈ transactionCleanupCalls lost boundary reset listed cleared ↔
      (lost ∨ boundary) ∧ b = lost ∧ r = listed := by
  cases lost <;> cases boundary <;> simp [transactionCleanupCalls]

end Cleanup

section Calls

variable {lost boundary clean : Bool} {calls : List F2Call}

theorem TransactionCalls.writesArmed (h : TransactionCalls lost boundary calls clean) :
    Every WritesArmed calls := by
  cases h with
  | armFailed e r => simp [every_cons, every_nil, WritesArmed]
  | cleaned hw reset listed cleared =>
    exact hw.writesArmed.append writesArmed_local transactionCleanupCalls_writesArmed

theorem TransactionCalls.clearsReset (h : TransactionCalls lost boundary calls clean) :
    Every ClearsReset calls := by
  cases h with
  | armFailed e r => simp [every_cons, every_nil, ClearsReset]
  | @cleaned w hw reset listed cleared =>
    have hnone : Every ClearsReset w := by
      rintro before e after heq r rfl
      exact absurd (by simp [heq]) (hw.notMem.1 r)
    exact hnone.append clearsReset_local transactionCleanupCalls_clearsReset

theorem TransactionCalls.countP (h : TransactionCalls lost boundary calls clean) :
    calls.countP F2Call.isApply ≤ 1 ∧ calls.countP F2Call.isClear ≤ 1 := by
  cases h with
  | armFailed e r => simp [F2Call.isApply, F2Call.isClear]
  | @cleaned w hw reset listed cleared =>
    have hclear : w.countP F2Call.isClear = 0 := by
      rw [List.countP_eq_zero]
      intro c hc hclear
      cases c <;> simp [F2Call.isClear] at hclear
      exact hw.notMem.1 _ hc
    obtain ⟨happly, hone⟩ := transactionCleanupCalls_countP lost boundary reset listed cleared
    rw [List.countP_append, List.countP_append, hw.countP_isApply]
    omega

theorem TransactionCalls.lastCurveCall (h : TransactionCalls lost boundary calls clean) :
    ∃ r, (calls.filter F2Call.affectsCurve).getLast? = some (.resetToStock r) := by
  cases h with
  | armFailed e r => exact ⟨r, by simp [F2Call.affectsCurve]⟩
  | cleaned hw reset listed cleared =>
    exact ⟨reset, by simp [List.filter_append, filter_transactionCleanupCalls]⟩

/-- The flag is cleared only when no device was lost and the boundary failure is on record. -/
theorem TransactionCalls.of_clear (h : TransactionCalls lost boundary calls clean)
    {r : Except String Unit} (hr : .clearBootFlag r ∈ calls) :
    lost = false ∧ (∀ b e, .blacklistPoint b (.error e) ∉ calls) ∧
      (boundary → .blacklistPoint false (.ok ()) ∈ calls) := by
  cases h with
  | armFailed e r => simp at hr
  | cleaned hw reset listed cleared =>
    rcases List.mem_append.mp hr with hr | hr
    · exact absurd hr (hw.notMem.1 r)
    obtain ⟨-, hlost, -, hlisted⟩ := mem_transactionCleanupCalls_clear.mp hr
    refine ⟨hlost, ?_, ?_⟩
    · intro b e hmem
      rcases List.mem_append.mp hmem with hmem | hmem
      · exact hw.notMem.2 _ _ hmem
      · obtain ⟨hneed, -, rfl⟩ := mem_transactionCleanupCalls_blacklist.mp hmem
        simp [hlost] at hneed
        simp [hneed] at hlisted
    · intro hboundary
      refine List.mem_append_right _ (mem_transactionCleanupCalls_blacklist.mpr
        ⟨Or.inr hboundary, hlost.symm, ?_⟩)
      rcases listed with e | ⟨⟩
      · simp [hboundary] at hlisted
      · rfl

theorem TransactionCalls.clean_iff (h : TransactionCalls lost boundary calls clean) :
    clean ↔ .clearBootFlag (.ok ()) ∈ calls := by
  cases h with
  | armFailed e r => simp
  | cleaned hw reset listed cleared =>
    rw [List.mem_append, or_iff_right (hw.notMem.1 _), mem_transactionCleanupCalls_clear]
    rcases cleared with e | ⟨⟩
    · simp
    · cases lost <;> cases boundary <;> simp

end Calls

/-- Whatever the operations answer, a transaction keeps its protocol: one armed write, a last
reset, a clear only after a confirmed reset with nothing left to persist, and no proven cleanup
that did not happen. -/
theorem runF2Transaction_protocol {O : Type*} [F2CandidateTransactionOps O] [BuildEnv] (ops : O)
    (phases : List (Nat × F2StressPurpose)) (collect : List F2StepReport → List F2StepReport) :
    let run := runF2Transaction (⟨ops, []⟩ : Traced O) phases collect
    let calls := run.ops.calls
    calls.countP F2Call.isApply ≤ 1 ∧ Every WritesArmed calls ∧
      (.armBootFlag (.ok ()) ∈ calls →
        ∃ r, (calls.filter F2Call.affectsCurve).getLast? = some (.resetToStock r)) ∧
      calls.countP F2Call.isClear ≤ 1 ∧ Every ClearsReset calls ∧
      (∀ r, .clearBootFlag r ∈ calls →
        (∀ report ∈ run.handed, report.outcome ≠ .deviceLost) ∧
          (∀ b e, .blacklistPoint b (.error e) ∉ calls) ∧
          ((∃ report ∈ run.handed, report.outcome.isBoundary) →
            .blacklistPoint false (.ok ()) ∈ calls)) ∧
      (run.cleanup.clean ↔ .clearBootFlag (.ok ()) ∈ calls) ∧
      ∀ report ∈ run.reports ++ run.phaseReports, ∀ ctx targetMhz anchored,
        (observationFromAnchoredStep ctx targetMhz anchored report).cleanupProven →
          run.cleanup.clean := by
  intro run calls
  obtain ⟨hcalls, hreports⟩ := runF2Transaction_calls ops phases collect
  obtain ⟨happly, hclear⟩ := hcalls.countP
  refine ⟨happly, hcalls.writesArmed, fun _ => hcalls.lastCurveCall, hclear,
    hcalls.clearsReset, ?_, hcalls.clean_iff, ?_⟩
  · intro r hr
    obtain ⟨hlost, hfailed, hlisted⟩ := hcalls.of_clear hr
    refine ⟨?_, hfailed, ?_⟩
    · intro report hmem ho
      exact List.any_eq_false.mp hlost report hmem (by simp [ho])
    · intro hboundary
      exact hlisted (List.any_eq_true.mpr hboundary)
  · intro report hmem ctx targetMhz anchored hproven
    have hcleared : report.bootFlagCleared :=
      (observationFromAnchoredStep_cleanupProven.mp hproven).2
    exact hreports report hmem hcleared

end Nidavellir

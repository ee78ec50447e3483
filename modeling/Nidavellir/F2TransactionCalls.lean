import Nidavellir.F2Transaction
import Nidavellir.F2CallRules

namespace Nidavellir

open F2Ops F2CandidateTransactionOps Trace

/-- The calls of a transaction's cleanup, by what the reports say and the answers given. -/
def transactionCleanupCalls (lost boundary : Bool) (reset listed cleared : Except String Unit) :
    List F2Call :=
  .resetToStock reset :: (if lost || boundary then [.blacklistPoint lost listed] else []) ++
    if !lost && reset.isOk && (!boundary || listed.isOk) then [.clearBootFlag cleared] else []

theorem mem_of_mem_modify {α : Type*} {l : List α} {i : Nat} {f : α → α} {x : α}
    (h : x ∈ l.modify i f) : x ∈ l ∨ ∃ y ∈ l, x = f y := by
  obtain ⟨j, hj, rfl⟩ := List.getElem_of_mem h
  rw [List.getElem_modify]
  have hj' : j < l.length := by simpa using hj
  split
  · exact Or.inr ⟨l[j], List.getElem_mem hj', rfl⟩
  · exact Or.inl (List.getElem_mem hj')

/-- Reports a cleanup has touched without clearing the flag. -/
def Uncleared (reports out : List F2StepReport) : Prop :=
  ∀ r ∈ out, r.bootFlagCleared = false ∧
    ∃ r' ∈ reports, r.outcome = r'.outcome ∨ r.outcome = .resetFailed

theorem uncleared_resetReports (reports : List F2StepReport) (resetOk : Bool) :
    Uncleared reports (resetReports reports resetOk) := by
  intro r hr
  obtain ⟨r', hr', rfl⟩ := List.mem_map.mp hr
  exact ⟨rfl, r', hr', Or.inl rfl⟩

theorem Uncleared.markBlacklisted {reports out : List F2StepReport} (h : Uncleared reports out)
    (i : Nat) (blacklisted : Bool) : Uncleared reports (markBlacklisted out i blacklisted) := by
  intro r hr
  rcases mem_of_mem_modify hr with hr | ⟨r', hr', rfl⟩
  · exact h r hr
  · exact h r' hr'

theorem Uncleared.lastResetFailed {reports out : List F2StepReport}
    (h : Uncleared reports out) : Uncleared reports (lastResetFailed out) := by
  intro r hr
  rcases mem_of_mem_modify hr with hr | ⟨r', hr', rfl⟩
  · exact h r hr
  · obtain ⟨hc, r'', hr'', -⟩ := h r' hr'
    exact ⟨hc, r'', hr'', Or.inr rfl⟩

section Finish

variable {O : Type*} [F2Ops O]

theorem clearAfterReset_calls (self : Traced O) {reports out : List F2StepReport}
    (h : Uncleared reports out) :
    ∃ cleared, (clearAfterReset self out).2.2.calls = self.calls ++ [.clearBootFlag cleared] ∧
      (clearAfterReset self out).2.1.clean = cleared.isOk ∧
      ∀ r ∈ (clearAfterReset self out).1,
        (r.bootFlagCleared → (clearAfterReset self out).2.1.clean) ∧
          ∃ r' ∈ reports, r.outcome = r'.outcome ∨ r.outcome = .resetFailed := by
  obtain ⟨cleared, t₁, h₁, hc₁⟩ := clearBootFlag_traced self
  unfold clearAfterReset
  refine ⟨cleared, ?_⟩
  rcases cleared with e | ⟨⟩
  · simp only [h₁]
    refine ⟨hc₁, rfl, fun r hr => ?_⟩
    obtain ⟨hcleared, hfrom⟩ := h.lastResetFailed r hr
    exact ⟨fun hr => by simp [hcleared] at hr, hfrom⟩
  · simp only [h₁]
    refine ⟨hc₁, rfl, fun r hr => ⟨fun _ => trivial, ?_⟩⟩
    obtain ⟨r', hr', rfl⟩ := List.mem_map.mp hr
    exact (h r' hr').2

theorem Uncleared.reports {reports out : List F2StepReport} (h : Uncleared reports out)
    (clean : Bool) : ∀ r ∈ out, (r.bootFlagCleared → clean) ∧
      ∃ r' ∈ reports, r.outcome = r'.outcome ∨ r.outcome = .resetFailed :=
  fun r hr => ⟨fun hc => by simp [(h r hr).1] at hc, (h r hr).2⟩

theorem finishF2TransactionReports_lost {ops o₁ o₂ : O} {reports : List F2StepReport} {i : Nat}
    {reset listed : Except String Unit}
    (hl : reports.findIdx? (fun r => r.outcome == .deviceLost) = some i)
    (h₁ : resetToStock ops = (reset, o₁)) (h₂ : blacklistPoint true o₁ = (listed, o₂)) :
    finishF2TransactionReports ops reports =
      (markBlacklisted (resetReports reports reset.isOk) i listed.isOk,
        ⟨false, true, some "DeviceLost"⟩, o₂) := by
  simp [finishF2TransactionReports, hl, h₁, h₂]

theorem finishF2TransactionReports_boundary {ops o₁ o₂ : O} {reports : List F2StepReport}
    {j : Nat} {reset listed : Except String Unit}
    (hl : reports.findIdx? (fun r => r.outcome == .deviceLost) = none)
    (hb : reports.findIdx? (fun r => r.outcome.isBoundary) = some j)
    (h₁ : resetToStock ops = (reset, o₁)) (h₂ : blacklistPoint false o₁ = (listed, o₂)) :
    finishF2TransactionReports ops reports =
      let reports := markBlacklisted (resetReports reports reset.isOk) j listed.isOk
      match listed, reset with
      | .error error, _ =>
        (lastResetFailed reports, ⟨false, true, some s!"BlacklistPersistFailed: {error}"⟩, o₂)
      | .ok _, .error error =>
        (lastResetFailed reports, ⟨false, true, some s!"TransactionResetFailed: {error}"⟩, o₂)
      | .ok _, .ok _ => clearAfterReset o₂ reports := by
  cases listed <;> cases reset <;> simp [finishF2TransactionReports, hl, hb, h₁, h₂]

theorem finishF2TransactionReports_plain {ops o₁ : O} {reports : List F2StepReport}
    {reset : Except String Unit}
    (hl : reports.findIdx? (fun r => r.outcome == .deviceLost) = none)
    (hb : reports.findIdx? (fun r => r.outcome.isBoundary) = none)
    (h₁ : resetToStock ops = (reset, o₁)) :
    finishF2TransactionReports ops reports =
      let reports := resetReports reports reset.isOk
      match reset with
      | .error error =>
        (lastResetFailed reports, ⟨false, true, some s!"TransactionResetFailed: {error}"⟩, o₁)
      | .ok _ => clearAfterReset o₁ reports := by
  cases reset <;> simp [finishF2TransactionReports, hl, hb, h₁]

theorem finishF2TransactionReports_calls (self : Traced O) (reports : List F2StepReport) :
    let lost := reports.any fun r => r.outcome == .deviceLost
    let boundary := reports.any fun r => r.outcome.isBoundary
    let out := finishF2TransactionReports self reports
    ∃ reset listed cleared, out.2.2.calls =
        self.calls ++ transactionCleanupCalls lost boundary reset listed cleared ∧
      out.2.1.clean =
        (!lost && reset.isOk && (!boundary || listed.isOk) && cleared.isOk) ∧
      ∀ r ∈ out.1, (r.bootFlagCleared → out.2.1.clean) ∧
        ∃ r' ∈ reports, r.outcome = r'.outcome ∨ r.outcome = .resetFailed := by
  intro lost boundary out
  obtain ⟨reset, t₁, h₁, hc₁⟩ := resetToStock_traced self
  have hlost : (reports.findIdx? fun r => r.outcome == .deviceLost).isSome = lost :=
    List.findIdx?_isSome
  have hboundary : (reports.findIdx? fun r => r.outcome.isBoundary).isSome = boundary :=
    List.findIdx?_isSome
  have hreset := uncleared_resetReports reports reset.isOk
  refine ⟨reset, ?_⟩
  unfold out
  cases hl : reports.findIdx? (fun r => r.outcome == .deviceLost) with
  | some i =>
    obtain ⟨listed, t₂, h₂, hc₂⟩ := blacklistPoint_traced true t₁
    rw [finishF2TransactionReports_lost hl h₁ h₂, ← hlost, hl]
    refine ⟨listed, .ok (), ?_, by simp, (hreset.markBlacklisted i listed.isOk).reports _⟩
    simp [hc₂, hc₁, transactionCleanupCalls]
  | none =>
    cases hb : reports.findIdx? (fun r => r.outcome.isBoundary) with
    | some j =>
      obtain ⟨listed, t₂, h₂, hc₂⟩ := blacklistPoint_traced false t₁
      have hlisted := hreset.markBlacklisted j listed.isOk
      rw [finishF2TransactionReports_boundary hl hb h₁ h₂, ← hlost, hl, ← hboundary, hb]
      refine ⟨listed, ?_⟩
      rcases listed with e | ⟨⟩
      · refine ⟨.ok (), ?_, by simp, hlisted.lastResetFailed.reports _⟩
        simp [hc₂, hc₁, transactionCleanupCalls]
      · rcases reset with e | ⟨⟩
        · refine ⟨.ok (), ?_, by simp, hlisted.lastResetFailed.reports _⟩
          simp [hc₂, hc₁, transactionCleanupCalls]
        · obtain ⟨cleared, hcalls, hclean, hreports⟩ := clearAfterReset_calls t₂ hlisted
          refine ⟨cleared, ?_, by simpa using hclean, hreports⟩
          rw [hcalls, hc₂, hc₁]
          simp [transactionCleanupCalls]
    | none =>
      rw [finishF2TransactionReports_plain hl hb h₁, ← hlost, hl, ← hboundary, hb]
      refine ⟨.ok (), ?_⟩
      rcases reset with e | ⟨⟩
      · refine ⟨.ok (), ?_, by simp, hreset.lastResetFailed.reports _⟩
        simp [hc₁, transactionCleanupCalls]
      · obtain ⟨cleared, hcalls, hclean, hreports⟩ := clearAfterReset_calls t₁ hreset
        refine ⟨cleared, ?_, by simpa using hclean, hreports⟩
        rw [hcalls, hc₁]
        simp [transactionCleanupCalls]

end Finish

/-- The calls of a transaction from its arm to the last one before the cleanup. -/
inductive TransactionWrite : List F2Call → Prop
  | applyFailed (e) :
    TransactionWrite [.armBootFlag (.ok ()), .applyPositiveOffset (.error e)]
  | verifyFailed (v) :
    TransactionWrite [.armBootFlag (.ok ()), .applyPositiveOffset (.ok ()), .verify v]
  | phases (ds : List F2DwellOutcome) :
    TransactionWrite (.armBootFlag (.ok ()) :: .applyPositiveOffset (.ok ()) ::
      .verify .raiseVerified :: ds.map .dwell)

/-- The calls of a whole transaction and whether its cleanup is clean, by what the reports say. -/
inductive TransactionCalls (lost boundary : Bool) : List F2Call → Bool → Prop
  | armFailed (e r) :
    TransactionCalls lost boundary [.armBootFlag (.error e), .resetToStock r] false
  | cleaned {w} (hw : TransactionWrite w) (reset listed cleared) :
    TransactionCalls lost boundary
      (w ++ transactionCleanupCalls lost boundary reset listed cleared)
      (!lost && reset.isOk && (!boundary || listed.isOk) && cleared.isOk)

theorem runPhases_calls {O : Type*} [F2CandidateTransactionOps O]
    (self : ActiveF2Candidate (Traced O)) (phases : List (Nat × F2StressPurpose)) :
    ∃ ds : List F2DwellOutcome,
      (self.runPhases phases).2.ops.calls = self.ops.calls ++ ds.map .dwell ∧
        ∀ r ∈ (self.runPhases phases).1, r.bootFlagCleared = self.baseReport.bootFlagCleared := by
  induction phases generalizing self with
  | nil => exact ⟨[], by simp [ActiveF2Candidate.runPhases], by simp [ActiveF2Candidate.runPhases]⟩
  | cons phase phases ih =>
    obtain ⟨dwellMs, purpose⟩ := phase
    obtain ⟨d, t₁, h₁, hc₁⟩ := dwell_traced (configurePhase dwellMs purpose self.ops)
    obtain ⟨ds, hcalls, hreports⟩ := ih ⟨t₁, self.baseReport⟩
    simp only [ActiveF2Candidate.runPhases, ActiveF2Candidate.runPhase, h₁]
    refine ⟨d.outcome :: ds, ?_, ?_⟩
    · rw [hcalls, hc₁]
      simp [configurePhase]
    · rintro r (_ | ⟨_, hr⟩)
      · rfl
      · exact hreports r hr

/-- What a transaction that never became active leaves behind. -/
structure BeginFailed (calls : List F2Call) (report : F2StepReport)
    (cleanup : F2TransactionCleanup) : Prop where
  calls : TransactionCalls false false calls cleanup.clean
  cleared : report.bootFlagCleared → cleanup.clean
  notLost : report.outcome ≠ .deviceLost
  notBoundary : report.outcome.isBoundary = false

theorem finish_beginFailed {O : Type*} [F2Ops O] {start self : Traced O} {w : List F2Call}
    (hw : TransactionWrite w) (hc : self.calls = start.calls ++ w) {r : F2StepReport}
    (hcleared : r.bootFlagCleared = false) (hlost : r.outcome ≠ .deviceLost)
    (hboundary : r.outcome.isBoundary = false) :
    ∃ calls, (finishF2TransactionReports self [r]).2.2.calls = start.calls ++ calls ∧
      BeginFailed calls ((finishF2TransactionReports self [r]).1.headD r)
        (finishF2TransactionReports self [r]).2.1 := by
  obtain ⟨reset, listed, cleared, hcalls, hclean, hreports⟩ :=
    finishF2TransactionReports_calls self [r]
  have hlost' : [r].any (fun r => r.outcome == .deviceLost) = false := by simp [hlost]
  have hboundary' : [r].any (fun r => r.outcome.isBoundary) = false := by simp [hboundary]
  rw [hlost', hboundary'] at hcalls hclean
  have hhead : ∀ l : List F2StepReport, l.headD r = r ∨ l.headD r ∈ l := by
    rintro (_ | ⟨head, l⟩)
    · exact Or.inl rfl
    · exact Or.inr List.mem_cons_self
  have hreport : (((finishF2TransactionReports self [r]).1.headD r).bootFlagCleared →
        (finishF2TransactionReports self [r]).2.1.clean) ∧
      (((finishF2TransactionReports self [r]).1.headD r).outcome = r.outcome ∨
        ((finishF2TransactionReports self [r]).1.headD r).outcome = .resetFailed) := by
    rcases hhead (finishF2TransactionReports self [r]).1 with heq | hmem
    · rw [heq]
      exact ⟨fun h => absurd (hcleared.symm.trans h) (by decide), Or.inl rfl⟩
    · obtain ⟨hclear, r', hr', ho⟩ := hreports _ hmem
      obtain rfl := List.mem_singleton.mp hr'
      exact ⟨hclear, ho⟩
  refine ⟨_, by rw [hcalls, hc, List.append_assoc], ?_, hreport.1, ?_, ?_⟩
  · rw [hclean]
    exact .cleaned hw reset listed cleared
  · rcases hreport.2 with ho | ho <;> rw [ho]
    · exact hlost
    · decide
  · rcases hreport.2 with ho | ho <;> rw [ho]
    · exact hboundary
    · decide

theorem beginF2CandidateTransaction_calls {O : Type*} [F2Ops O] [BuildEnv] (self : Traced O) :
    (∃ ops report cleanup calls,
      beginF2CandidateTransaction self = .error (ops, report, cleanup) ∧
        ops.calls = self.calls ++ calls ∧ BeginFailed calls report cleanup) ∨
      ∃ active, beginF2CandidateTransaction self = .ok active ∧
        active.ops.calls = self.calls ++ [.armBootFlag (.ok ()), .applyPositiveOffset (.ok ()),
          .verify .raiseVerified] ∧ active.baseReport.bootFlagCleared = false := by
  obtain ⟨armed, t₁, h₁, hc₁⟩ := armBootFlag_traced self
  unfold beginF2CandidateTransaction
  rcases armed with e | ⟨⟩
  · obtain ⟨reset, t₂, h₂, hc₂⟩ := resetToStock_traced t₁
    simp only [h₁, h₂]
    refine Or.inl ⟨_, _, _, _, rfl, by simp [hc₂, hc₁], .armFailed e reset, ?_, ?_, ?_⟩
    · exact fun h => absurd h Bool.false_ne_true
    · simp
    · simp [F2Outcome.isBoundary]
  obtain ⟨applied, t₂, h₂, hc₂⟩ := applyPositiveOffset_traced t₁
  simp only [h₁]
  rcases applied with e | ⟨⟩
  · simp only [h₂]
    have hc : t₂.calls =
        self.calls ++ [.armBootFlag (.ok ()), .applyPositiveOffset (.error e)] := by
      simp [hc₂, hc₁]
    obtain ⟨calls, hcalls, hfailed⟩ := finish_beginFailed (.applyFailed e) hc
      (r := { emptyF2StepReport with armed := true, outcome := .applyFailed e })
      rfl (by rintro ⟨⟩) rfl
    exact Or.inl ⟨_, _, _, calls, rfl, hcalls, hfailed⟩
  obtain ⟨v, t₃, h₃, hc₃⟩ := verify_traced t₂
  simp only [h₂, h₃]
  split
  next hv =>
    have hc : t₃.calls = self.calls ++ [.armBootFlag (.ok ()), .applyPositiveOffset (.ok ()),
        .verify v] := by
      simp [hc₃, hc₂, hc₁]
    obtain ⟨calls, hcalls, hfailed⟩ := finish_beginFailed (.verifyFailed v) hc
      (r := { emptyF2StepReport with
        armed := true, applied := true, verify := some v, outcome := .verifyFailed })
      rfl (by rintro ⟨⟩) rfl
    exact Or.inl ⟨_, _, _, calls, rfl, hcalls, hfailed⟩
  next hv =>
    obtain rfl := not_not.mp hv
    exact Or.inr ⟨_, rfl, by simp [hc₃, hc₂, hc₁], rfl⟩

/-- A transaction makes the calls its reports ask for, and no report claims more than its
cleanup. -/
theorem runF2Transaction_calls {O : Type*} [F2CandidateTransactionOps O] [BuildEnv] (ops : O)
    (phases : List (Nat × F2StressPurpose)) (collect : List F2StepReport → List F2StepReport) :
    let run := runF2Transaction (⟨ops, []⟩ : Traced O) phases collect
    TransactionCalls (run.handed.any fun r => r.outcome == .deviceLost)
        (run.handed.any fun r => r.outcome.isBoundary) run.ops.calls run.cleanup.clean ∧
      ∀ r ∈ run.reports ++ run.phaseReports, r.bootFlagCleared → run.cleanup.clean := by
  intro run
  unfold run runF2Transaction
  rcases beginF2CandidateTransaction_calls (⟨ops, []⟩ : Traced O) with
    ⟨ops', report, cleanup, calls, heq, hcalls, hfailed⟩ | ⟨active, heq, hcalls, hbase⟩
  · simp only [heq]
    have hlost : [report].any (fun r => r.outcome == .deviceLost) = false := by
      simp [hfailed.notLost]
    have hboundary : [report].any (fun r => r.outcome.isBoundary) = false := by
      simp [hfailed.notBoundary]
    rw [hlost, hboundary, hcalls]
    refine ⟨hfailed.calls, ?_⟩
    simpa using hfailed.cleared
  · simp only [heq]
    obtain ⟨ds, hphases, hreports⟩ := runPhases_calls active phases
    obtain ⟨reset, listed, cleared, hfinish, hclean, hfinal⟩ := finishF2TransactionReports_calls
      (active.runPhases phases).2.ops (collect (active.runPhases phases).1)
    unfold ActiveF2Candidate.finish
    refine ⟨?_, ?_⟩
    · rw [hfinish, hclean, hphases, hcalls]
      simpa using TransactionCalls.cleaned (.phases ds) reset listed cleared
    · intro r hr hcleared
      rcases List.mem_append.mp hr with hr | hr
      · exact (hfinal r hr).1 hcleared
      · rw [hreports r hr, hbase] at hcleared
        exact absurd hcleared Bool.false_ne_true

end Nidavellir

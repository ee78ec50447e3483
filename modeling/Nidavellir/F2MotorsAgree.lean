import Nidavellir.F2TransactionCalls

namespace Nidavellir

open F2Ops F2CandidateTransactionOps Trace

section Motors

variable {O : Type*} [F2Ops O]

/-- The state after the verify, where the write got that far. -/
def verified (ops : O) : Option O :=
  match armBootFlag ops with
  | (.error _, _) => none
  | (.ok (), ops) =>
    match applyPositiveOffset ops with
    | (.error _, _) => none
    | (.ok (), ops) =>
      let (v, ops) := F2Ops.verify ops
      if v ≠ .raiseVerified then none else some ops

/-- The verdict and the state after the dwell. -/
def dwelt (ops : O) : Option (F2DwellResult × O) := (verified ops).map F2Ops.dwell

/-- A boundary failure whose reset succeeds but whose blacklist entry is not persisted. -/
def BlacklistLost (ops : O) : Prop :=
  ∃ d o₁ o₂ o₃ e, dwelt ops = some (d, o₁) ∧ d.outcome.reported.isBoundary ∧
    resetToStock o₁ = (.ok (), o₂) ∧ blacklistPoint false o₂ = (.error e, o₃)

/-- On one report the two cleanups are the same, unless a boundary failure is not persisted. -/
theorem finishF2TransactionReports_singleton (ops : O) {r : F2StepReport}
    (hc : r.bootFlagCleared = false) (hv : r.validated = false)
    (hlost : r.outcome ≠ .deviceLost)
    (hlisted : r.outcome.isBoundary → ∀ o₁ o₂ e, resetToStock ops = (.ok (), o₁) →
      blacklistPoint false o₁ ≠ (.error e, o₂)) :
    (finishF2TransactionReports ops [r]).1 = [(finishAfterWrite ops r r.outcome.isBoundary).1] ∧
      (finishF2TransactionReports ops [r]).2.2 =
        (finishAfterWrite ops r r.outcome.isBoundary).2 := by
  have hl : [r].findIdx? (fun r => r.outcome == .deviceLost) = none := by simp [hlost]
  rcases hreset : resetToStock ops with ⟨reset, o₁⟩
  cases hb : r.outcome.isBoundary with
  | false =>
    have hb' : [r].findIdx? (fun r => r.outcome.isBoundary) = none := by simp [hb]
    rw [finishF2TransactionReports_plain hl hb' hreset]
    rcases reset with e | ⟨⟩
    · simp [finishAfterWrite, hreset, resetReports, lastResetFailed, hc, hv]
    · rcases hclear : clearBootFlag o₁ with ⟨e | ⟨⟩, o₂⟩
      · simp [finishAfterWrite, hreset, resetReports, lastResetFailed, clearAfterReset, hclear, hc]
      · by_cases ho : r.outcome = .validated <;>
          simp [finishAfterWrite, hreset, resetReports, clearAfterReset, hclear, ho, hv]
  | true =>
    have hb' : [r].findIdx? (fun r => r.outcome.isBoundary) = some 0 := by simp [hb]
    rcases hlist : blacklistPoint false o₁ with ⟨listed, o₂⟩
    rw [finishF2TransactionReports_boundary hl hb' hreset hlist]
    rcases reset with e | ⟨⟩
    · rcases listed with e' | ⟨⟩ <;>
        simp [finishAfterWrite, hreset, hlist, resetReports, markBlacklisted, lastResetFailed, hc,
          hv]
    · rcases listed with e | ⟨⟩
      · exact absurd hlist (hlisted hb o₁ o₂ e hreset)
      · rcases hclear : clearBootFlag o₂ with ⟨e | ⟨⟩, o₃⟩
        · simp [finishAfterWrite, hreset, hlist, resetReports, markBlacklisted, lastResetFailed,
            clearAfterReset, hclear, hc]
        · by_cases ho : r.outcome = .validated <;>
            simp [finishAfterWrite, hreset, hlist, resetReports, markBlacklisted, clearAfterReset,
              hclear, ho, hv]

theorem finishF2TransactionReports_deviceLost {ops o₁ o₂ : O} {r : F2StepReport}
    {reset listed : Except String Unit} (ho : r.outcome = .deviceLost)
    (hc : r.bootFlagCleared = false) (hv : r.validated = false)
    (h₁ : resetToStock ops = (reset, o₁)) (h₂ : blacklistPoint true o₁ = (listed, o₂)) :
    (finishF2TransactionReports ops [r]).1 = [{ r with
        resetOk := some reset.isOk, blacklisted := listed.isOk, outcome := .deviceLost }] ∧
      (finishF2TransactionReports ops [r]).2.2 = o₂ := by
  have hl : [r].findIdx? (fun r => r.outcome == .deviceLost) = some 0 := by simp [ho]
  rw [finishF2TransactionReports_lost hl h₁ h₂]
  simp [resetReports, markBlacklisted, hc, hv, ho]

/-- The two cleanups after a dwell are the same, unless a boundary failure is not persisted. -/
theorem finishF2TransactionReports_eq_settleDwell (ops : O) {r : F2StepReport}
    {d : F2DwellOutcome} (ho : r.outcome = d.reported) (hc : r.bootFlagCleared = false)
    (hv : r.validated = false)
    (hlisted : d.reported.isBoundary → ∀ o₁ o₂ e, resetToStock ops = (.ok (), o₁) →
      blacklistPoint false o₁ ≠ (.error e, o₂)) :
    (finishF2TransactionReports ops [r]).1 = [(settleDwell ops r d).1] ∧
      (finishF2TransactionReports ops [r]).2.2 = (settleDwell ops r d).2 := by
  by_cases hd : d = .deviceLost
  · subst hd
    rcases hreset : resetToStock ops with ⟨reset, o₁⟩
    rcases hlist : blacklistPoint true o₁ with ⟨listed, o₂⟩
    simpa [settleDwell, hreset, hlist] using
      finishF2TransactionReports_deviceLost ho hc hv hreset hlist
  · have hsettle : settleDwell ops r d = finishAfterWrite ops r r.outcome.isBoundary := by
      rw [ho]
      cases d <;> first | rfl | exact absurd rfl hd
    rw [hsettle]
    refine finishF2TransactionReports_singleton ops hc hv ?_ (ho ▸ hlisted)
    rw [ho]
    cases d <;> first | decide | exact absurd rfl hd

end Motors

section Agree

variable {O : Type*} [F2CandidateTransactionOps O] [BuildEnv] {ops o₁ : O} {d : F2DwellResult}
  {dwellMs : Nat} {purpose : F2StressPurpose}

/-- The report both motors have built when the dwell answers. -/
def dwellReport (d : F2DwellResult) : F2StepReport :=
  populateF2DwellReport { emptyF2StepReport with
    armed := true, applied := true, verify := some .raiseVerified } d

theorem runConfirmedF2Step_of_verified (h : verified ops = some o₁) :
    runConfirmedF2Step ops = settleDwell (F2Ops.dwell o₁).2 (dwellReport (F2Ops.dwell o₁).1)
      (F2Ops.dwell o₁).1.outcome := by
  unfold verified at h
  unfold runConfirmedF2Step
  rcases harm : armBootFlag ops with ⟨e | ⟨⟩, o₂⟩
  · simp [harm] at h
  rcases happly : applyPositiveOffset o₂ with ⟨e | ⟨⟩, o₃⟩
  · simp [harm, happly] at h
  rcases hverify : F2Ops.verify o₃ with ⟨v, o₄⟩
  by_cases hv : v = .raiseVerified
  · have ho : o₄ = o₁ := by simpa [harm, happly, hverify, hv] using h
    subst ho
    simp only [happly, hverify, hv, ne_eq, not_true_eq_false, if_false]
    rfl
  · simp [harm, happly, hverify, hv] at h

theorem runF2Transaction_of_verified (h : verified ops = some o₁)
    (hphase : configurePhase dwellMs purpose o₁ = o₁) :
    (runF2Transaction ops [(dwellMs, purpose)] id).reports =
        (finishF2TransactionReports (F2Ops.dwell o₁).2 [dwellReport (F2Ops.dwell o₁).1]).1 ∧
      (runF2Transaction ops [(dwellMs, purpose)] id).ops =
        (finishF2TransactionReports (F2Ops.dwell o₁).2
          [dwellReport (F2Ops.dwell o₁).1]).2.2 := by
  unfold verified at h
  unfold runF2Transaction beginF2CandidateTransaction
  rcases harm : armBootFlag ops with ⟨e | ⟨⟩, o₂⟩
  · simp [harm] at h
  rcases happly : applyPositiveOffset o₂ with ⟨e | ⟨⟩, o₃⟩
  · simp [harm, happly] at h
  rcases hverify : F2Ops.verify o₃ with ⟨v, o₄⟩
  by_cases hv : v = .raiseVerified
  · have ho : o₄ = o₁ := by simpa [harm, happly, hverify, hv] using h
    subst ho
    simp only [happly, hverify, hv, ne_eq, not_true_eq_false, if_false,
      ActiveF2Candidate.runPhases, ActiveF2Candidate.runPhase, hphase]
    exact ⟨rfl, rfl⟩
  · simp [harm, happly, hverify, hv] at h

theorem runF2Transaction_eq_of_not_verified (h : verified ops = none) :
    (runF2Transaction ops [(dwellMs, purpose)] id).reports = [(runConfirmedF2Step ops).1] ∧
      (runF2Transaction ops [(dwellMs, purpose)] id).ops = (runConfirmedF2Step ops).2 := by
  have hfinish : ∀ (o : O) (r : F2StepReport), r.bootFlagCleared = false → r.validated = false →
      r.outcome ≠ .deviceLost → r.outcome.isBoundary = false →
      [(finishF2TransactionReports o [r]).1.headD r] = [(finishAfterWrite o r false).1] ∧
        (finishF2TransactionReports o [r]).2.2 = (finishAfterWrite o r false).2 := by
    intro o r hc hv hlost hb
    obtain ⟨hreports, hops⟩ := finishF2TransactionReports_singleton o hc hv hlost
      (by simp [hb])
    rw [hreports, hops, hb]
    exact ⟨rfl, rfl⟩
  unfold verified at h
  unfold runF2Transaction beginF2CandidateTransaction runConfirmedF2Step
  rcases harm : armBootFlag ops with ⟨e | ⟨⟩, o₁⟩
  · exact ⟨rfl, rfl⟩
  rcases happly : applyPositiveOffset o₁ with ⟨e | ⟨⟩, o₂⟩
  · simp only [happly]
    exact hfinish _ _ rfl rfl (by rintro ⟨⟩) rfl
  rcases hverify : F2Ops.verify o₂ with ⟨v, o₃⟩
  by_cases hv : v = .raiseVerified
  · simp [harm, happly, hverify, hv] at h
  · simp only [happly, hverify, ne_eq, hv, not_false_eq_true, if_true]
    exact hfinish _ _ rfl rfl (by rintro ⟨⟩) rfl

/-- A step that persists its boundary failures is a transaction of one phase. -/
theorem runF2Transaction_eq_runConfirmedF2Step
    (hphase : ∀ o, verified ops = some o → configurePhase dwellMs purpose o = o)
    (h : ¬ BlacklistLost ops) :
    (runF2Transaction ops [(dwellMs, purpose)] id).reports = [(runConfirmedF2Step ops).1] ∧
      (runF2Transaction ops [(dwellMs, purpose)] id).ops = (runConfirmedF2Step ops).2 := by
  cases hverified : verified ops with
  | none => exact runF2Transaction_eq_of_not_verified hverified
  | some o₁ =>
    obtain ⟨hreports, hops⟩ := runF2Transaction_of_verified hverified (hphase o₁ hverified)
    rw [hreports, hops, runConfirmedF2Step_of_verified hverified]
    have hdwelt : dwelt ops = some (F2Ops.dwell o₁) := by simp [dwelt, hverified]
    refine finishF2TransactionReports_eq_settleDwell (F2Ops.dwell o₁).2 rfl rfl rfl ?_
    intro hb o₂ o₃ e hreset hlist
    exact h ⟨(F2Ops.dwell o₁).1, (F2Ops.dwell o₁).2, o₂, o₃, e, hdwelt, hb, hreset, hlist⟩

end Agree

section TracedAgree

variable {O : Type*}

theorem verified_traced [F2Ops O] (self : Traced O) :
    (verified self).map Recorded.ops = verified self.ops := by
  obtain ⟨armed, t₁, h₁, -⟩ := armBootFlag_traced self
  obtain ⟨applied, t₂, h₂, -⟩ := applyPositiveOffset_traced t₁
  obtain ⟨v, t₃, h₃, -⟩ := verify_traced t₂
  have h₁' : armBootFlag self.ops = (armed, t₁.ops) := Recorded.ops_of_record h₁
  have h₂' : applyPositiveOffset t₁.ops = (applied, t₂.ops) := Recorded.ops_of_record h₂
  have h₃' : F2Ops.verify t₂.ops = (v, t₃.ops) := Recorded.ops_of_record h₃
  unfold verified
  rcases armed with e | ⟨⟩
  · simp [h₁, h₁']
  rcases applied with e | ⟨⟩
  · simp [h₁, h₁', h₂, h₂']
  by_cases hv : v = .raiseVerified <;> simp [h₁, h₁', h₂, h₂', h₃, h₃', hv]

theorem dwelt_traced [F2Ops O] (self : Traced O) :
    (dwelt self).map (fun p => (p.1, p.2.ops)) = dwelt self.ops := by
  rw [dwelt, dwelt, ← verified_traced, Option.map_map, Option.map_map]
  rfl

theorem blacklistLost_traced [F2Ops O] (self : Traced O) :
    BlacklistLost self ↔ BlacklistLost self.ops := by
  constructor
  · intro hlost
    obtain ⟨d, t₁, t₂, t₃, e, hd, hb, hreset, hlist⟩ := hlost
    refine ⟨d, t₁.ops, t₂.ops, t₃.ops, e, ?_, hb, Recorded.ops_of_record hreset,
      Recorded.ops_of_record hlist⟩
    rw [← dwelt_traced, hd]
    rfl
  · intro hlost
    obtain ⟨d, o₁, o₂, o₃, e, hd, hb, hreset, hlist⟩ := hlost
    rw [← dwelt_traced] at hd
    obtain ⟨⟨d', t₁⟩, hd', heq⟩ := Option.map_eq_some_iff.mp hd
    obtain ⟨rfl, rfl⟩ := Prod.mk.inj heq
    obtain ⟨reset, t₂, h₂, -⟩ := resetToStock_traced t₁
    obtain ⟨listed, t₃, h₃, -⟩ := blacklistPoint_traced false t₂
    have h₂' : resetToStock t₁.ops = (reset, t₂.ops) := Recorded.ops_of_record h₂
    obtain ⟨rfl, rfl⟩ := Prod.mk.inj (hreset.symm.trans h₂')
    have h₃' : blacklistPoint false t₂.ops = (listed, t₃.ops) := Recorded.ops_of_record h₃
    obtain ⟨rfl, rfl⟩ := Prod.mk.inj (hlist.symm.trans h₃')
    exact ⟨d', t₁, t₂, t₃, e, hd', hb, h₂, h₃⟩

variable [F2CandidateTransactionOps O] [BuildEnv]

/-- The step motor clears the flag over a blacklist entry that was not persisted; the
transaction does not. -/
theorem calls_ne_of_blacklistLost {self : Traced O} {dwellMs : Nat} {purpose : F2StressPurpose}
    (hphase : ∀ t, verified self = some t → configurePhase dwellMs purpose t = t)
    (h : BlacklistLost self) :
    (runF2Transaction self [(dwellMs, purpose)] id).ops.calls ≠
      (runConfirmedF2Step self).2.calls := by
  obtain ⟨d, t₁, t₂, t₃, e, hd, hb, hreset, hlist⟩ := h
  obtain ⟨t₀, hverified, hdwell⟩ := Option.map_eq_some_iff.mp hd
  obtain ⟨cleared, t₄, hclear, hcalls⟩ := clearBootFlag_traced t₃
  have hlost : d.outcome.reported ≠ .deviceLost := by
    intro ho
    simp [ho, F2Outcome.isBoundary] at hb
  have hstep : (runConfirmedF2Step self).2 = t₄ := by
    have hsettle : settleDwell t₁ (dwellReport d) d.outcome =
        finishAfterWrite t₁ (dwellReport d) true := by
      cases ho : d.outcome <;>
        first | rfl | simp [ho, F2DwellOutcome.reported, F2Outcome.isBoundary] at hb
    rw [runConfirmedF2Step_of_verified hverified, hdwell, hsettle]
    rcases cleared with e' | ⟨⟩ <;> simp [finishAfterWrite, hreset, hlist, hclear]
  have hrun : (runF2Transaction self [(dwellMs, purpose)] id).ops = t₃ := by
    have hl : [dwellReport d].findIdx? (fun r => r.outcome == .deviceLost) = none := by
      simp [dwellReport, populateF2DwellReport, hlost]
    have hb' : [dwellReport d].findIdx? (fun r => r.outcome.isBoundary) = some 0 := by
      simp [dwellReport, populateF2DwellReport, hb]
    rw [(runF2Transaction_of_verified hverified (hphase t₀ hverified)).2, hdwell,
      finishF2TransactionReports_boundary hl hb' hreset hlist]
  have hlonger : t₃.calls ≠ t₃.calls ++ [.clearBootFlag cleared] := by simp
  rw [hrun, hstep, hcalls]
  exact hlonger

/-- The fields of a step report that say how it ended. -/
def F2StepReport.ending (r : F2StepReport) : F2Outcome × Option Bool × Bool × Bool × Bool :=
  (r.outcome, r.resetOk, r.bootFlagCleared, r.blacklisted, r.validated)

/-- The two motors, set to the same phase, make the same calls and report the same ending exactly
when no boundary failure is left out of the blacklist after a confirmed reset. -/
theorem motors_agree_iff {ops : O} {dwellMs : Nat} {purpose : F2StressPurpose}
    (hphase : ∀ o, verified ops = some o → configurePhase dwellMs purpose o = o) :
    let step := runConfirmedF2Step (⟨ops, []⟩ : Traced O)
    let run := runF2Transaction (⟨ops, []⟩ : Traced O) [(dwellMs, purpose)] id
    (run.ops.calls = step.2.calls ∧
      run.reports.map F2StepReport.ending = [step.1.ending]) ↔ ¬ BlacklistLost ops := by
  intro step run
  have hphase' : ∀ t, verified (⟨ops, []⟩ : Traced O) = some t →
      configurePhase dwellMs purpose t = t := by
    intro t ht
    have hops : verified ops = some t.ops := by
      rw [← verified_traced (⟨ops, []⟩ : Traced O), ht]
      rfl
    exact congrArg (Recorded.mk · t.calls) (hphase t.ops hops)
  constructor
  · intro hagree hlost
    obtain ⟨hcalls, -⟩ := hagree
    exact calls_ne_of_blacklistLost hphase' ((blacklistLost_traced _).mpr hlost) hcalls
  · intro h
    obtain ⟨hreports, hops⟩ := runF2Transaction_eq_runConfirmedF2Step hphase'
      (mt (blacklistLost_traced (⟨ops, []⟩ : Traced O)).mp h)
    exact ⟨congrArg Recorded.calls hops, by rw [hreports]; rfl⟩

end TracedAgree

instance : F2CandidateTransactionOps Scripted where
  configurePhase _ _ self := self

/-- With every operation succeeding the motors agree. -/
theorem motors_agree_on_clean_silentError :
    let _ : BuildEnv := ⟨"0.1.0", "unknown"⟩
    let ops : Scripted := { outcome := .silentError }
    (runF2Transaction (⟨ops, []⟩ : Traced Scripted) [(15000, .powerDiscovery)] id).ops.calls =
        (runConfirmedF2Step (⟨ops, []⟩ : Traced Scripted)).2.calls ∧
      (runF2Transaction (⟨ops, []⟩ : Traced Scripted) [(15000, .powerDiscovery)] id).reports.map
        F2StepReport.ending =
          [(runConfirmedF2Step (⟨ops, []⟩ : Traced Scripted)).1.ending] := by
  intro _ ops
  refine (motors_agree_iff fun _ _ => rfl).mpr ?_
  intro hlost
  obtain ⟨d, o₁, o₂, o₃, e, hd, -, hreset, hlist⟩ := hlost
  obtain ⟨-, rfl⟩ := Prod.mk.inj (Option.some.inj hd)
  obtain ⟨-, rfl⟩ := Prod.mk.inj hreset
  obtain ⟨hlisted, -⟩ := Prod.mk.inj hlist
  cases hlisted

/-- A silent error whose blacklist entry cannot be written. -/
theorem motors_disagree :
    ¬ ∀ (O : Type) [F2CandidateTransactionOps O] [BuildEnv] (ops : O) (dwellMs : Nat)
      (purpose : F2StressPurpose), (∀ ops : O, configurePhase dwellMs purpose ops = ops) →
      (runF2Transaction (⟨ops, []⟩ : Traced O) [(dwellMs, purpose)] id).ops.calls =
        (runConfirmedF2Step (⟨ops, []⟩ : Traced O)).2.calls := by
  intro h
  let _ : BuildEnv := ⟨"0.1.0", "unknown"⟩
  have := h Scripted { outcome := .silentError, listed := .error "disk full" } 15000
    .powerDiscovery fun _ => rfl
  revert this
  decide

end Nidavellir

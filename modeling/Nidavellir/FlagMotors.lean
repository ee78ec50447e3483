import Nidavellir.F2TransactionCalls
import Nidavellir.FlagTrail

namespace Nidavellir

open F2Ops FlagTrail

/-- An executor whose operations leave exactly these events. -/
structure WatchesFlag {O : Type*} [F2Ops O] (events : O → List FlagEvent) : Prop where
  arm : ∀ {ops result ops'}, armBootFlag ops = (result, ops') →
    ∃ target, events ops' = events ops ++ [.arm target result.isOk]
  apply : ∀ {ops result ops'}, applyPositiveOffset ops = (result, ops') → events ops' = events ops
  verify : ∀ {ops result ops'}, F2Ops.verify ops = (result, ops') → events ops' = events ops
  dwell : ∀ {ops ops'} {result : F2DwellResult}, F2Ops.dwell ops = (result, ops') →
    events ops' = events ops ++ [.dwell (result.outcome == .deviceLost)]
  reset : ∀ {ops result ops'}, resetToStock ops = (result, ops') → events ops' = events ops
  clear : ∀ {ops result ops'}, clearBootFlag ops = (result, ops') →
    events ops' = events ops ++ [.clear result.isOk]
  blacklist : ∀ {countsAsCrash ops result ops'},
    blacklistPoint countsAsCrash ops = (result, ops') → events ops' = events ops

section Executors

variable {W : Type*} [F2World W]

/-- The events of an executor of a descent. -/
def RealF2MultiOps.events (self : RealF2MultiOps (Watched W)) : List FlagEvent := self.world.calls

def RealF2Ops.events (self : RealF2Ops (Watched W)) : List FlagEvent := self.world.calls

theorem RealF2MultiOps.watchesFlag :
    WatchesFlag (RealF2MultiOps.events : RealF2MultiOps (Watched W) → List FlagEvent) where
  arm {ops result ops'} h := ⟨ops.cur, by cases h; rfl⟩
  apply h := by cases h; rfl
  verify h := by cases h; rfl
  dwell h := by cases h; rfl
  reset h := by cases h; rfl
  clear h := by cases h; rfl
  blacklist h := by cases h; rfl

theorem RealF2Ops.watchesFlag :
    WatchesFlag (RealF2Ops.events : RealF2Ops (Watched W) → List FlagEvent) where
  arm {ops result ops'} h := ⟨some ops.target, by cases h; rfl⟩
  apply h := by cases h; rfl
  verify h := by cases h; rfl
  dwell h := by cases h; rfl
  reset h := by cases h; rfl
  clear h := by cases h; rfl
  blacklist h := by cases h; rfl

end Executors

theorem deviceLost_beq_reported (d : F2DwellOutcome) :
    (d.reported == .deviceLost) = (d == .deviceLost) := by
  cases d <;> rfl

section Motor

variable {O : Type*} [F2Ops O] {events : O → List FlagEvent} {ops ops' : O} {lost : Bool}

theorem WatchesFlag.armed (h : WatchesFlag events) (hops : (ofEvents (events ops)).Settled)
    (harm : armBootFlag ops = (.ok (), ops')) : (ofEvents (events ops')).Running false := by
  obtain ⟨target, hevents⟩ := h.arm harm
  rw [hevents, ofEvents_concat]
  exact hops.arm target

theorem WatchesFlag.armFailed (h : WatchesFlag events) (hops : (ofEvents (events ops)).Settled)
    {error : String} (harm : armBootFlag ops = (.error error, ops')) :
    (ofEvents (events ops')).Settled := by
  obtain ⟨target, hevents⟩ := h.arm harm
  rw [hevents, ofEvents_concat]
  exact hops.quiet (by simp)

theorem WatchesFlag.dwelt (h : WatchesFlag events) (hops : (ofEvents (events ops)).Running lost)
    {result : F2DwellResult} (hdwell : F2Ops.dwell ops = (result, ops')) :
    (ofEvents (events ops')).Running (lost || result.outcome == .deviceLost) := by
  rw [h.dwell hdwell, ofEvents_concat]
  exact hops.dwell _

theorem WatchesFlag.cleared (h : WatchesFlag events) (hops : (ofEvents (events ops)).Running false)
    (hclear : clearBootFlag ops = (.ok (), ops')) : (ofEvents (events ops')).Settled := by
  rw [h.clear hclear, ofEvents_concat]
  exact hops.clear

theorem WatchesFlag.clearFailed (h : WatchesFlag events)
    (hops : (ofEvents (events ops)).Running lost) {error : String}
    (hclear : clearBootFlag ops = (.error error, ops')) :
    (ofEvents (events ops')).Running lost := by
  rw [h.clear hclear, ofEvents_concat]
  exact hops.clearFailed

/-- A confirmed reset is followed by a clear, which says what it leaves. -/
theorem WatchesFlag.clearConfirmed (h : WatchesFlag events)
    (hops : (ofEvents (events ops)).Running false) {cleared : Except String Unit}
    (hclear : clearBootFlag ops = (cleared, ops')) :
    (ofEvents (events ops')).Leaves (!cleared.isOk) := by
  rcases cleared with e | ⟨⟩
  · exact (h.clearFailed hops hclear).leaves
  · exact .inl (h.cleared hops hclear)

/-- The cleanup of a device that answered leaves the flag just where it says that the reset
failed. -/
theorem WatchesFlag.finishAfterWrite (h : WatchesFlag events)
    (hops : (ofEvents (events ops)).Running false) {r : F2StepReport}
    (hr : f2OutcomeRetainsBootFlag r.outcome = false) (blacklist : Bool) :
    (ofEvents (events (finishAfterWrite ops r blacklist).2)).Leaves
      (f2OutcomeRetainsBootFlag (finishAfterWrite ops r blacklist).1.outcome) := by
  unfold Nidavellir.finishAfterWrite
  rcases hreset : resetToStock ops with ⟨reset, ops₁⟩
  rcases hlisted : blacklistPoint false ops₁ with ⟨listed, ops₂⟩
  have hops₁ : (ofEvents (events ops₁)).Running false := h.reset hreset ▸ hops
  have hops₂ : (ofEvents (events ops₂)).Running false := h.blacklist hlisted ▸ hops₁
  obtain ⟨⟨r', ops'⟩, hpair⟩ : ∃ p : F2StepReport × O, (if blacklist = true then
      ({ r with resetOk := some reset.isOk, blacklisted := listed.isOk }, ops₂)
    else ({ r with resetOk := some reset.isOk }, ops₁)) = p := ⟨_, rfl⟩
  have hlisting : r'.outcome = r.outcome ∧ (ofEvents (events ops')).Running false := by
    cases blacklist with
    | false => cases hpair; exact ⟨rfl, hops₁⟩
    | true => cases hpair; exact ⟨rfl, hops₂⟩
  obtain ⟨houtcome, hops'⟩ := hlisting
  simp only [hlisted, hpair]
  split
  next =>
    rcases hclear : clearBootFlag ops' with ⟨cleared, ops₃⟩
    have hleaves := h.clearConfirmed hops' hclear
    rcases cleared with e | ⟨⟩
    · exact hleaves
    · dsimp only
      rw [apply_ite F2StepReport.outcome, ite_self, houtcome, hr]
      exact hleaves
  next => exact hops'.leaves

theorem f2OutcomeRetainsBootFlag_reported {d : F2DwellOutcome} :
    f2OutcomeRetainsBootFlag d.reported = (d == .deviceLost) := by
  cases d <;> rfl

/-- The cleanup that a dwell asks for. -/
theorem WatchesFlag.settleDwell (h : WatchesFlag events) {d : F2DwellOutcome}
    (hops : (ofEvents (events ops)).Running (d == .deviceLost)) {r : F2StepReport}
    (hr : r.outcome = d.reported) :
    (ofEvents (events (settleDwell ops r d).2)).Leaves
      (f2OutcomeRetainsBootFlag (settleDwell ops r d).1.outcome) := by
  have hreported : f2OutcomeRetainsBootFlag r.outcome = (d == .deviceLost) := by
    rw [hr, f2OutcomeRetainsBootFlag_reported]
  cases d with
  | deviceLost =>
    rcases hreset : resetToStock ops with ⟨reset, ops₁⟩
    rcases hlisted : blacklistPoint true ops₁ with ⟨listed, ops₂⟩
    have hops₂ : (ofEvents (events ops₂)).Running true :=
      h.blacklist hlisted ▸ h.reset hreset ▸ hops
    simp only [Nidavellir.settleDwell, hreset, hlisted]
    exact hops₂.leaves
  | silentError => exact h.finishAfterWrite hops hreported true
  | unstable => exact h.finishAfterWrite hops hreported true
  | clockDrop => exact h.finishAfterWrite hops hreported false
  | inconclusive => exact h.finishAfterWrite hops hreported false
  | stable => exact h.finishAfterWrite hops hreported false

/-- A confirmed step reports the flag that it leaves. -/
theorem WatchesFlag.runConfirmedF2Step [BuildEnv] (h : WatchesFlag events)
    (hops : (ofEvents (events ops)).Settled) :
    (ofEvents (events (runConfirmedF2Step ops).2)).Leaves
      (f2OutcomeRetainsBootFlag (runConfirmedF2Step ops).1.outcome) := by
  unfold Nidavellir.runConfirmedF2Step
  rcases harm : armBootFlag ops with ⟨e | ⟨⟩, ops₁⟩
  · rcases hreset : resetToStock ops₁ with ⟨reset, ops₂⟩
    have hops₂ : (ofEvents (events ops₂)).Settled := h.reset hreset ▸ h.armFailed hops harm
    simp only [hreset]
    exact .inl hops₂
  have hops₁ := h.armed hops harm
  rcases happly : applyPositiveOffset ops₁ with ⟨e | ⟨⟩, ops₂⟩
  · have hops₂ : (ofEvents (events ops₂)).Running false := h.apply happly ▸ hops₁
    simp only [happly]
    exact h.finishAfterWrite hops₂ rfl false
  rcases hverify : F2Ops.verify ops₂ with ⟨v, ops₃⟩
  have hops₃ : (ofEvents (events ops₃)).Running false :=
    h.verify hverify ▸ h.apply happly ▸ hops₁
  simp only [happly, hverify]
  split
  next => exact h.finishAfterWrite hops₃ rfl false
  next =>
    rcases hdwell : F2Ops.dwell ops₃ with ⟨d, ops₄⟩
    have hops₄ := h.dwelt hops₃ hdwell
    rw [Bool.false_or] at hops₄
    exact h.settleDwell hops₄ rfl

/-- What the cleanup of a transaction says of the flag. -/
structure F2TransactionCleanup.Tells (c : F2TransactionCleanup) (t : FlagTrail) : Prop where
  leaves : t.Leaves c.retainBootFlag
  unclean : c.retainBootFlag = true → c.clean = false
  reason : c.clean = false → c.stopReason.isSome

theorem WatchesFlag.clearAfterReset (h : WatchesFlag events)
    (hops : (ofEvents (events ops)).Running false) (reports : List F2StepReport) :
    (clearAfterReset ops reports).2.1.Tells
      (ofEvents (events (clearAfterReset ops reports).2.2)) := by
  unfold Nidavellir.clearAfterReset
  rcases hclear : clearBootFlag ops with ⟨cleared, ops'⟩
  have hleaves := h.clearConfirmed hops hclear
  rcases cleared with e | ⟨⟩
  · exact ⟨hleaves, fun _ => rfl, fun _ => rfl⟩
  · exact ⟨hleaves, by simp, by simp⟩

theorem F2TransactionCleanup.Tells.retained {t : FlagTrail} (ht : t.Running lost)
    (reason : String) : Tells ⟨false, true, some reason⟩ t :=
  ⟨ht.leaves, fun _ => rfl, fun _ => rfl⟩

/-- One cleanup for phases that reported every lost device. -/
theorem WatchesFlag.finishF2TransactionReports (h : WatchesFlag events)
    (hops : (ofEvents (events ops)).Running lost) {reports : List F2StepReport}
    (hlost : lost = true → ∃ report ∈ reports, report.outcome = .deviceLost) :
    (finishF2TransactionReports ops reports).2.1.Tells
      (ofEvents (events (finishF2TransactionReports ops reports).2.2)) := by
  rcases hreset : resetToStock ops with ⟨reset, ops₁⟩
  have hops₁ : (ofEvents (events ops₁)).Running lost := h.reset hreset ▸ hops
  cases hl : reports.findIdx? fun r => r.outcome == .deviceLost with
  | some i =>
    rcases hlisted : blacklistPoint true ops₁ with ⟨listed, ops₂⟩
    have hops₂ : (ofEvents (events ops₂)).Running lost := h.blacklist hlisted ▸ hops₁
    rw [finishF2TransactionReports_lost hl hreset hlisted]
    exact .retained hops₂ _
  | none =>
    obtain rfl : lost = false := by
      by_contra hne
      obtain ⟨report, hmem, ho⟩ := hlost (Bool.not_eq_false _ ▸ hne)
      simpa [ho] using List.findIdx?_eq_none_iff.mp hl report hmem
    cases hb : reports.findIdx? fun r => r.outcome.isBoundary with
    | some j =>
      rcases hlisted : blacklistPoint false ops₁ with ⟨listed, ops₂⟩
      have hops₂ : (ofEvents (events ops₂)).Running false := h.blacklist hlisted ▸ hops₁
      rw [finishF2TransactionReports_boundary hl hb hreset hlisted]
      rcases listed with e | ⟨⟩
      · exact .retained hops₂ _
      rcases reset with e | ⟨⟩
      · exact .retained hops₂ _
      · exact h.clearAfterReset hops₂ _
    | none =>
      rw [finishF2TransactionReports_plain hl hb hreset]
      rcases reset with e | ⟨⟩
      · exact .retained hops₁ _
      · exact h.clearAfterReset hops₁ _

/-- How a transaction begins: its write is active and armed, or it says what it leaves. -/
inductive TransactionBegan (events : O → List FlagEvent) :
    Except (O × F2StepReport × F2TransactionCleanup) (ActiveF2Candidate O) → Prop
  | active {active : ActiveF2Candidate O} (hops : (ofEvents (events active.ops)).Running false)
    (hfresh : active.baseReport.powerP99Confirmed = false) : TransactionBegan events (.ok active)
  | failed {ops : O} {report : F2StepReport} {cleanup : F2TransactionCleanup}
    (hcleanup : cleanup.Tells (ofEvents (events ops))) :
    TransactionBegan events (.error (ops, report, cleanup))

theorem WatchesFlag.beginF2CandidateTransaction [BuildEnv] (h : WatchesFlag events)
    (hops : (ofEvents (events ops)).Settled) :
    TransactionBegan events (beginF2CandidateTransaction ops) := by
  unfold Nidavellir.beginF2CandidateTransaction
  rcases harm : armBootFlag ops with ⟨e | ⟨⟩, ops₁⟩
  · rcases hreset : resetToStock ops₁ with ⟨reset, ops₂⟩
    have hops₂ : (ofEvents (events ops₂)).Settled := h.reset hreset ▸ h.armFailed hops harm
    simp only [hreset]
    exact .failed ⟨.inl hops₂, by simp, fun _ => rfl⟩
  have hops₁ := h.armed hops harm
  rcases happly : applyPositiveOffset ops₁ with ⟨e | ⟨⟩, ops₂⟩
  · have hops₂ : (ofEvents (events ops₂)).Running false := h.apply happly ▸ hops₁
    simp only [happly]
    exact .failed (h.finishF2TransactionReports hops₂ (by simp))
  rcases hverify : F2Ops.verify ops₂ with ⟨v, ops₃⟩
  have hops₃ : (ofEvents (events ops₃)).Running false :=
    h.verify hverify ▸ h.apply happly ▸ hops₁
  simp only [happly, hverify]
  split
  next => exact .failed (h.finishF2TransactionReports hops₃ (by simp))
  next => exact .active hops₃ rfl

end Motor

end Nidavellir

import Nidavellir.CandidateSlots
import Nidavellir.DiscoveryEvidence

namespace Nidavellir

open F2MultiStepOps
open Narrowing (Flow)

theorem zipWith_withReport_kind {running : List F2TimedPhaseReport} {reports : List F2StepReport}
    {timed : F2TimedPhaseReport}
    (h : timed ∈ running.zipWith F2TimedPhaseReport.withReport reports) :
    ∃ earlier ∈ running, timed.evidenceKind = earlier.evidenceKind := by
  induction running generalizing reports with
  | nil => simp at h
  | cons first running ih =>
    cases reports with
    | nil => simp at h
    | cons report reports =>
      rcases List.mem_cons.mp h with rfl | h
      · exact ⟨first, List.mem_cons_self, rfl⟩
      · obtain ⟨earlier, hearlier, hkind⟩ := ih h
        exact ⟨earlier, List.mem_cons_of_mem _ hearlier, hkind⟩

section Transaction

variable {W : Type*} {t : F2CandidateTransaction W} {ops : RealF2MultiOps W} {dwells : Nat}

def F2Executor.slot : F2Executor W → Option (RealF2MultiOps W)
  | .rest ops => some ops
  | .active _ => none

def F2Executor.transaction : F2Executor W → Option (ActiveF2Candidate (RealF2MultiOps W))
  | .rest _ => none
  | .active candidate => some candidate

namespace F2CandidateTransaction

/-- The slots that a transaction stands for. -/
def slots (t : F2CandidateTransaction W) (dwells : Nat) : F2CandidateSlots W where
  opsSlot := t.executor.slot
  active := t.executor.transaction
  phaseReports := t.phaseReports
  activeStart := t.finished.length
  finalCleanup := t.finalCleanup
  transactionAbortReason := t.abortReason
  discoveryDwells := dwells

/-- No report of a qualification yet. -/
def Discovers (t : F2CandidateTransaction W) : Prop :=
  ∀ timed ∈ t.phaseReports, timed.evidenceKind = .discovery

/-- The executor is in its slot. -/
def Rests (t : F2CandidateTransaction W) : Prop := ∃ ops, t.executor = .rest ops

theorem isActive_eq (t : F2CandidateTransaction W) :
    t.isActive = t.executor.transaction.isSome := by
  unfold isActive
  cases t.executor <;> rfl

theorem rests_of_not_active (h : t.isActive = false) : t.Rests := by
  cases hex : t.executor with
  | rest ops => exact ⟨ops, hex⟩
  | active candidate => simp [isActive, hex] at h

theorem Discovers.discoveryReports (h : t.Discovers) :
    (t.slots dwells).discoveryReports = t.attempts := by
  have hall : t.phaseReports.filter (fun timed => timed.evidenceKind == .discovery) =
      t.phaseReports := by
    rw [List.filter_eq_self]
    intro timed htimed
    rw [h timed htimed]
    rfl
  exact congrArg (List.map F2TimedPhaseReport.report) hall

variable [F2World W]

theorem discover_slots (discoveryDwellMs : Nat) :
    (t.slots dwells).discover discoveryDwellMs =
      (t.discover discoveryDwellMs).slots (dwells + t.isActive.toNat) := by
  unfold F2CandidateSlots.discover F2CandidateTransaction.discover
  cases hex : t.executor with
  | rest ops => simp [slots, hex, F2Executor.transaction, isActive]
  | active candidate =>
    simp [slots, hex, F2Executor.transaction, F2Executor.slot, isActive, phaseReports]

theorem finish_slots : (t.slots dwells).finishTimed = t.finish.slots dwells := by
  unfold F2CandidateSlots.finishTimed F2CandidateTransaction.finish
  cases hex : t.executor with
  | rest ops => simp [slots, hex, F2Executor.transaction]
  | active candidate =>
    simp [slots, hex, F2Executor.transaction, F2Executor.slot, phaseReports]

theorem finishAttempt_slots : (t.slots dwells).finishAttempt = t.finishAttempt.slots dwells := by
  unfold F2CandidateSlots.finishAttempt F2CandidateTransaction.finishAttempt
  rw [finish_slots]
  cases hex : t.executor with
  | rest ops => simp [slots, hex, F2Executor.transaction]
  | active candidate =>
    have hactive : (t.slots dwells).active = some candidate := by
      rw [slots, hex]
      rfl
    have hcleanup : (t.finish.slots dwells).finalCleanup = t.finish.finalCleanup := rfl
    simp only [hactive, hcleanup]
    rcases t.finish.finalCleanup with _ | ⟨_ | _, retain, reason⟩ <;> rfl

theorem finish_rests : t.finish.Rests := by
  unfold F2CandidateTransaction.finish
  cases hex : t.executor with
  | rest ops => exact ⟨ops, hex⟩
  | active candidate => exact ⟨_, rfl⟩

theorem finishAttempt_rests : t.finishAttempt.Rests := by
  unfold F2CandidateTransaction.finishAttempt
  cases hex : t.executor with
  | rest ops => exact ⟨ops, hex⟩
  | active candidate =>
    obtain ⟨ops, hops⟩ := finish_rests (t := t)
    dsimp only
    split <;> exact ⟨ops, hops⟩

theorem Discovers.discover (h : t.Discovers) (discoveryDwellMs : Nat) :
    (t.discover discoveryDwellMs).Discovers := by
  unfold F2CandidateTransaction.discover
  cases hex : t.executor with
  | rest ops => exact h
  | active candidate =>
    intro timed htimed
    simp only [phaseReports, ← List.append_assoc] at htimed
    rcases List.mem_append.mp htimed with htimed | htimed
    · exact h timed htimed
    · rw [List.mem_singleton.mp htimed]

theorem Discovers.finish (h : t.Discovers) : t.finish.Discovers := by
  unfold F2CandidateTransaction.finish
  cases hex : t.executor with
  | rest ops => exact h
  | active candidate =>
    intro timed htimed
    rcases List.mem_append.mp htimed with htimed | htimed
    · exact h timed (List.mem_append_left _ htimed)
    · obtain ⟨earlier, hearlier, hkind⟩ := zipWith_withReport_kind htimed
      exact hkind.trans (h earlier (List.mem_append_right _ hearlier))

theorem Discovers.finishAttempt (h : t.Discovers) : t.finishAttempt.Discovers := by
  unfold F2CandidateTransaction.finishAttempt
  cases hex : t.executor with
  | rest ops => exact h
  | active candidate =>
    dsimp only
    split <;> exact h.finish

variable [BuildEnv]

/-- The executor that a start takes is in the transaction or in its slot again. -/
theorem start_slots (failure : String) :
    ((t.slots dwells).selected ops).begin failure =
      .ok ((t.start failure ops).slots dwells) := by
  unfold F2CandidateSlots.begin F2CandidateTransaction.start F2CandidateSlots.selected
  rw [expectSome]
  cases hbegin : beginF2CandidateTransaction ops with
  | ok candidate =>
    simp [slots, F2Executor.slot, F2Executor.transaction, phaseReports, bind, Except.bind, hbegin]
  | error failed =>
    simp [slots, F2Executor.slot, F2Executor.transaction, phaseReports, bind, Except.bind, hbegin]

theorem Discovers.start (h : t.Discovers) (failure : String) :
    (t.start failure ops).Discovers := by
  unfold F2CandidateTransaction.start
  split
  next =>
    intro timed htimed
    exact h timed (by simpa [phaseReports] using htimed)
  next =>
    intro timed htimed
    rcases List.mem_append.mp htimed with htimed | htimed
    · exact h timed htimed
    · rw [List.mem_singleton.mp htimed]

theorem start_attempts {failure : String} (h : (t.start failure ops).isActive) :
    (t.start failure ops).attempts = t.attempts := by
  unfold start at h ⊢
  split at h
  next => simp [attempts, phaseReports]
  next => simp [isActive] at h

theorem start_aborts {failure : String} (h : (t.start failure ops).isActive = false) :
    (t.start failure ops).abortReason.isSome := by
  unfold start at h ⊢
  split at h
  next => cases h
  next => rfl

omit [BuildEnv] in
theorem finishAttempt_of_rests (h : t.Rests) : t.finishAttempt = t := by
  obtain ⟨ops, hops⟩ := h
  unfold F2CandidateTransaction.finishAttempt
  rw [hops]

omit [BuildEnv] in
theorem discover_of_rests (h : t.Rests) (discoveryDwellMs : Nat) :
    t.discover discoveryDwellMs = t := by
  obtain ⟨ops, hops⟩ := h
  unfold F2CandidateTransaction.discover
  rw [hops]

omit [BuildEnv] in
theorem discover_attempts_length (h : t.isActive) (discoveryDwellMs : Nat) :
    (t.discover discoveryDwellMs).attempts.length = t.attempts.length + 1 := by
  unfold F2CandidateTransaction.discover
  cases hex : t.executor with
  | rest ops => simp [isActive, hex] at h
  | active candidate => simp [attempts, phaseReports, Nat.add_assoc]

omit [BuildEnv] in
theorem discover_isActive (discoveryDwellMs : Nat) :
    (t.discover discoveryDwellMs).isActive = t.isActive := by
  unfold F2CandidateTransaction.discover
  cases hex : t.executor with
  | rest ops => simp [isActive, hex]
  | active candidate => simp [isActive, hex]

omit [BuildEnv] in
theorem finishAttempt_attempts_length : t.finishAttempt.attempts.length = t.attempts.length := by
  unfold F2CandidateTransaction.finishAttempt F2CandidateTransaction.finish
  cases hex : t.executor with
  | rest ops => rfl
  | active candidate =>
    have hlen := finishF2TransactionReports_length candidate.ops
      (t.running.map F2TimedPhaseReport.report)
    simp only [ActiveF2Candidate.finish]
    generalize finishF2TransactionReports candidate.ops
      (t.running.map F2TimedPhaseReport.report) = finished at hlen
    obtain ⟨reports, ⟨clean, retain, reason⟩, ops⟩ := finished
    rw [List.length_map] at hlen
    cases clean <;> simp [attempts, phaseReports, hlen]

theorem Discovers.retest (h : t.Discovers) (discoveryDwellMs i : Nat)
    (resolved : List F2StepReport → Bool) (left : Nat) :
    (retest discoveryDwellMs i resolved t left).Discovers := by
  induction left generalizing t with
  | zero => exact h
  | succ left ih =>
    unfold F2CandidateTransaction.retest
    split
    next =>
      split
      next => exact h
      next =>
        dsimp only
        split
        next =>
          split
          next => exact (h.start _).discover _
          next => exact ih ((h.start _).discover _).finishAttempt
        next => exact h.start _
    next => exact h

/-- The recheck loop finds the executor in its slot, and ends with the guard or a break. -/
theorem retest_slots (discoveryDwellMs i : Nat) (resolved : List F2StepReport → Bool) (left : Nat)
    (hrest : t.Rests) (hall : t.Discovers)
    (hcount : t.abortReason = none → t.attempts.length + left = powerP99MaxAttempts) :
    ∃ dwells', dwells' ≤ dwells + left ∧
      (t.slots dwells).retest discoveryDwellMs i resolved (left + 1) =
        .ok ((retest discoveryDwellMs i resolved t left).slots dwells') := by
  induction left generalizing t dwells with
  | zero =>
    refine ⟨dwells, Nat.le_refl _, ?_⟩
    unfold F2CandidateSlots.retest
    have hguard : ¬((t.slots dwells).discoveryReports.length < powerP99MaxAttempts ∧
        (t.slots dwells).transactionAbortReason.isNone) := by
      rintro ⟨hlt, hnone⟩
      have hlen := hcount (Option.isNone_iff_eq_none.mp hnone)
      rw [hall.discoveryReports] at hlt
      omega
    rw [if_neg hguard]
    rfl
  | succ left ih =>
    obtain ⟨ops, hops⟩ := hrest
    unfold F2CandidateSlots.retest
    cases habort : t.abortReason with
    | some reason =>
      refine ⟨dwells, Nat.le_add_right _ _, ?_⟩
      have hsame : retest discoveryDwellMs i resolved t (left + 1) = t := by
        simp [retest, habort]
      rw [if_neg (by simp [slots, habort]), hsame]
    | none =>
      have hlen := hcount habort
      have hguard : (t.slots dwells).discoveryReports.length < powerP99MaxAttempts ∧
          (t.slots dwells).transactionAbortReason.isNone := by
        rw [hall.discoveryReports]
        exact ⟨by omega, by simp [slots, habort]⟩
      have hslot : (t.slots dwells).opsSlot = some ops := by
        rw [slots, hops]
        rfl
      rw [if_pos hguard, hslot]
      simp only [expectSome, bind, Except.bind]
      unfold F2CandidateTransaction.retest
      simp only [habort, hops]
      rcases hselect : select i ops with ⟨e | ⟨⟩, ops'⟩
      · exact ⟨dwells, Nat.le_add_right _ _, by simp [slots, F2Executor.slot,
          F2Executor.transaction, phaseReports, hops]⟩
      · simp only
        rw [start_slots]
        have hactive : ((t.start "P99RetryStartFailed" ops').slots dwells).active.isNone =
            !(t.start "P99RetryStartFailed" ops').isActive := by
          rw [isActive_eq, Option.not_isSome]
          rfl
        simp only [hactive]
        cases hstart : (t.start "P99RetryStartFailed" ops').isActive with
        | false => exact ⟨dwells, Nat.le_add_right _ _, rfl⟩
        | true =>
          simp only [Bool.not_true, Bool.false_eq_true, if_false, if_true]
          generalize hstarted : t.start "P99RetryStartFailed" ops' = started at hstart
          have hdiscovers : (started.discover discoveryDwellMs).Discovers :=
            (hstarted ▸ hall.start "P99RetryStartFailed").discover discoveryDwellMs
          have hlength : (started.discover discoveryDwellMs).attempts.length =
              t.attempts.length + 1 := by
            rw [discover_attempts_length hstart, ← hstarted, start_attempts (hstarted ▸ hstart)]
          rw [discover_slots, hdiscovers.discoveryReports, hstart]
          split
          next => exact ⟨dwells + 1, by omega, rfl⟩
          next =>
            rw [finishAttempt_slots]
            obtain ⟨dwells', hle, heq⟩ := @ih (started.discover discoveryDwellMs).finishAttempt
              (dwells + 1) finishAttempt_rests hdiscovers.finishAttempt
              (fun _ => by rw [finishAttempt_attempts_length, hlength]; omega)
            exact ⟨dwells', by omega, heq⟩

end F2CandidateTransaction

end Transaction

theorem zipWith_append_drop {α β γ : Type*} (f : α → β → γ) (l l' : List α) (as : List β) :
    (l ++ l').zipWith f as = l.zipWith f as ++ l'.zipWith f (as.drop l.length) := by
  induction l generalizing as with
  | nil => rfl
  | cons x l ih =>
    cases as with
    | nil => simp
    | cons a as => simp [ih]

theorem F2CandidateTransaction.analysed_slots {W : Type*} {t : F2CandidateTransaction W}
    {dwells : Nat} {attempts : List F2StepReport} (h : attempts.length = t.attempts.length) :
    ({ t.slots dwells with
      phaseReports := t.phaseReports.zipWith F2TimedPhaseReport.analysed attempts } :
        F2CandidateSlots W) = (t.analysed attempts).slots dwells := by
  have hfinished : t.finished.length ≤ attempts.length := by
    rw [h, F2CandidateTransaction.attempts, F2CandidateTransaction.phaseReports, List.length_map,
      List.length_append]
    omega
  have hstart : (t.finished.zipWith F2TimedPhaseReport.analysed attempts).length =
      t.finished.length := by
    rw [List.length_zipWith]
    omega
  simp only [slots, analysed, phaseReports, zipWith_append_drop, hstart]

namespace F2DiscoveryCall

variable {W : Type*} [F2World W] [BuildEnv] (self : F2DiscoveryCall) (memory : F2DescentMemory)
  (i anchorMv : Nat) (ops : RealF2MultiOps W)

/-- A first attempt that did not abort leaves exactly one report. -/
theorem first_attempt (failure : String) (discoveryDwellMs : Nat) {fresh : F2CandidateTransaction W}
    (hfresh : fresh.phaseReports = [])
    (h : ((fresh.start failure ops).discover discoveryDwellMs).finishAttempt.abortReason = none) :
    ((fresh.start failure ops).discover discoveryDwellMs).finishAttempt.attempts.length = 1 := by
  rw [F2CandidateTransaction.finishAttempt_attempts_length]
  cases hactive : (fresh.start failure ops).isActive with
  | true =>
    rw [F2CandidateTransaction.discover_attempts_length hactive,
      F2CandidateTransaction.start_attempts hactive, F2CandidateTransaction.attempts, hfresh]
    rfl
  | false =>
    have hrests := F2CandidateTransaction.rests_of_not_active hactive
    have haborts := F2CandidateTransaction.start_aborts hactive
    rw [F2CandidateTransaction.discover_of_rests hrests,
      F2CandidateTransaction.finishAttempt_of_rests hrests] at h
    rw [h] at haborts
    cases haborts

theorem slotMeasure_ok : ∃ dwells ≤ powerP99MaxAttempts,
    self.slotMeasure memory i { opsSlot := some ops } =
      .ok ((self.measure memory i ops).1.slots dwells, (self.measure memory i ops).2) := by
  let fresh : F2CandidateTransaction W := { executor := .rest ops }
  have hfresh : ({ opsSlot := some ops } : F2CandidateSlots W) = (fresh.slots 0).selected ops := rfl
  have hdiscovers : (fresh.start "TransactionStartFailed" ops).Discovers := by
    refine F2CandidateTransaction.Discovers.start ?_ _
    intro timed htimed
    cases htimed
  have hone : 0 + (fresh.start "TransactionStartFailed" ops).isActive.toNat ≤ 1 := by
    rw [Nat.zero_add]
    exact Bool.toNat_le _
  unfold slotMeasure measure
  rw [hfresh, F2CandidateTransaction.start_slots]
  simp only [bind, Except.bind]
  rw [F2CandidateTransaction.discover_slots]
  have hfirst := @first_attempt W _ _ ops "TransactionStartFailed" self.discoveryDwellMs fresh rfl
  generalize hmeasured : (fresh.start "TransactionStartFailed" ops).discover
    self.discoveryDwellMs = measured at hfirst
  generalize 0 + (fresh.start "TransactionStartFailed" ops).isActive.toNat = dwells at hone
  have hmeasures : measured.Discovers := hmeasured ▸ hdiscovers.discover self.discoveryDwellMs
  obtain ⟨dwells', hle, hretest⟩ := @F2CandidateTransaction.retest_slots W
    measured.finishAttempt dwells _ _ self.discoveryDwellMs i
    (fun attempts => self.rules.recheckResolved attempts self.powerLimitW memory.previousCapState)
    (powerP99MaxAttempts - 1) F2CandidateTransaction.finishAttempt_rests hmeasures.finishAttempt
    (fun hnone => by rw [hfirst hnone]; rfl)
  have hattempts : (measured.slots dwells).phaseReports.map F2TimedPhaseReport.report =
      measured.attempts := rfl
  rw [F2CandidateTransaction.finishAttempt_slots, hattempts]
  split
  next hrechecked =>
    refine ⟨dwells', ?_, ?_⟩
    · exact hle.trans (by rw [powerP99MaxAttempts]; omega)
    · rw [show powerP99MaxAttempts = powerP99MaxAttempts - 1 + 1 from rfl, hretest]
      rfl
  next hrechecked => exact ⟨dwells, hone.trans (by decide), rfl⟩

theorem measure_discovers : (self.measure memory i ops).1.Discovers := by
  have hfirst : ((({ executor := .rest ops } : F2CandidateTransaction W).start
      "TransactionStartFailed" ops).discover self.discoveryDwellMs).Discovers := by
    refine (F2CandidateTransaction.Discovers.start ?_ _).discover _
    intro timed htimed
    cases htimed
  unfold measure
  dsimp only
  split
  next => exact hfirst.finishAttempt.retest _ _ _ _
  next => exact hfirst

/-- The transaction on which it is decided whether to qualify, and the verdict. -/
def analysis : F2CandidateTransaction W × F2PowerRules.Verdict :=
  let (t, rechecked) := self.measure memory i ops
  let attempts := if t.isActive then provisionalAttempts t.attempts else t.attempts
  let verdict := self.rules.analyse (attempts.headD emptyF2StepReport) attempts rechecked
    self.powerLimitW memory.previousCapState
  (t.analysed verdict.attempts, verdict)

/-- Whether the code qualifies the candidate, nothing having aborted it. -/
def eligible (verdict : F2PowerRules.Verdict) : Bool :=
  f2ShouldQualifyDiscoveryCandidate verdict.decision verdict.nearCap
    self.descent.qualificationPasses

/-- A trial is its analysis, the qualification and the last cleanup. -/
theorem trial_analysis :
    (self.trial memory i anchorMv ops).toF2CandidateQualification =
        { self.qualify memory anchorMv (self.eligible (self.analysis memory i ops).2)
            (self.analysis memory i ops).1 with
          transaction := (self.qualify memory anchorMv
            (self.eligible (self.analysis memory i ops).2)
            (self.analysis memory i ops).1).transaction.finish } ∧
      (self.trial memory i anchorMv ops).verdict = (self.analysis memory i ops).2 := by
  unfold trial analysis
  generalize self.measure memory i ops = measured
  exact ⟨rfl, rfl⟩

theorem slotAnalyse_ok : ∃ dwells ≤ powerP99MaxAttempts,
    self.slotAnalyse memory i { opsSlot := some ops } =
      .ok ((self.analysis memory i ops).1.slots dwells, (self.analysis memory i ops).2) := by
  obtain ⟨dwells, hle, hmeasure⟩ := self.slotMeasure_ok memory i ops
  have hdiscovers := self.measure_discovers memory i ops
  refine ⟨dwells, hle, ?_⟩
  unfold slotAnalyse analysis
  rw [hmeasure]
  simp only [bind, Except.bind]
  generalize self.measure memory i ops = measured at hdiscovers
  obtain ⟨t, rechecked⟩ := measured
  have hactive : (t.slots dwells).active.isSome = t.isActive := t.isActive_eq.symm
  simp only [hdiscovers.discoveryReports, hactive]
  have hattempts : (if t.isActive then provisionalAttempts t.attempts else t.attempts).length =
      t.attempts.length := by
    split
    next => exact List.length_modify ..
    next => rfl
  generalize (if t.isActive then provisionalAttempts t.attempts else t.attempts) = attempts
    at hattempts
  obtain ⟨mark, hmark, -⟩ := @F2PowerRules.analyse_attempts self.rules
    (attempts.headD emptyF2StepReport) attempts rechecked self.powerLimitW memory.previousCapState
  have hlength := congrArg List.length hmark
  rw [List.length_map, hattempts] at hlength
  rw [← F2CandidateTransaction.analysed_slots hlength]
  rfl

/-- The slots that a qualification stands for. -/
def slotsOf (q : F2CandidateQualification W) (dwells : Nat) : F2SlotQualification W where
  slots := q.transaction.slots dwells
  outcome := q.outcome
  groups := q.groups
  marginHistory := q.marginHistory

omit [BuildEnv] in
theorem slotQualify_slots (eligible : Bool) (t : F2CandidateTransaction W) (dwells : Nat) :
    self.slotQualify memory anchorMv eligible (t.slots dwells) =
      slotsOf (self.qualify memory anchorMv eligible t) dwells := by
  unfold slotQualify qualify exhausted
  have habort : (t.slots dwells).transactionAbortReason = t.abortReason := rfl
  rw [habort]
  split
  next =>
    split
    next => rfl
    next =>
      cases hex : t.executor with
      | rest ops =>
        have hactive : (t.slots dwells).active = none := by
          rw [F2CandidateTransaction.slots, hex]
          rfl
        rw [hactive]
        rfl
      | active candidate =>
        have hactive : (t.slots dwells).active = some candidate := by
          rw [F2CandidateTransaction.slots, hex]
          rfl
        rw [hactive]
        dsimp only
        split
        next => simp [slotsOf, F2CandidateTransaction.slots, hex, F2Executor.slot,
          F2Executor.transaction, F2CandidateTransaction.phaseReports]
        next => simp [slotsOf, F2CandidateTransaction.slots, hex, F2Executor.slot,
          F2Executor.transaction, F2CandidateTransaction.phaseReports]
  next => rfl

def slotTrialOf (trial : F2CandidateTrial W) (dwells : Nat) : F2SlotTrial W where
  toF2SlotQualification := slotsOf trial.toF2CandidateQualification dwells
  verdict := trial.verdict

/-- No candidate finds the slot of the executor empty. -/
theorem slotTrial_ok : ∃ dwells ≤ powerP99MaxAttempts,
    self.slotTrial memory i anchorMv { opsSlot := some ops } =
      .ok (slotTrialOf (self.trial memory i anchorMv ops) dwells) := by
  obtain ⟨dwells, hle, hanalyse⟩ := self.slotAnalyse_ok memory i ops
  obtain ⟨htrial, hverdict⟩ := self.trial_analysis memory i anchorMv ops
  refine ⟨dwells, hle, ?_⟩
  rw [slotTrialOf, htrial, hverdict]
  unfold slotTrial
  rw [hanalyse]
  simp only [bind, Except.bind, slotQualify_slots]
  simp only [slotsOf, F2CandidateTransaction.finish_slots, eligible]

theorem trial_rests : (self.trial memory i anchorMv ops).transaction.Rests := by
  have htransaction := congrArg F2CandidateQualification.transaction
    (self.trial_analysis memory i anchorMv ops).1
  rw [htransaction]
  exact F2CandidateTransaction.finish_rests

end F2DiscoveryCall

end Nidavellir

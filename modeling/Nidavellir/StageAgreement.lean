import Nidavellir.SlotRefinement

namespace Nidavellir

open F2MultiStepOps
open Narrowing (Flow)

namespace F2PowerRules

variable {self : F2PowerRules} {reports : List F2StepReport} {rechecked : Bool}
  {powerLimitW : Option Float32} {previous : Option F2PowerCapState}

/-- Only a power that cannot be used leaves the power state open. -/
theorem capStateWithPrevious_eq_ambiguous {powerP99W powerCappedFrac : Option Float32} :
    self.capStateWithPrevious powerP99W powerLimitW powerCappedFrac previous = .ambiguous ↔
      powerP99W.filter self.finitePositive = none := by
  unfold capStateWithPrevious
  cases powerP99W.filter self.finitePositive with
  | none => simp
  | some powerP99 =>
    cases powerLimitW.filter self.finitePositive with
    | none => dsimp only; split <;> simp
    | some limit =>
      dsimp only
      split
      next => simp
      next =>
        split
        next => simp
        next => rcases previous with _ | _ | _ | _ <;> simp [Option.filter]

/-- So it does not matter which attempts have their capped fractions counted. -/
theorem attemptsCapState_eq_ambiguous :
    self.attemptsCapState reports powerLimitW previous = .ambiguous ↔
      self.capStateForAttempts reports powerLimitW previous = .ambiguous := by
  rw [attemptsCapState, capStateForAttempts, capStateWithPrevious_eq_ambiguous,
    capStateWithPrevious_eq_ambiguous]

theorem f2PowerBoundClockDrop_eq_validated {outcome : F2Outcome} {nearCap : Bool} :
    f2PowerBoundClockDrop outcome nearCap = .validated ↔ outcome = .validated := by
  unfold f2PowerBoundClockDrop
  split
  next h => simp [h.1]
  next => rfl

theorem analyse_dissent_outcome (first : F2StepReport)
    (h : self.consensus reports rechecked = false) :
    (self.analyse first reports rechecked powerLimitW previous).aggregate.outcome ≠
      .validated := by
  have hconfirm := self.confirmAttempts_eq reports rechecked
  rw [h] at hconfirm
  simp only [analyse, hconfirm, finalizeCapState, aggregateAttempts, Bool.false_eq_true, if_false,
    Option.isSome_none, and_false]
  split
  next hard hfind =>
    have hterminal := List.find?_some hfind
    intro hvalidated
    simp [hvalidated, F2Outcome.terminalFailure] at hterminal
  next => simp

/-- A pass is decided only on attempts that the recheck would take as resolved. -/
theorem resolved_of_validated (first : F2StepReport)
    (h : (self.analyse first reports true powerLimitW previous).decision = .validated) :
    self.recheckResolved reports powerLimitW previous := by
  rw [Verdict.decision, f2PowerBoundClockDrop_eq_validated] at h
  cases hconsensus : self.consensus reports true with
  | false => exact absurd h (analyse_dissent_outcome first hconsensus)
  | true =>
    obtain ⟨aggregate, hconfirmed, -, p99, hverdict⟩ := @analyse_consensus self reports true
      powerLimitW previous first hconsensus
    have hagree : self.attemptsHaveConsistentPair reports := by
      unfold consensus at hconsensus
      split at hconsensus
      next => cases hconsensus
      next => exact hconsensus
    have hcap : self.attemptsCapState reports powerLimitW previous ≠ .ambiguous := by
      intro hambiguous
      simp [hverdict, hambiguous, unconfirm, hconfirmed] at h
    rw [Ne, attemptsCapState_eq_ambiguous] at hcap
    simp [recheckResolved, hagree, hcap]

theorem usablePowers_unmarked :
    self.usablePowers (reports.map F2StepReport.unmarked) = self.usablePowers reports := by
  simp only [usablePowers, List.filter_map, List.filterMap_map]
  rfl

theorem recheckResolved_unmarked :
    self.recheckResolved (reports.map F2StepReport.unmarked) powerLimitW previous =
      self.recheckResolved reports powerLimitW previous := by
  simp only [recheckResolved, attemptsHaveConsistentPair, capStateForAttempts,
    usablePowers_unmarked, List.filter_map, List.filterMap_map]
  rfl

end F2PowerRules

theorem provisionalAttempts_concat (attempts : List F2StepReport) (last : F2StepReport) :
    provisionalAttempts (attempts ++ [last]) = attempts ++ [last.cleaned] := by
  unfold provisionalAttempts
  rw [List.modify_eq_take_drop]
  simp [F2StepReport.cleaned]

namespace F2CandidateTransaction

variable {W : Type*} [F2World W] {t : F2CandidateTransaction W}

/-- What the recheck looked at is what the attempt leaves after a clean cleanup. -/
theorem finishAttempt_provisional {timed : F2TimedPhaseReport} (hactive : t.isActive)
    (hrunning : t.running = [timed]) (hnone : t.finishAttempt.abortReason = none) :
    t.finishAttempt.attempts.map F2StepReport.unmarked =
      (provisionalAttempts t.attempts).map F2StepReport.unmarked := by
  unfold F2CandidateTransaction.finishAttempt F2CandidateTransaction.finish at hnone ⊢
  cases hex : t.executor with
  | rest ops => simp [isActive, hex] at hactive
  | active candidate =>
    have hreason := finishF2TransactionReports_explained candidate.ops [timed.report]
    have hclean := @finishF2TransactionReports_clean _ _ candidate.ops [timed.report]
    have hlength := finishF2TransactionReports_length candidate.ops [timed.report]
    simp only [hex, hrunning, ActiveF2Candidate.finish, List.map_cons, List.map_nil] at hnone ⊢
    generalize finishF2TransactionReports candidate.ops [timed.report] = finished
      at hnone hreason hclean hlength ⊢
    obtain ⟨reports, ⟨clean, retain, reason⟩, ops⟩ := finished
    cases clean with
    | false =>
      have hsome := hreason rfl
      simp_all
    | true =>
      obtain ⟨report, rfl⟩ := List.length_eq_one_iff.mp hlength
      have hreport : report.unmarked = timed.report.cleaned.unmarked := by
        simpa using hclean rfl
      have hattempts : t.attempts = t.finished.map F2TimedPhaseReport.report ++ [timed.report] := by
        simp [attempts, phaseReports, hrunning]
      rw [hattempts, provisionalAttempts_concat, List.map_append]
      simp [attempts, phaseReports, F2TimedPhaseReport.withReport, hreport]

theorem finish_abortReason : t.finish.abortReason = t.abortReason := by
  unfold F2CandidateTransaction.finish
  split <;> rfl

variable [BuildEnv]

theorem start_discover_running {failure : String} {ops : RealF2MultiOps W}
    (h : (t.start failure ops).isActive) (discoveryDwellMs : Nat) :
    ∃ timed, ((t.start failure ops).discover discoveryDwellMs).running = [timed] := by
  unfold start at h ⊢
  cases hbegin : beginF2CandidateTransaction ops with
  | ok candidate => exact ⟨_, rfl⟩
  | error failed => simp [hbegin, isActive] at h

/-- A recheck that gave the executor back without an abort has not resolved its attempts. -/
theorem retest_unresolved {discoveryDwellMs i : Nat} {resolved : List F2StepReport → Bool}
    (hresolved : ∀ reports reports' : List F2StepReport,
      reports.map F2StepReport.unmarked = reports'.map F2StepReport.unmarked →
        resolved reports = resolved reports')
    (left : Nat) (hleft : left = 0 → t.abortReason = none → resolved t.attempts = false)
    (hactive : (retest discoveryDwellMs i resolved t left).isActive = false)
    (hnone : (retest discoveryDwellMs i resolved t left).abortReason = none) :
    resolved (retest discoveryDwellMs i resolved t left).attempts = false := by
  induction left generalizing t with
  | zero => exact hleft rfl hnone
  | succ left ih =>
    unfold F2CandidateTransaction.retest at hactive hnone ⊢
    cases habort : t.abortReason with
    | some reason => simp [habort] at hnone
    | none =>
      cases hex : t.executor with
      | active candidate => simp [habort, hex, isActive] at hactive
      | rest ops =>
        simp only [habort, hex] at hactive hnone ⊢
        rcases hselect : select i ops with ⟨e | ⟨⟩, ops'⟩
        · simp [hselect] at hnone
        · simp only [hselect] at hactive hnone ⊢
          cases hstart : (t.start "P99RetryStartFailed" ops').isActive with
          | false =>
            have haborts := start_aborts hstart
            simp only [hstart, Bool.false_eq_true, if_false] at hnone
            rw [hnone] at haborts
            cases haborts
          | true =>
            simp only [hstart, if_true] at hactive hnone ⊢
            split at hactive
            next =>
              rw [discover_isActive, hstart] at hactive
              cases hactive
            next hgo =>
              rw [if_neg hgo] at hnone ⊢
              refine ih ?_ hactive hnone
              intro _ hclean
              obtain ⟨timed, htimed⟩ := start_discover_running hstart discoveryDwellMs
              have hactive' : ((t.start "P99RetryStartFailed" ops').discover
                  discoveryDwellMs).isActive := by rw [discover_isActive, hstart]
              have hsame := finishAttempt_provisional hactive' htimed hclean
              rw [hresolved _ _ hsame]
              exact (Bool.or_eq_false_iff.mp (Bool.eq_false_iff.mpr hgo)).2

end F2CandidateTransaction

namespace F2DiscoveryCall

variable {W : Type*} [F2World W] [BuildEnv] (self : F2DiscoveryCall) (memory : F2DescentMemory)
  (i anchorMv : Nat) (ops : RealF2MultiOps W)

/-- Without an abort, only a recheck that is not resolved gives the executor back before the
analysis. -/
theorem measure_unresolved (hactive : (self.measure memory i ops).1.isActive = false)
    (hnone : (self.measure memory i ops).1.abortReason = none) :
    (self.measure memory i ops).2 = true ∧
      self.rules.recheckResolved (self.measure memory i ops).1.attempts self.powerLimitW
        memory.previousCapState = false := by
  unfold measure at hactive hnone ⊢
  dsimp only at hactive hnone ⊢
  split at hactive
  next hrechecked =>
    rw [if_pos hrechecked] at hnone ⊢
    refine ⟨rfl, ?_⟩
    refine F2CandidateTransaction.retest_unresolved ?_ _ (fun h => absurd h (by decide)) hactive
      hnone
    intro reports reports' hsame
    rw [← F2PowerRules.recheckResolved_unmarked, hsame, F2PowerRules.recheckResolved_unmarked]
  next hrechecked =>
    rw [if_neg hrechecked] at hnone
    rw [F2CandidateTransaction.discover_isActive] at hactive
    have haborts := F2CandidateTransaction.start_aborts hactive
    rw [F2CandidateTransaction.discover_of_rests
      (F2CandidateTransaction.rests_of_not_active hactive)] at hnone
    rw [hnone] at haborts
    cases haborts

/-- The transaction of an eligible candidate is still active: the recheck and the analysis decide
alike. -/
theorem eligible_active (heligible : self.eligible (self.analysis memory i ops).2)
    (hnone : (self.analysis memory i ops).1.abortReason = none) :
    (self.analysis memory i ops).1.isActive := by
  have hactive : (self.analysis memory i ops).1.isActive =
      (self.measure memory i ops).1.isActive := rfl
  have habort : (self.analysis memory i ops).1.abortReason =
      (self.measure memory i ops).1.abortReason := rfl
  by_contra hrests
  rw [Bool.not_eq_true, hactive] at hrests
  rw [habort] at hnone
  obtain ⟨hrechecked, hunresolved⟩ := self.measure_unresolved memory i ops hrests hnone
  have hvalidated : (self.analysis memory i ops).2.decision = .validated := by
    unfold eligible f2ShouldQualifyDiscoveryCandidate at heligible
    simp only [Bool.and_eq_true, beq_iff_eq] at heligible
    exact heligible.1.1
  have hverdict : (self.analysis memory i ops).2 =
      self.rules.analyse ((self.measure memory i ops).1.attempts.headD emptyF2StepReport)
        (self.measure memory i ops).1.attempts true self.powerLimitW memory.previousCapState := by
    unfold analysis
    dsimp only
    rw [hrests, hrechecked]
    rfl
  rw [hverdict] at hvalidated
  rw [F2PowerRules.resolved_of_validated _ hvalidated] at hunresolved
  cases hunresolved

/-- What the qualification of an active transaction ends with. -/
def qualificationOf (candidate : ActiveF2Candidate (RealF2MultiOps W)) : F2QualificationOutcome :=
  let (stop, ops) := candidate.ops.through F2World.stopRequested
  if stop then .cancelled
  else (self.qualifier.run ⟨{ candidate with ops }, memory.marginHistory⟩).2.1

/-- The pair is exhausted, or its transaction is active and was qualified. -/
def Settled (active : Option (ActiveF2Candidate (RealF2MultiOps W)))
    (outcome : Option F2QualificationOutcome) : Prop :=
  self.exhausted anchorMv = true ∧ outcome = some .inconclusive ∨
    ∃ candidate, active = some candidate ∧
      outcome = some (self.qualificationOf memory candidate)

omit [BuildEnv] in
/-- An eligible candidate is qualified, unless its pair is exhausted. -/
theorem qualify_settled {t : F2CandidateTransaction W} (hactive : t.isActive)
    (hnone : t.abortReason = none) :
    self.Settled memory anchorMv t.executor.transaction
      (self.qualify memory anchorMv true t).outcome := by
  unfold qualify
  rw [hnone]
  simp only [Option.isNone_none, Bool.and_self, if_true]
  split
  next hexhausted => exact .inl ⟨hexhausted, rfl⟩
  next =>
    split
    next ops hex => simp [F2CandidateTransaction.isActive, hex] at hactive
    next candidate hex =>
      refine .inr ⟨candidate, by rw [hex]; rfl, ?_⟩
      unfold qualificationOf
      dsimp only
      split <;> rfl

omit [BuildEnv] in
theorem qualify_abortReason (eligible : Bool) (t : F2CandidateTransaction W) :
    (self.qualify memory anchorMv eligible t).transaction.abortReason = t.abortReason := by
  unfold qualify
  split
  next =>
    split
    next => rfl
    next =>
      split
      next => rfl
      next =>
        dsimp only
        split <;> rfl
  next => rfl

theorem trial_abortReason : (self.trial memory i anchorMv ops).transaction.abortReason =
    (self.analysis memory i ops).1.abortReason := by
  have htransaction := congrArg F2CandidateQualification.transaction
    (self.trial_analysis memory i anchorMv ops).1
  dsimp only at htransaction
  rw [htransaction, F2CandidateTransaction.finish_abortReason, qualify_abortReason]

/-- A trial that aborted nowhere has qualified its eligible candidate. -/
theorem trial_settled (heligible : self.eligible (self.analysis memory i ops).2)
    (hnone : (self.analysis memory i ops).1.abortReason = none) :
    self.Settled memory anchorMv (self.analysis memory i ops).1.executor.transaction
      (self.trial memory i anchorMv ops).outcome := by
  have houtcome := congrArg F2CandidateQualification.outcome
    (self.trial_analysis memory i anchorMv ops).1
  dsimp only at houtcome
  rw [houtcome, heligible]
  exact self.qualify_settled memory anchorMv (self.eligible_active memory i ops heligible hnone)
    hnone

end F2DiscoveryCall

/-- A descent that no `expect` ended. -/
def F2DescentState.Unpanicked (self : F2DescentState) : Prop :=
  ∀ message, self.stopReason ≠ .expectFailed message

theorem expectQualification_ok {flow : Flow F2DescentState}
    (h : flow.Ends (fun _ => True) F2DescentState.Unpanicked) :
    expectQualification flow = .ok flow := by
  cases h with
  | next => rfl
  | @stop s hs =>
    rw [expectQualification]
    split
    next message hmessage => exact absurd hmessage (hs message)
    next => rfl

namespace F2ClockDescent

variable (self : F2ClockDescent) {s : F2DescentState} {v : F2Visit}

theorem narrow_unpanicked : (self.narrow s v).Ends (fun _ => True) F2DescentState.Unpanicked := by
  unfold narrow
  split
  next =>
    split
    next =>
      dsimp only
      split
      next => exact .next trivial
      next => exact .stop nofun
    next => exact .next trivial
  next => exact .next trivial

theorem refuseQualified_unpanicked {origin : Option Nat} {outcome : F2QualificationOutcome}
    {reason : String} : (self.refuseQualified s v origin outcome (.text reason)).Ends
      (fun _ => True) F2DescentState.Unpanicked := by
  unfold refuseQualified
  dsimp only
  split
  next => exact .stop nofun
  next =>
    split
    next => exact .next trivial
    next => exact .stop nofun

theorem onQualification_unpanicked {origin : Option Nat} (h : v.qualification.isSome) :
    (self.onQualification s v origin).Ends (fun _ => True) F2DescentState.Unpanicked := by
  unfold onQualification
  split
  next hnone => simp [hnone] at h
  next => exact self.narrow_unpanicked
  next => exact self.refuseQualified_unpanicked
  next => exact .stop nofun
  next => exact self.refuseQualified_unpanicked
  next => exact .stop nofun
  next => exact .stop nofun

theorem onDecision_unpanicked {origin : Option Nat}
    (h : f2ShouldQualifyDiscoveryCandidate v.report.outcome v.nearCap self.qualificationPasses →
      v.qualification.isSome) :
    (self.onDecision s v origin).Ends (fun _ => True) F2DescentState.Unpanicked := by
  unfold onDecision
  split
  next =>
    split
    next heligible => exact self.onQualification_unpanicked (h heligible)
    next => exact self.narrow_unpanicked
  next =>
    split
    next heligible => exact self.onQualification_unpanicked (h heligible)
    next => exact self.narrow_unpanicked
  next => exact .stop nofun
  next => exact .stop nofun
  next => exact .stop nofun
  next => exact .stop nofun

theorem settle_unpanicked {answer : F2CandidateAnswer}
    (h : v.abortReason = none →
      f2ShouldQualifyDiscoveryCandidate v.report.outcome v.nearCap self.qualificationPasses →
        v.qualification.isSome) :
    (self.settle s answer v).Ends (fun _ => True) F2DescentState.Unpanicked := by
  unfold settle
  split
  next => exact .stop nofun
  next =>
    dsimp only
    split
    next => exact .stop nofun
    next hnone =>
      unfold schedule recede
      split
      next =>
        dsimp only
        split
        next => exact .next trivial
        next => exact self.onDecision_unpanicked (h hnone)
      next => exact self.onDecision_unpanicked (h hnone)

/-- A visit that did not abort keeps the qualification of its answer. -/
theorem visit_qualification (s : F2DescentState) {answer : F2CandidateAnswer}
    (h : answer.abortReason = none →
      f2ShouldQualifyDiscoveryCandidate (f2PowerBoundClockDrop answer.report.outcome answer.nearCap)
        answer.nearCap self.qualificationPasses → answer.qualification.isSome)
    (hnone : (self.visit s answer).abortReason = none)
    (heligible : f2ShouldQualifyDiscoveryCandidate (self.visit s answer).report.outcome
      (self.visit s answer).nearCap self.qualificationPasses) :
    (self.visit s answer).qualification.isSome := by
  unfold visit at hnone heligible ⊢
  dsimp only at hnone heligible ⊢
  split at hnone
  next hclean =>
    rw [if_pos hclean] at heligible ⊢
    dsimp only at hnone heligible ⊢
    rw [hnone, Option.isNone_none, Bool.true_and, if_pos heligible]
    exact h hnone heligible
  next => cases hnone

end F2ClockDescent

namespace F2DiscoveryCall

variable {W : Type*} [F2World W] [BuildEnv] (self : F2DiscoveryCall)

theorem testCandidate_recordTrial (s : F2DiscoveryState W)
    (candidate : AnchoredPositiveOffsetPlan) (answer : F2CandidateAnswer) :
    self.testCandidate s candidate answer = self.recordTrial s candidate answer
      (self.trial s.memory s.descent.currentIndex candidate.anchor.voltageMv s.ops) := rfl

/-- The qualification that the scheduling expects was made. -/
theorem tested_qualification (s : F2DiscoveryState W) (candidate : AnchoredPositiveOffsetPlan)
    (answer : F2CandidateAnswer)
    (hnone : (self.testCandidate s candidate answer).1.abortReason = none)
    (heligible : f2ShouldQualifyDiscoveryCandidate
      (f2PowerBoundClockDrop (self.testCandidate s candidate answer).1.report.outcome
        (self.testCandidate s candidate answer).1.nearCap)
      (self.testCandidate s candidate answer).1.nearCap self.descent.qualificationPasses) :
    (self.testCandidate s candidate answer).1.qualification.isSome := by
  rw [testCandidate_recordTrial] at hnone heligible ⊢
  simp only [recordTrial] at hnone heligible ⊢
  rw [self.trial_abortReason] at hnone
  have hsettled := self.trial_settled s.memory s.descent.currentIndex candidate.anchor.voltageMv
    s.ops heligible hnone
  rcases hsettled with ⟨-, houtcome⟩ | ⟨_, -, houtcome⟩
  · rw [houtcome]
    rfl
  · rw [houtcome]
    rfl

omit [F2World W] [BuildEnv] in
theorem closed_slotTrialOf {trial : F2CandidateTrial W} {ops : RealF2MultiOps W}
    (h : trial.transaction.executor = .rest ops) (dwells : Nat) :
    (slotTrialOf trial dwells).closed ops = trial := by
  obtain ⟨⟨t, outcome, groups, history⟩, verdict⟩ := trial
  obtain ⟨executor, finished, running, cleanup, reason⟩ := t
  obtain rfl : executor = .rest ops := h
  simp [F2SlotTrial.closed, slotTrialOf, slotsOf, F2CandidateTransaction.slots,
    F2CandidateTransaction.phaseReports]

/-- An iteration over the slot is an iteration of the discovery. -/
theorem slotIteration_ok (s : F2DiscoveryState W) : ∃ dwells ≤ powerP99MaxAttempts,
    self.slotIteration s.slotted =
      .ok ⟨(self.iteration s).1, dwells, (self.iteration s).2.map F2DiscoveryState.slotted⟩ := by
  have hindex : s.slotted.descent = s.descent := rfl
  unfold slotIteration
  rw [hindex]
  cases hc : self.descent.candidates[s.descent.currentIndex]? with
  | none =>
    refine ⟨0, Nat.zero_le _, ?_⟩
    rw [self.iteration_over hc]
    rfl
  | some candidate =>
    have hslot : expectSome executorReturned s.slotted.opsSlot = .ok s.ops := rfl
    have hholding : s.slotted.holding s.ops = s := rfl
    simp only [hslot, bind, Except.bind, hholding]
    cases hr : self.descent.refuse s.descent candidate (self.precheck s candidate).1 with
    | some descent =>
      refine ⟨0, Nat.zero_le _, ?_⟩
      rw [self.iteration_refused hc hr]
      rfl
    | none =>
      obtain ⟨dwells, hle, htrial⟩ := self.slotTrial_ok s.slotted.memory s.descent.currentIndex
        candidate.anchor.voltageMv (self.precheck s candidate).2
      refine ⟨dwells, hle, ?_⟩
      rw [htrial, self.iteration_tested hc hr]
      obtain ⟨ops, hrest⟩ := self.trial_rests s.memory s.descent.currentIndex
        candidate.anchor.voltageMv (self.precheck s candidate).2
      have hmemory : s.slotted.memory = s.memory := rfl
      have hrecord : self.recordTrial (s.slotted.holding ops) candidate
          (self.precheck s candidate).1 (self.trial s.memory s.descent.currentIndex
            candidate.anchor.voltageMv (self.precheck s candidate).2) =
          self.tested s candidate := rfl
      have hback : (slotTrialOf (self.trial s.memory s.descent.currentIndex
          candidate.anchor.voltageMv (self.precheck s candidate).2) dwells).slots.opsSlot =
            some ops := congrArg F2Executor.slot hrest
      have hsettle : expectQualification (self.descent.settle s.descent (self.tested s candidate).1
          (self.tested s candidate).2.1.visit) = .ok (self.descent.settle s.descent
            (self.tested s candidate).1 (self.tested s candidate).2.1.visit) := by
        refine expectQualification_ok (self.descent.settle_unpanicked ?_)
        rw [self.tested_visit s candidate]
        exact self.descent.visit_qualification s.descent (self.tested_qualification _ _ _)
      simp only [hmemory, hback, expectSome, closed_slotTrialOf hrest, hrecord, hsettle,
        Flow.map_map]
      rfl

/-- So no run of the discovery finds the slot empty or a qualification missing. -/
theorem slotRun_ok (fuel : Nat) (s : F2DiscoveryState W) :
    self.slotRun fuel s.slotted =
      .ok ((self.run fuel s).1, (self.run fuel s).2.map F2DiscoveryState.slotted) := by
  induction fuel generalizing s with
  | zero => rfl
  | succ fuel ih =>
    have hindex : s.slotted.descent = s.descent := rfl
    unfold slotRun run Narrowing.loop
    rw [hindex]
    by_cases hlt : s.descent.currentIndex < self.descent.candidates.length
    · obtain ⟨dwells, -, hiteration⟩ := self.slotIteration_ok s
      simp only [hlt, decide_true, if_true, hiteration, bind, Except.bind]
      rcases self.iteration s with ⟨visit, next | stop⟩
      · have hrest := ih next
        unfold run at hrest
        simp only [Flow.map, hrest]
      · rfl
    · simp [hlt, Flow.map]

/-- The consensus on a candidate and its qualification agree. An iteration dwells at most three
times for the discovery and gives its executor back; a candidate whose aggregate passed off the
cap, aborted nowhere and asks for a qualification is exhausted or was qualified while its write
was active; so no `expect` of a run fails. -/
theorem stages_agree (s : F2DiscoveryState W) (memory : F2DescentMemory) (i anchorMv : Nat)
    (ops : RealF2MultiOps W) (fuel : Nat) :
    (∃ iteration, self.slotIteration s.slotted = .ok iteration ∧
      iteration.discoveryDwells ≤ powerP99MaxAttempts ∧ iteration.flow.state.opsSlot.isSome) ∧
    (∃ slots verdict trial, self.slotAnalyse memory i { opsSlot := some ops } =
        .ok (slots, verdict) ∧
      self.slotTrial memory i anchorMv { opsSlot := some ops } = .ok trial ∧
      trial.slots.discoveryDwells ≤ powerP99MaxAttempts ∧ trial.slots.opsSlot.isSome ∧
      (verdict.decision = .validated ∧ verdict.nearCap = false ∧
          0 < self.descent.qualificationPasses ∧ slots.transactionAbortReason = none →
        self.Settled memory anchorMv slots.active trial.outcome)) ∧
    (∃ visits flow, self.slotRun fuel s.slotted = .ok (visits, flow) ∧
      flow.state.opsSlot.isSome) := by
  refine ⟨?_, ?_, ?_⟩
  · obtain ⟨dwells, hle, hiteration⟩ := self.slotIteration_ok s
    refine ⟨_, hiteration, hle, ?_⟩
    rw [Flow.state_map]
    rfl
  · obtain ⟨dwells, -, hanalyse⟩ := self.slotAnalyse_ok memory i ops
    obtain ⟨dwells', hle, htrial⟩ := self.slotTrial_ok memory i anchorMv ops
    obtain ⟨ops', hrest⟩ := self.trial_rests memory i anchorMv ops
    refine ⟨_, _, _, hanalyse, htrial, hle, ?_, ?_⟩
    · have hback : (slotTrialOf (self.trial memory i anchorMv ops) dwells').slots.opsSlot =
          some ops' := congrArg F2Executor.slot hrest
      rw [hback]
      rfl
    · rintro ⟨hvalidated, hcap, hpasses, hnone⟩
      refine self.trial_settled memory i anchorMv ops ?_ hnone
      simp [eligible, f2ShouldQualifyDiscoveryCandidate, hvalidated, hcap, hpasses]
  · refine ⟨_, _, self.slotRun_ok fuel s, ?_⟩
    rw [Flow.state_map]
    rfl

end F2DiscoveryCall

end Nidavellir

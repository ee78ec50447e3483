import Nidavellir.DiscoveryCall

namespace Nidavellir

open Narrowing (Flow)

theorem map_modify_eq {α β : Type*} {f : α → α} {g : α → β} (h : ∀ a, g (f a) = g a)
    (l : List α) (i : Nat) : (l.modify i f).map g = l.map g := by
  refine List.ext_getElem (by simp) fun j hj _ => ?_
  simp only [List.getElem_map, List.getElem_modify]
  split
  · exact h _
  · rfl

section Cleanup

variable {O : Type*} [F2Ops O]

/-- A report without the marks of the cleanup. -/
def F2StepReport.unmarked (self : F2StepReport) : F2StepReport :=
  { self with blacklisted := false, validated := false }

/-- A report after a reset that was confirmed and a flag that was cleared. -/
def F2StepReport.cleaned (self : F2StepReport) : F2StepReport :=
  { self with resetOk := some true, bootFlagCleared := true }

theorem clearAfterReset_clean {ops : O} {reports : List F2StepReport}
    (hclean : (clearAfterReset ops reports).2.1.clean) :
    (clearAfterReset ops reports).1.map F2StepReport.unmarked =
      reports.map fun report => { report.unmarked with bootFlagCleared := true } := by
  unfold clearAfterReset at hclean ⊢
  split
  next => simp [F2StepReport.unmarked, Function.comp_def]
  next h => simp [h] at hclean

theorem unmarked_resetReports (reports : List F2StepReport) :
    (resetReports reports true).map
        (fun report => { report.unmarked with bootFlagCleared := true }) =
      reports.map fun report => report.cleaned.unmarked := by
  simp [resetReports, F2StepReport.unmarked, F2StepReport.cleaned, Function.comp_def]

/-- A cleanup that ends clean only marks its reports. -/
theorem finishF2TransactionReports_clean {ops : O} {reports : List F2StepReport}
    (hclean : (finishF2TransactionReports ops reports).2.1.clean) :
    (finishF2TransactionReports ops reports).1.map F2StepReport.unmarked =
      reports.map fun report => report.cleaned.unmarked := by
  unfold finishF2TransactionReports at hclean ⊢
  rcases hreset : F2Ops.resetToStock ops with ⟨reset, ops₁⟩
  simp only [hreset] at hclean ⊢
  cases hlost : reports.findIdx? fun report => report.outcome == .deviceLost with
  | some i => simp [hlost] at hclean
  | none =>
    cases hboundary : reports.findIdx? fun report => report.outcome.isBoundary with
    | none =>
      simp only [hlost, hboundary, Option.or_none, Option.isSome_none] at hclean ⊢
      cases reset with
      | error e => simp at hclean
      | ok =>
        simp only [Bool.false_eq_true, if_false] at hclean ⊢
        rw [clearAfterReset_clean hclean]
        exact unmarked_resetReports reports
    | some j =>
      rcases hlisted : F2Ops.blacklistPoint false ops₁ with ⟨listed, ops₂⟩
      simp only [hlost, hboundary, Option.none_or, Option.isSome_none, hlisted] at hclean ⊢
      cases listed with
      | error e => simp at hclean
      | ok =>
        cases reset with
        | error e => simp at hclean
        | ok =>
          simp only [Bool.false_eq_true, if_false] at hclean ⊢
          rw [clearAfterReset_clean hclean, markBlacklisted,
            map_modify_eq (fun report => by simp [F2StepReport.unmarked])]
          exact unmarked_resetReports reports

/-- So it leaves every outcome as it was. -/
theorem finishF2TransactionReports_outcomes {ops : O} {reports : List F2StepReport}
    (hclean : (finishF2TransactionReports ops reports).2.1.clean) :
    (finishF2TransactionReports ops reports).1.map F2StepReport.outcome =
      reports.map F2StepReport.outcome := by
  have houtcomes := congrArg (List.map F2StepReport.outcome)
    (finishF2TransactionReports_clean hclean)
  simpa [Function.comp_def, F2StepReport.unmarked, F2StepReport.cleaned] using houtcomes

/-- A cleanup that failed says why. -/
def F2TransactionCleanup.Explained (self : F2TransactionCleanup) : Prop :=
  self.clean = false → self.stopReason.isSome

theorem clearAfterReset_explained (ops : O) (reports : List F2StepReport) :
    (clearAfterReset ops reports).2.1.Explained := by
  unfold clearAfterReset
  split
  next => exact nofun
  next => exact fun _ => rfl

theorem finishF2TransactionReports_explained (ops : O) (reports : List F2StepReport) :
    (finishF2TransactionReports ops reports).2.1.Explained := by
  unfold finishF2TransactionReports
  dsimp only
  split
  next => exact fun _ => rfl
  next =>
    split
    next => exact fun _ => rfl
    next => exact fun _ => rfl
    next => exact clearAfterReset_explained _ _

theorem clearAfterReset_length (ops : O) (reports : List F2StepReport) :
    (clearAfterReset ops reports).1.length = reports.length := by
  unfold clearAfterReset
  split
  next => exact List.length_map ..
  next => exact List.length_modify ..

theorem finishF2TransactionReports_length (ops : O) (reports : List F2StepReport) :
    (finishF2TransactionReports ops reports).1.length = reports.length := by
  unfold finishF2TransactionReports
  dsimp only
  generalize F2Ops.resetToStock ops = reset
  cases (reports.findIdx? fun report => report.outcome == .deviceLost).or
    (reports.findIdx? fun report => report.outcome.isBoundary) with
  | none =>
    dsimp only
    split
    next => simp [resetReports]
    next => split <;> simp [resetReports, lastResetFailed, clearAfterReset_length]
  | some index =>
    dsimp only
    split
    next => simp [resetReports, markBlacklisted]
    next =>
      split <;> simp [resetReports, lastResetFailed, markBlacklisted, clearAfterReset_length]

end Cleanup

def F2TimedPhaseReport.shows (self : F2TimedPhaseReport) : F2EvidenceKind × F2Outcome :=
  (self.evidenceKind, self.report.outcome)

/-- The reports after a cleanup show what they showed before. -/
theorem zipWith_withReport_shows {running : List F2TimedPhaseReport} {reports : List F2StepReport}
    (h : reports.map F2StepReport.outcome =
      (running.map F2TimedPhaseReport.report).map F2StepReport.outcome) :
    (running.zipWith F2TimedPhaseReport.withReport reports).map F2TimedPhaseReport.shows =
      running.map F2TimedPhaseReport.shows := by
  induction running generalizing reports with
  | nil => simp
  | cons timed running ih =>
    cases reports with
    | nil => simp at h
    | cons report reports =>
      obtain ⟨ho, h⟩ := List.cons.inj h
      rw [List.zipWith_cons_cons, List.map_cons, List.map_cons, ih h]
      simp [F2TimedPhaseReport.shows, F2TimedPhaseReport.withReport, ho]

section Transaction

variable {W : Type*} [F2World W] {t : F2CandidateTransaction W}

/-- What a transaction shows survives a clean finish. -/
theorem F2CandidateTransaction.finish_shows (hactive : t.isActive)
    (hclean : t.finish.finalCleanup.any F2TransactionCleanup.clean) :
    t.finish.phaseReports.map F2TimedPhaseReport.shows =
      t.phaseReports.map F2TimedPhaseReport.shows := by
  unfold isActive at hactive
  unfold finish at hclean ⊢
  split at hclean
  next h => simp [h] at hactive
  next candidate h =>
    have houtcomes := finishF2TransactionReports_outcomes
      (show (candidate.finish (t.running.map F2TimedPhaseReport.report)).2.1.clean by
        simpa using hclean)
    simp only [phaseReports, List.map_append]
    congr 1
    exact zipWith_withReport_shows houtcomes

end Transaction

theorem isOk_map {ε α β : Type*} (f : α → β) (r : Except ε α) : (r.map f).isOk = r.isOk := by
  cases r <;> rfl

section Persist

variable {W : Type*} [F2World W] {call : F2DiscoveryCall}

/-- The log grows by the first of the reports, by all of them where nothing failed. -/
theorem F2DiscoveryCall.persist_spec (candidate : AnchoredPositiveOffsetPlan)
    (reports : List F2TimedPhaseReport) (log : List F2Observation) (w : W) :
    ∃ appended, (call.persist candidate reports log w).2.1 = log ++ appended ∧
      appended <+: reports.map (call.observationOf candidate) ∧
      ((call.persist candidate reports log w).1.isOk →
        appended = reports.map (call.observationOf candidate)) := by
  induction reports generalizing log w with
  | nil => exact ⟨[], by simp [persist]⟩
  | cons timed reports ih =>
    unfold persist
    rcases F2World.appendObservation timed.report w with ⟨e | _, w'⟩
    · exact ⟨[], by simp⟩
    · obtain ⟨appended, hlog, hpre, hall⟩ :=
        ih (log ++ [call.observationOf candidate timed]) w'
      refine ⟨call.observationOf candidate timed :: appended, ?_, ?_, ?_⟩
      · simpa using hlog
      · exact List.prefix_cons_inj _ |>.mpr hpre
      · intro hok
        rw [hall hok, List.map_cons]

end Persist

section Trial

variable {W : Type*} [F2World W] {call : F2DiscoveryCall}

/-- What the qualification of a candidate adds to its transaction. -/
structure F2CandidateQualification.Follows (q : F2CandidateQualification W)
    (call : F2DiscoveryCall) (anchorMv : Nat) (t : F2CandidateTransaction W) : Prop where
  shows : q.transaction.phaseReports.map F2TimedPhaseReport.shows =
    t.phaseReports.map F2TimedPhaseReport.shows ++
      (qualificationDwells q.groups).map fun report => (.qualification, report.outcome)
  allowed : qualificationDwells q.groups ≠ [] →
    f2PairQualificationExhausted call.priorRunQualification call.ctx.runId anchorMv = false
  active : qualificationDwells q.groups ≠ [] → q.transaction.isActive
  bounded : ∀ group ∈ q.groups, group.Bounded
  distinct : (q.groups.map F2PatternDwells.pattern).Nodup
  inconclusive : q.outcome = some .inconclusive → qualificationDwells q.groups ≠ [] →
    ∃ report ∈ qualificationDwells q.groups, report.outcome = .inconclusive

omit [F2World W] in
theorem follows_of_no_groups {q : F2CandidateQualification W} {anchorMv : Nat}
    {t : F2CandidateTransaction W} (hgroups : q.groups = [])
    (hreports : q.transaction.phaseReports = t.phaseReports) : q.Follows call anchorMv t where
  shows := by simp [hgroups, hreports, qualificationDwells]
  allowed h := absurd (by simp [hgroups, qualificationDwells]) h
  active h := absurd (by simp [hgroups, qualificationDwells]) h
  bounded := by simp [hgroups]
  distinct := by simp [hgroups]
  inconclusive _ h := absurd (by simp [hgroups, qualificationDwells]) h

theorem F2DiscoveryCall.qualify_follows (memory : F2DescentMemory) (anchorMv : Nat)
    (eligible : Bool) (t : F2CandidateTransaction W) :
    (call.qualify memory anchorMv eligible t).Follows call anchorMv t := by
  unfold qualify
  split
  next =>
    split
    next => exact follows_of_no_groups rfl rfl
    next hallowed =>
      split
      next => exact follows_of_no_groups rfl rfl
      next candidate _ =>
        dsimp only
        split
        next => exact follows_of_no_groups rfl rfl
        next =>
          obtain ⟨hbounded, hnodup⟩ := F2Qualifier.run_bounded call.qualifier
            ⟨{ candidate with ops := (candidate.ops.through F2World.stopRequested).2 },
              memory.marginHistory⟩
          exact {
            shows := by
              simp [F2CandidateTransaction.phaseReports, qualificationReports,
                F2TimedPhaseReport.shows]
            allowed := fun _ => Bool.not_eq_true _ ▸ hallowed
            active := fun _ => rfl
            bounded := hbounded
            distinct := hnodup
            inconclusive := fun ho _ => F2Qualifier.run_inconclusive (Option.some.inj ho) }
  next => exact follows_of_no_groups rfl rfl

end Trial

/-- The visit ran qualification dwells. -/
def F2CandidateVisit.qualificationDwells (self : F2CandidateVisit) : List F2StepReport :=
  Nidavellir.qualificationDwells self.groups

/-- Its qualification was completed, not cancelled, ended inconclusive and was persisted. -/
structure F2CandidateVisit.LeftInconclusive (v : F2CandidateVisit) : Prop where
  qualification : v.visit.qualification = some .inconclusive
  dwelt : v.qualificationDwells ≠ []
  persisted : v.persisted.isOk

/-- An observation of an inconclusive qualification of the pair. -/
structure F2Observation.Exhausts (o : F2Observation) (ctx : ObsContext)
    (targetMhz anchorMv : Nat) : Prop where
  runId : o.runId = ctx.runId
  gpuKey : o.gpuKey = ctx.gpuKey
  evidenceKind : o.evidenceKind = .qualification
  targetMhz : o.targetMhz = targetMhz
  anchorMv : o.anchorMv = anchorMv
  outcome : o.outcome = .qualificationInconclusive

/-- What holds of a visit once the log is `log`. -/
structure F2CandidateVisit.Recorded (v : F2CandidateVisit) (call : F2DiscoveryCall)
    (log : List F2Observation) : Prop where
  allowed : v.qualificationDwells ≠ [] → f2PairQualificationExhausted
    call.priorRunQualification call.ctx.runId v.candidate.anchor.voltageMv = false
  bounded : ∀ group ∈ v.groups, group.Bounded
  distinct : (v.groups.map F2PatternDwells.pattern).Nodup
  inconclusive : v.LeftInconclusive → ∃ o ∈ log,
    o.Exhausts call.qualCtx call.descent.targetMhz v.candidate.anchor.voltageMv

theorem F2CandidateVisit.Recorded.mono {v : F2CandidateVisit} {call : F2DiscoveryCall}
    {log log' : List F2Observation} (h : v.Recorded call log) (hlog : log <+: log') :
    v.Recorded call log' where
  allowed := h.allowed
  bounded := h.bounded
  distinct := h.distinct
  inconclusive hleft := by
    obtain ⟨o, ho, hexhausts⟩ := h.inconclusive hleft
    exact ⟨o, hlog.subset ho, hexhausts⟩

section Visit

theorem F2ClockDescent.visit_inconclusive {descent : F2ClockDescent} {s : F2DescentState}
    {answer : F2CandidateAnswer} (h : (descent.visit s answer).qualification = some .inconclusive) :
    answer.qualification = some .inconclusive ∧
      answer.cleanup.any F2TransactionCleanup.clean := by
  unfold visit at h
  dsimp only at h
  split at h
  next hclean =>
    split at h
    next =>
      refine ⟨h, ?_⟩
      cases hc : answer.cleanup with
      | none => simp [hc] at hclean
      | some cleanup => simpa [hc] using hclean
    next => cases h
  next =>
    obtain ⟨q, -, hq⟩ := Option.map_eq_some_iff.mp h
    cases hq

theorem F2DiscoveryCall.observationOf_exhausts {call : F2DiscoveryCall}
    {candidate : AnchoredPositiveOffsetPlan} {timed : F2TimedPhaseReport}
    (h : timed.shows = (.qualification, .inconclusive)) :
    (call.observationOf candidate timed).Exhausts call.qualCtx call.descent.targetMhz
      candidate.anchor.voltageMv := by
  obtain ⟨hkind, houtcome⟩ := Prod.mk.inj h
  constructor <;>
    simp [observationOf, hkind, houtcome, observationFromAnchoredStep, call.qualifies, mapOutcome]

theorem mem_persistOrder {reports : List F2TimedPhaseReport} {timed : F2TimedPhaseReport}
    (hmem : timed ∈ reports) (hkind : timed.evidenceKind = .qualification) :
    timed ∈ f2CandidatePersistOrder reports true := by
  rw [f2CandidatePersistOrder, if_pos rfl]
  exact List.mem_append_left _ (List.mem_filter.mpr ⟨hmem, by simp [hkind]⟩)

variable {W : Type*} [F2World W] [BuildEnv] {call : F2DiscoveryCall}

/-- A trial is a qualification, finished. -/
theorem F2DiscoveryCall.trial_qualify (memory : F2DescentMemory) (i anchorMv : Nat)
    (ops : RealF2MultiOps W) :
    ∃ (t : F2CandidateTransaction W) (q : F2CandidateQualification W),
      q.Follows call anchorMv t ∧ (call.trial memory i anchorMv ops).groups = q.groups ∧
        (call.trial memory i anchorMv ops).outcome = q.outcome ∧
        (call.trial memory i anchorMv ops).transaction = q.transaction.finish :=
  ⟨_, _, call.qualify_follows memory anchorMv _ _, rfl, rfl, rfl⟩

omit [BuildEnv] in
/-- An inconclusive dwell is among the reports of a qualification that was finished clean. -/
theorem F2CandidateQualification.Follows.shows_inconclusive {q : F2CandidateQualification W}
    {anchorMv : Nat} {t : F2CandidateTransaction W} (h : q.Follows call anchorMv t)
    (ho : q.outcome = some .inconclusive) (hdwelt : qualificationDwells q.groups ≠ [])
    (hclean : q.transaction.finish.finalCleanup.any F2TransactionCleanup.clean) :
    ∃ timed ∈ q.transaction.finish.phaseReports,
      timed.shows = (.qualification, .inconclusive) := by
  obtain ⟨report, hmem, hreport⟩ := h.inconclusive ho hdwelt
  have hshows := (F2CandidateTransaction.finish_shows (h.active hdwelt) hclean).trans h.shows
  have hin : (F2EvidenceKind.qualification, F2Outcome.inconclusive) ∈
      q.transaction.finish.phaseReports.map F2TimedPhaseReport.shows := by
    rw [hshows]
    exact List.mem_append_right _ (List.mem_map.mpr ⟨report, hmem, by rw [hreport]⟩)
  exact List.mem_map.mp hin

/-- What a test of a candidate appends to the log. -/
theorem F2DiscoveryCall.testCandidate_persist (s : F2DiscoveryState W)
    (candidate : AnchoredPositiveOffsetPlan) (answer : F2CandidateAnswer) :
    let trial := call.trial s.memory s.descent.currentIndex candidate.anchor.voltageMv s.ops
    let order := f2CandidatePersistOrder trial.transaction.phaseReports
      (trial.transaction.finalCleanup.any F2TransactionCleanup.clean)
    ∃ appended, (call.testCandidate s candidate answer).2.2.observations =
        s.observations ++ appended ∧
      ((call.testCandidate s candidate answer).2.1.persisted.isOk →
        appended = order.map (call.observationOf candidate)) := by
  intro trial order
  obtain ⟨appended, hlog, -, hall⟩ := call.persist_spec candidate order s.observations
    trial.transaction.executor.ops.world
  refine ⟨appended, hlog, fun hok => hall ?_⟩
  have hmap : ((call.persist candidate order s.observations
      trial.transaction.executor.ops.world).1.map fun _ => order.length).isOk := hok
  rwa [isOk_map] at hmap

theorem F2DiscoveryCall.testCandidate_recorded (s : F2DiscoveryState W)
    (candidate : AnchoredPositiveOffsetPlan) (answer : F2CandidateAnswer) :
    s.observations <+: (call.testCandidate s candidate answer).2.2.observations ∧
      (call.testCandidate s candidate answer).2.1.Recorded call
        (call.testCandidate s candidate answer).2.2.observations := by
  obtain ⟨t, q, hq, hgroups, houtcome, htransaction⟩ :=
    call.trial_qualify s.memory s.descent.currentIndex candidate.anchor.voltageMv s.ops
  obtain ⟨appended, hlog, hall⟩ := call.testCandidate_persist s candidate answer
  have hdwells : (call.testCandidate s candidate answer).2.1.qualificationDwells =
      qualificationDwells q.groups := congrArg qualificationDwells hgroups
  rw [hlog]
  refine ⟨List.prefix_append _ _, ?_, ?_, ?_, ?_⟩
  · rw [hdwells]
    exact hq.allowed
  · intro group hgroup
    exact hq.bounded group (hgroups ▸ hgroup)
  · have hdistinct := hq.distinct
    rw [← hgroups] at hdistinct
    exact hdistinct
  · rintro ⟨hqualification, hdwelt, hok⟩
    obtain ⟨ho, hclean⟩ := F2ClockDescent.visit_inconclusive hqualification
    rw [hdwells] at hdwelt
    have ho : (call.trial s.memory s.descent.currentIndex candidate.anchor.voltageMv
        s.ops).outcome = some .inconclusive := ho
    have hclean : (call.trial s.memory s.descent.currentIndex candidate.anchor.voltageMv
        s.ops).transaction.finalCleanup.any F2TransactionCleanup.clean := hclean
    rw [htransaction] at hclean
    obtain ⟨timed, hmem, hshows⟩ := hq.shows_inconclusive (houtcome ▸ ho) hdwelt hclean
    refine ⟨call.observationOf candidate timed, ?_, F2DiscoveryCall.observationOf_exhausts hshows⟩
    rw [hall hok, htransaction, hclean]
    exact List.mem_append_right _ <| List.mem_map_of_mem <|
      mem_persistOrder hmem (congrArg Prod.fst hshows)

theorem F2DiscoveryCall.iteration_recorded (s : F2DiscoveryState W) :
    s.observations <+: (call.iteration s).2.state.observations ∧
      ∀ v ∈ (call.iteration s).1, v.Recorded call (call.iteration s).2.state.observations := by
  cases hc : call.descent.candidates[s.descent.currentIndex]? with
  | none =>
    rw [call.iteration_over hc]
    exact ⟨List.prefix_rfl, by simp⟩
  | some candidate =>
    cases hr : call.descent.refuse s.descent candidate (call.precheck s candidate).1 with
    | some descent =>
      rw [call.iteration_refused hc hr]
      exact ⟨List.prefix_rfl, by simp⟩
    | none =>
      obtain ⟨hlog, hrecorded⟩ := call.testCandidate_recorded
        { s with ops := (call.precheck s candidate).2 } candidate (call.precheck s candidate).1
      rw [call.iteration_tested hc hr, Flow.state_map]
      refine ⟨hlog, ?_⟩
      intro v hv
      obtain rfl := Option.some.inj hv
      exact hrecorded

theorem F2DiscoveryCall.run_recorded (fuel : Nat) (s : F2DiscoveryState W) :
    s.observations <+: (call.run fuel s).2.state.observations ∧
      ∀ v ∈ (call.run fuel s).1, v.Recorded call (call.run fuel s).2.state.observations :=
  Narrowing.loop_records (R := fun s s' : F2DiscoveryState W => s.observations <+: s'.observations)
    (Q := fun v s => F2CandidateVisit.Recorded v call s.observations) (fun _ => List.prefix_rfl)
    (fun _ _ _ => List.IsPrefix.trans) (fun _ _ _ => F2CandidateVisit.Recorded.mono)
    fun s _ => call.iteration_recorded s

theorem runConfirmedF2ClockDiscovery_recorded (call : F2ClockCall) (log : List F2Observation)
    (w : W) :
    log <+: (runConfirmedF2ClockDiscovery call log w).log ∧
      ∀ v ∈ (runConfirmedF2ClockDiscovery call log w).visits,
        v.Recorded (call.discoveryOf log w) (runConfirmedF2ClockDiscovery call log w).log := by
  unfold runConfirmedF2ClockDiscovery
  split
  next => exact ⟨List.prefix_rfl, by simp⟩
  next => exact (call.discoveryOf log w).run_recorded _ (call.startState log w)

end Visit

end Nidavellir

import Nidavellir.FlagDiscovery
import Nidavellir.ForgeCalls

namespace Nidavellir

open FlagTrail
open Narrowing (Flow)

section Persist

variable {W : Type*} [F2World W] {call : F2DiscoveryCall} {w : Watched W} {lost : Bool}

theorem appendObservation_trail (report : F2StepReport) (w : Watched W) :
    (F2World.appendObservation report w).2.trail =
      w.trail.after (.append (F2World.appendObservation report w).1.isOk) := ofEvents_concat _ _

theorem stopRequested_trail (w : Watched W) :
    (F2World.stopRequested w).2.trail = w.trail.after (.stop (F2World.stopRequested w).1) :=
  ofEvents_concat _ _

theorem clearBootFlag_trail (w : Watched W) :
    (F2World.clearBootFlag w).2.trail =
      w.trail.after (.clear (F2World.clearBootFlag w).1.isOk) := ofEvents_concat _ _

theorem appendReports_settled (reports : List F2StepReport) (h : w.trail.Settled) :
    (appendReports reports w).2.trail.Settled := by
  induction reports generalizing w with
  | nil => exact h
  | cons report reports ih =>
    have hquiet := h.quiet (e := .append (F2World.appendObservation report w).1.isOk) (by simp)
    rw [← appendObservation_trail] at hquiet
    unfold appendReports
    rcases happend : F2World.appendObservation report w with ⟨e | ⟨⟩, w'⟩
    · rw [happend] at hquiet
      exact hquiet
    · rw [happend] at hquiet
      exact ih hquiet

/-- An observation that is not appended while the flag is on disk is missed. -/
theorem appendReports_holds (reports : List F2StepReport) (h : w.trail.Holds lost) :
    (appendReports reports w).2.trail.Holds lost ∧
      ((appendReports reports w).1.isOk = false →
        (appendReports reports w).2.trail.Unrecorded) := by
  induction reports generalizing w with
  | nil => exact ⟨h, by simp [appendReports, Except.isOk, Except.toBool]⟩
  | cons report reports ih =>
    have hholds := h.append (F2World.appendObservation report w).1.isOk
    have hmissed := h.unrecorded
    have htrail := appendObservation_trail report w
    unfold appendReports
    rcases happend : F2World.appendObservation report w with ⟨e | ⟨⟩, w'⟩
    · rw [happend] at hholds htrail
      exact ⟨htrail ▸ hholds, fun _ => htrail ▸ hmissed⟩
    · rw [happend] at hholds htrail
      exact ih (htrail ▸ hholds)

/-- A candidate's reports are persisted as any are. -/
theorem F2DiscoveryCall.persist_appendReports (candidate : AnchoredPositiveOffsetPlan)
    (reports : List F2TimedPhaseReport) (log : List F2Observation) (w : Watched W) :
    (call.persist candidate reports log w).1.isOk =
        (appendReports (reports.map F2TimedPhaseReport.report) w).1.isOk ∧
      (call.persist candidate reports log w).2.2 =
        (appendReports (reports.map F2TimedPhaseReport.report) w).2 := by
  induction reports generalizing log w with
  | nil => exact ⟨rfl, rfl⟩
  | cons timed reports ih =>
    rw [List.map_cons]
    unfold persist appendReports
    rcases F2World.appendObservation timed.report w with ⟨e | ⟨⟩, w'⟩
    · exact ⟨rfl, rfl⟩
    · exact ih _ w'

end Persist

section Descent

variable (descent : F2ClockDescent) (s : F2DescentState) {answer : F2CandidateAnswer}
  {cleanup : F2TransactionCleanup}

/-- A cleanup that failed aborts the visit. -/
theorem F2ClockDescent.visit_unclean (hcleanup : answer.cleanup = some cleanup)
    (hunclean : cleanup.clean = false) :
    (descent.visit s answer).cleanup = cleanup ∧
      (descent.visit s answer).abortReason.isSome := by
  unfold visit
  simp [hcleanup, hunclean]

/-- A visit that left the flag ends the descent, and says so once it is persisted. -/
theorem F2ClockDescent.settle_unclean (hcleanup : answer.cleanup = some cleanup)
    (hunclean : cleanup.clean = false) (hretain : cleanup.retainBootFlag = true) :
    ∃ s', descent.settle s answer (descent.visit s answer) = .stop s' ∧ s'.aborted = true ∧
      (answer.persisted.isOk → s'.retainBootFlag = true) := by
  obtain ⟨hkept, habort⟩ := descent.visit_unclean s hcleanup hunclean
  obtain ⟨reason, hreason⟩ := Option.isSome_iff_exists.mp habort
  unfold settle
  rcases answer.persisted with error | count
  · exact ⟨_, rfl, rfl, by simp [Except.isOk, Except.toBool]⟩
  · simp only [hreason, hkept, hretain, Bool.or_true]
    exact ⟨_, rfl, rfl, fun _ => rfl⟩

end Descent

section Loop

variable {W : Type*} [F2World W] [BuildEnv]

/-- The descent aborted and says that it left the flag, or missed to record it. -/
def F2DescentState.Known (s : F2DescentState) (t : FlagTrail) : Prop :=
  s.aborted = true ∧ (s.retainBootFlag = true ∨ t.Unrecorded)

def F2DiscoveryState.trail (s : F2DiscoveryState (Watched W)) : FlagTrail := s.ops.world.trail

namespace F2DiscoveryCall

variable {call : F2DiscoveryCall} {s : F2DiscoveryState (Watched W)}
  {candidate : AnchoredPositiveOffsetPlan}

theorem precheck_settled (h : s.trail.Settled) :
    (call.precheck s candidate).2.world.trail.Settled := by
  have hstop := h.quiet (e := .stop (F2World.stopRequested s.ops.world).1) (by simp)
  rw [F2DiscoveryState.trail, ← stopRequested_trail] at hstop
  unfold precheck
  split
  next => exact h
  next =>
    dsimp only
    split
    next => exact hstop
    next =>
      split
      next => exact hstop
      next =>
        let asked : RealF2MultiOps (Watched W) := { (s.ops.through F2World.stopRequested).2 with
          prevOffsetOverrideMhz := some s.descent.referenceOffsetMhz }
        exact select_settled s.descent.currentIndex (asked.through F2World.readStores).2 hstop

/-- What a tested candidate leaves: the world of its trial, with its reports appended. -/
theorem testCandidate_world (s : F2DiscoveryState (Watched W))
    (candidate : AnchoredPositiveOffsetPlan) (answer : F2CandidateAnswer) :
    let t := (call.trial s.memory s.descent.currentIndex candidate.anchor.voltageMv
      s.ops).transaction
    ∃ reports, (call.testCandidate s candidate answer).2.2.ops.world =
        (appendReports reports t.executor.ops.world).2 ∧
      (call.testCandidate s candidate answer).1.persisted.isOk =
        (appendReports reports t.executor.ops.world).1.isOk ∧
      (call.testCandidate s candidate answer).1.cleanup = t.finalCleanup := by
  intro t
  obtain ⟨hok, hworld⟩ := call.persist_appendReports candidate (f2CandidatePersistOrder
    t.phaseReports (t.finalCleanup.any F2TransactionCleanup.clean)) s.observations
    t.executor.ops.world
  exact ⟨_, hworld, (isOk_map _ _).trans hok, rfl⟩

/-- No flag is left, or a cleanup kept it, missed where the reports were not all appended. -/
theorem tested_left (candidate : AnchoredPositiveOffsetPlan) (h : s.trail.Settled) :
    (call.tested s candidate).2.2.trail.Settled ∨
      (∃ lost, (call.tested s candidate).2.2.trail.Holds lost) ∧
        (∃ cleanup, (call.tested s candidate).1.cleanup = some cleanup ∧
          cleanup.clean = false ∧ cleanup.retainBootFlag = true) ∧
        ((call.tested s candidate).1.persisted.isOk = false →
          (call.tested s candidate).2.2.trail.Unrecorded) := by
  obtain ⟨reports, hworld, hok, hfinal⟩ := call.testCandidate_world
    { s with ops := (call.precheck s candidate).2 } candidate (call.precheck s candidate).1
  have hover := call.trial_over s.memory s.descent.currentIndex candidate.anchor.voltageMv
    (call.precheck s candidate).2 (precheck_settled h)
  unfold F2DiscoveryState.trail tested
  rw [hworld, hok, hfinal]
  dsimp only
  generalize (call.trial s.memory s.descent.currentIndex candidate.anchor.voltageMv
    (call.precheck s candidate).2).transaction = t at hover ⊢
  rcases hover with hsettled | ⟨⟨lost, hholds⟩, cleanup, hcleanup, hretain, hunclean⟩
  · exact .inl (appendReports_settled reports hsettled)
  · obtain ⟨hkept, hmissed⟩ := appendReports_holds reports hholds
    exact .inr ⟨⟨lost, hkept⟩, ⟨cleanup, hcleanup, hunclean, hretain⟩, hmissed⟩

/-- An iteration goes on only after a clean candidate. -/
theorem iteration_ends (h : s.trail.Settled) : (call.iteration s).2.Ends
    (fun s => s.trail.Settled) fun s => s.trail.LeavesKnown (s.descent.Known s.trail) := by
  cases hc : call.descent.candidates[s.descent.currentIndex]? with
  | none =>
    rw [call.iteration_over hc]
    exact .stop (.inl h)
  | some candidate =>
    cases hr : call.descent.refuse s.descent candidate (call.precheck s candidate).1 with
    | some descent =>
      rw [call.iteration_refused hc hr]
      exact .stop (.inl (precheck_settled h))
    | none =>
      rw [call.iteration_tested hc hr]
      rcases call.tested_left candidate h with
        hsettled | ⟨hflag, ⟨cleanup, hcleanup, hunclean, hretain⟩, hmissed⟩
      · cases call.descent.settle s.descent (call.tested s candidate).1
          (call.tested s candidate).2.1.visit with
        | next descent => exact .next hsettled
        | stop descent => exact .stop (.inl hsettled)
      · obtain ⟨descent, hsettle, haborted, htold⟩ :=
          call.descent.settle_unclean s.descent hcleanup hunclean hretain
        rw [tested_visit, hsettle]
        generalize call.tested s candidate = tested at hflag hmissed htold ⊢
        refine .stop (.inr ⟨hflag, haborted, ?_⟩)
        cases hpersisted : tested.1.persisted.isOk with
        | true => exact .inl (htold hpersisted)
        | false => exact .inr (hmissed hpersisted)

theorem run_leaves (fuel : Nat) (h : s.trail.Settled) :
    (call.run fuel s).2.state.trail.LeavesKnown
      ((call.run fuel s).2.state.descent.Known (call.run fuel s).2.state.trail) :=
  Narrowing.loop_ends (P := fun s : F2DiscoveryState (Watched W) => s.trail.Settled)
    (Q := fun s => s.trail.LeavesKnown (s.descent.Known s.trail)) (fun _ => .inl)
    (fun _ _ h => iteration_ends h) h

end F2DiscoveryCall

/-- A discovery aborts where it leaves the flag, and says so unless it missed an observation. -/
def F2ClockCallRun.Known (run : F2ClockCallRun (Watched W)) : Prop :=
  run.summary.aborted = true ∧
    (run.summary.retainBootFlag = true ∨ run.world.trail.Unrecorded)

def F2ClockCallRun.Leaves (run : F2ClockCallRun (Watched W)) : Prop :=
  run.world.trail.LeavesKnown run.Known

theorem runConfirmedF2ClockDiscovery_leaves (call : F2ClockCall) (log : List F2Observation)
    {w : Watched W} (h : w.trail.Settled) :
    (runConfirmedF2ClockDiscovery call log w).Leaves := by
  unfold runConfirmedF2ClockDiscovery
  split
  next => exact .inl h
  next =>
    have hrun := (call.discoveryOf log w).run_leaves ((call.candidates log).length + 1)
      (s := call.startState log w) h
    rcases hrun with hsettled | ⟨hflag, hknown⟩
    · exact .inl hsettled
    · exact .inr ⟨hflag, hknown⟩

/-- A call that aborted does not reject its warm start. -/
theorem warmStartRejected_clean {call : F2ClockCall} {log : List F2Observation} {w : Watched W}
    (h : (runConfirmedF2ClockDiscovery call log w).summary.warmStartRejected = true) :
    (runConfirmedF2ClockDiscovery call log w).summary.aborted = false := by
  unfold runConfirmedF2ClockDiscovery at h ⊢
  split at h
  next => cases h
  next hadmitted =>
    rw [if_neg hadmitted]
    simp only [F2ClockCall.summary, Bool.and_eq_true, Bool.not_eq_true'] at h ⊢
    exact h.1.2

namespace F2ClockCallRun

variable {run : F2ClockCallRun (Watched W)}

omit [BuildEnv] [F2World W] in
/-- Nothing follows a call that left the flag. -/
theorem Leaves.settled (h : run.Leaves) (hclean : run.summary.aborted = false) :
    run.world.trail.Settled := by
  rcases h with hsettled | ⟨-, haborted, -⟩
  · exact hsettled
  · rw [hclean] at haborted
    cases haborted

end F2ClockCallRun

namespace F2ClockCall

variable (call : F2ClockCall) {last : F2ClockCallRun (Watched W)}

theorem attempt_leaves (startMv : Option Nat) (h : last.world.trail.Settled) :
    (call.attempt startMv last).2.Leaves :=
  runConfirmedF2ClockDiscovery_leaves { call with startMv } last.log h

theorem climb_leaves (left : Nat) (startMv : Option Nat) (h : last.Leaves) :
    (call.climb left startMv last).2.Leaves := by
  induction left generalizing startMv last with
  | zero => exact h
  | succ left ih =>
    unfold climb
    split
    next hclimbs =>
      have hclean : last.summary.aborted = false := by
        simp only [F2ClockDiscoverySummary.climbs, Bool.and_eq_true, Bool.not_eq_true'] at hclimbs
        exact hclimbs.1.2
      have hasked : (F2World.stopRequested last.world).2.trail.Settled := by
        rw [stopRequested_trail]
        exact (h.settled hclean).quiet (by simp)
      dsimp only
      split
      next => exact .inl hasked
      next =>
        split
        next => exact .inl hasked
        next nextStart _ => exact ih (some nextStart) (call.attempt_leaves (some nextStart) hasked)
    next => exact h

theorem fallback_leaves (conservativeStartMv : Option Nat) (h : last.Leaves)
    (hrejected : last.summary.warmStartRejected = true → last.summary.aborted = false) :
    (call.fallback conservativeStartMv last).2.2.Leaves := by
  unfold fallback
  split
  next => exact h
  next =>
    split
    next hwarm =>
      have hclean := hrejected (Bool.and_eq_true_iff.mp hwarm).1
      exact call.attempt_leaves conservativeStartMv (h.settled hclean)
    next => exact h

/-- A target that leaves the flag ends with an aborted call that says so. -/
theorem runTarget_leaves (conservativeStartMv : Option Nat) (log : List F2Observation)
    {w : Watched W} (h : w.trail.Settled) :
    (call.runTarget conservativeStartMv log w).last.Leaves := by
  have hfirst := runConfirmedF2ClockDiscovery_leaves call log h
  have hfallback := call.fallback_leaves conservativeStartMv hfirst warmStartRejected_clean
  exact call.climb_leaves f2StartRecoveryMaxClimbs (call.fallback conservativeStartMv
    (runConfirmedF2ClockDiscovery call log w)).2.1 hfallback

end F2ClockCall

end Loop

end Nidavellir

import Nidavellir.ClockDiscoverySchedule
import Nidavellir.DiscoveryCandidate

namespace Nidavellir

open F2MultiStepOps
open Narrowing (Flow)

/-- The loop of a discovery: the descent, the executor, the log and what earlier bins left. -/
structure F2DiscoveryState (W : Type*) where
  descent : F2DescentState
  ops : RealF2MultiOps W
  observations : List F2Observation
  memory : F2DescentMemory := {}

/-- One candidate that the loop tested. -/
structure F2CandidateVisit where
  candidate : AnchoredPositiveOffsetPlan
  visit : F2Visit
  groups : List F2PatternDwells
  phaseReports : List F2TimedPhaseReport
  persisted : Except String Nat

namespace F2DiscoveryCall

variable {W : Type*} [F2World W] [BuildEnv] (self : F2DiscoveryCall)

/-- The answer of a candidate of which nothing was asked. -/
def unasked : F2CandidateAnswer where
  record := {}
  cancelled := false
  select := .ok ()
  abortReason := none
  report := emptyF2StepReport
  nearCap := false
  qualification := none
  phaseReports := []
  cleanup := none
  persisted := .ok 0

/-- The checks before a transaction, each made only where the earlier ones pass. -/
def precheck (s : F2DiscoveryState W) (candidate : AnchoredPositiveOffsetPlan) :
    F2CandidateAnswer × RealF2MultiOps W :=
  if s.descent.knownFailedIndex = some s.descent.currentIndex then (unasked, s.ops)
  else
    let (stop, ops) := s.ops.through F2World.stopRequested
    if stop then ({ unasked with cancelled := true }, ops)
    else
      let ops := { ops with prevOffsetOverrideMhz := some s.descent.referenceOffsetMhz }
      let (stores, ops) := ops.through F2World.readStores
      let answer := { unasked with record := stores.record }
      if candidateBlacklisted stores.record self.descent.targetMhz candidate.anchor ||
          self.descent.condemned.refuses self.descent.targetMhz candidate.anchor.voltageMv then
        (answer, ops)
      else
        let (selected, ops) := select s.descent.currentIndex ops
        ({ answer with select := selected }, ops)

/-- Test a candidate that passed the checks, and persist its reports. -/
def testCandidate (s : F2DiscoveryState W) (candidate : AnchoredPositiveOffsetPlan)
    (answer : F2CandidateAnswer) : F2CandidateAnswer × F2CandidateVisit × F2DiscoveryState W :=
  let trial := self.trial s.memory s.descent.currentIndex candidate.anchor.voltageMv s.ops
  let t := trial.transaction
  let clean := t.finalCleanup.any F2TransactionCleanup.clean
  let order := f2CandidatePersistOrder t.phaseReports clean
  let (persisted, observations, world) :=
    self.persist candidate order s.observations t.executor.ops.world
  let answer := { answer with
    abortReason := t.abortReason
    report := trial.verdict.aggregate
    nearCap := trial.verdict.nearCap
    qualification := trial.outcome
    phaseReports := t.attempts
    cleanup := t.finalCleanup
    persisted := persisted.map fun _ => order.length }
  let memory : F2DescentMemory :=
    if trial.verdict.aggregate.powerP99Confirmed then
      { marginHistory := trial.marginHistory
        previousConfirmedPower := (trial.verdict.conservativeP99.bind fun powerP99 =>
          trial.verdict.aggregate.p5ClockMhz.map (powerP99, ·)).or s.memory.previousConfirmedPower
        previousCapState :=
          if trial.verdict.capState = .ambiguous then s.memory.previousCapState
          else some trial.verdict.capState }
    else { s.memory with marginHistory := trial.marginHistory }
  (answer,
    ⟨candidate, self.descent.visit s.descent answer, trial.groups, t.phaseReports,
      answer.persisted⟩,
    { s with ops := { t.executor.ops with world }, observations, memory })

/-- One iteration of the descent, with what it asks of the hardware and the stores. -/
def iteration (s : F2DiscoveryState W) :
    Option F2CandidateVisit × Flow (F2DiscoveryState W) :=
  match self.descent.candidates[s.descent.currentIndex]? with
  | none => (none, .stop s)
  | some candidate =>
    let (answer, ops) := self.precheck s candidate
    match self.descent.refuse s.descent candidate answer with
    | some descent => (none, .stop { s with descent, ops })
    | none =>
      let (answer, visit, s) := self.testCandidate { s with ops } candidate answer
      (some visit, (self.descent.settle s.descent answer visit.visit).map fun descent =>
        { s with descent })

/-- The discovery loop, for at most `fuel` iterations. -/
def run (fuel : Nat) (s : F2DiscoveryState W) :
    List F2CandidateVisit × Flow (F2DiscoveryState W) :=
  Narrowing.loop (fun s => decide (s.descent.currentIndex < self.descent.candidates.length))
    (fun s (_ : Unit) => self.iteration s) fuel (fun _ => ()) s

omit [BuildEnv] in
theorem refuse_congr {s : F2DescentState} {candidate : AnchoredPositiveOffsetPlan}
    {answer answer' : F2CandidateAnswer} (hrecord : answer.record = answer'.record)
    (hcancel : answer.cancelled = answer'.cancelled) (hselect : answer.select = answer'.select) :
    self.descent.refuse s candidate answer = self.descent.refuse s candidate answer' := by
  simp only [F2ClockDescent.refuse, hrecord, hcancel, hselect]

theorem testCandidate_answer (s : F2DiscoveryState W) (candidate : AnchoredPositiveOffsetPlan)
    (answer : F2CandidateAnswer) :
    (self.testCandidate s candidate answer).2.1.visit =
        self.descent.visit s.descent (self.testCandidate s candidate answer).1 ∧
      self.descent.refuse s.descent candidate (self.testCandidate s candidate answer).1 =
        self.descent.refuse s.descent candidate answer := by
  simp only [testCandidate, true_and]
  exact self.refuse_congr rfl rfl rfl

section Iteration

variable {s : F2DiscoveryState W} {candidate : AnchoredPositiveOffsetPlan}

theorem iteration_over (hc : self.descent.candidates[s.descent.currentIndex]? = none) :
    self.iteration s = (none, .stop s) := by
  simp [iteration, hc]

theorem iteration_refused {descent : F2DescentState}
    (hc : self.descent.candidates[s.descent.currentIndex]? = some candidate)
    (hr : self.descent.refuse s.descent candidate (self.precheck s candidate).1 = some descent) :
    self.iteration s = (none, .stop { s with descent, ops := (self.precheck s candidate).2 }) := by
  simp [iteration, hc, hr]

/-- The test of a candidate after its checks. -/
def tested (s : F2DiscoveryState W) (candidate : AnchoredPositiveOffsetPlan) :
    F2CandidateAnswer × F2CandidateVisit × F2DiscoveryState W :=
  self.testCandidate { s with ops := (self.precheck s candidate).2 } candidate
    (self.precheck s candidate).1

theorem tested_visit (s : F2DiscoveryState W) (candidate : AnchoredPositiveOffsetPlan) :
    (self.tested s candidate).2.1.visit =
      self.descent.visit s.descent (self.tested s candidate).1 :=
  (self.testCandidate_answer { s with ops := (self.precheck s candidate).2 } candidate
    (self.precheck s candidate).1).1

theorem tested_refuse (s : F2DiscoveryState W) (candidate : AnchoredPositiveOffsetPlan) :
    self.descent.refuse s.descent candidate (self.tested s candidate).1 =
      self.descent.refuse s.descent candidate (self.precheck s candidate).1 :=
  (self.testCandidate_answer { s with ops := (self.precheck s candidate).2 } candidate
    (self.precheck s candidate).1).2

theorem iteration_tested (hc : self.descent.candidates[s.descent.currentIndex]? = some candidate)
    (hr : self.descent.refuse s.descent candidate (self.precheck s candidate).1 = none) :
    self.iteration s = (some (self.tested s candidate).2.1,
      (self.descent.settle s.descent (self.tested s candidate).1
        (self.tested s candidate).2.1.visit).map fun descent =>
          { (self.tested s candidate).2.2 with descent }) := by
  simp only [iteration, hc, hr]
  rfl

/-- The descent makes of an iteration what it makes of its answers. -/
theorem iteration_descent (s : F2DiscoveryState W) :
    ∃ answer, self.descent.iteration s.descent answer =
      ((self.iteration s).1.map F2CandidateVisit.visit,
        (self.iteration s).2.map F2DiscoveryState.descent) := by
  cases hc : self.descent.candidates[s.descent.currentIndex]? with
  | none =>
    refine ⟨unasked, ?_⟩
    rw [self.iteration_over hc]
    simp [F2ClockDescent.iteration, hc, Flow.map]
  | some candidate =>
    cases hr : self.descent.refuse s.descent candidate (self.precheck s candidate).1 with
    | some descent =>
      refine ⟨(self.precheck s candidate).1, ?_⟩
      rw [self.iteration_refused hc hr]
      simp [F2ClockDescent.iteration, hc, hr, Flow.map]
    | none =>
      have hvisit := self.tested_visit s candidate
      have hrefuse := (self.tested_refuse s candidate).trans hr
      refine ⟨(self.tested s candidate).1, ?_⟩
      rw [self.iteration_tested hc hr, hvisit]
      simp only [F2ClockDescent.iteration, hc, hrefuse, Flow.map_map, Option.map_some, hvisit]
      cases self.descent.settle _ _ _ <;> rfl

end Iteration

/-- So its run is a run of the descent, whatever the hardware and the stores answer. -/
theorem run_descent (fuel : Nat) (s : F2DiscoveryState W) :
    ∃ answers, self.descent.run fuel answers s.descent =
      ((self.run fuel s).1.map F2CandidateVisit.visit,
        (self.run fuel s).2.map F2DiscoveryState.descent) := by
  induction fuel generalizing s with
  | zero => exact ⟨fun _ => unasked, rfl⟩
  | succ fuel ih =>
    obtain ⟨answer, hanswer⟩ := self.iteration_descent s
    rcases hs : self.iteration s with ⟨visit, s' | s'⟩ <;> rw [hs] at hanswer
    · obtain ⟨answers, hrest⟩ := ih s'
      refine ⟨fun n => n.casesOn answer answers, ?_⟩
      unfold F2ClockDescent.run run at hrest ⊢
      unfold Narrowing.loop
      split
      next =>
        simp only [Nat.rec_zero, hs, hanswer, Flow.map, hrest, List.map_append]
        cases visit <;> rfl
      next => rfl
    · refine ⟨fun _ => answer, ?_⟩
      unfold F2ClockDescent.run run Narrowing.loop
      split
      next =>
        simp only [hs, hanswer, Flow.map]
        cases visit <;> rfl
      next => rfl

end F2DiscoveryCall

end Nidavellir

import Nidavellir.AttemptDecision
import Nidavellir.DiscoveryLoop

namespace Nidavellir

open F2MultiStepOps
open Narrowing (Flow)

/-- `Option::expect`; the error is the message that the program panics with. -/
def expectSome {α : Type*} (message : String) : Option α → Except String α
  | some a => .ok a
  | none => .error message

def executorReturned : String := "candidate transaction returned executor"

def executorAvailable : String := "candidate transaction executor available"

/-- The variables of one iteration: the executor is in its slot or owned by the transaction that is
active. The source does not count the discovery dwells. -/
structure F2CandidateSlots (W : Type*) where
  opsSlot : Option (RealF2MultiOps W)
  active : Option (ActiveF2Candidate (RealF2MultiOps W)) := none
  phaseReports : List F2TimedPhaseReport := []
  activeStart : Nat := 0
  finalCleanup : Option F2TransactionCleanup := none
  transactionAbortReason : Option String := none
  discoveryDwells : Nat := 0

namespace F2CandidateSlots

variable {W : Type*} [F2World W] [BuildEnv] (s : F2CandidateSlots W)

def discoveryReports : List F2StepReport :=
  (s.phaseReports.filter fun timed => timed.evidenceKind == .discovery).map
    F2TimedPhaseReport.report

def begin (failure : String) : Except String (F2CandidateSlots W) := do
  let ops ← expectSome executorAvailable s.opsSlot
  match beginF2CandidateTransaction ops with
  | .ok candidate => .ok { s with opsSlot := none, active := some candidate }
  | .error (ops, report, cleanup) => .ok { s with
      opsSlot := some ops
      active := none
      phaseReports := s.phaseReports ++ [⟨.discovery, report⟩]
      finalCleanup := some cleanup
      transactionAbortReason := some s!"{failure}: {report.outcome.debug}" }

def discover (discoveryDwellMs : Nat) : F2CandidateSlots W :=
  match s.active with
  | none => s
  | some candidate =>
    let (report, candidate) := candidate.runPhase discoveryDwellMs .powerDiscovery
    { s with
      active := some candidate
      phaseReports := s.phaseReports ++ [⟨.discovery, report⟩]
      discoveryDwells := s.discoveryDwells + 1 }

/-- What is still active is taken and finished, and its executor is put back. -/
def finishTimed : F2CandidateSlots W :=
  match s.active with
  | none => s
  | some candidate =>
    let running := s.phaseReports.drop s.activeStart
    let (reports, cleanup, ops) := candidate.finish (running.map F2TimedPhaseReport.report)
    { s with
      opsSlot := some ops
      active := none
      phaseReports := s.phaseReports.take s.activeStart ++
        running.zipWith F2TimedPhaseReport.withReport reports
      finalCleanup := some cleanup }

def finishAttempt : F2CandidateSlots W :=
  match s.active with
  | none => s
  | some _ =>
    let s := s.finishTimed
    match s.finalCleanup with
    | some ⟨false, _, stopReason⟩ => { s with transactionAbortReason := stopReason }
    | _ => s

def selected (ops : RealF2MultiOps W) : F2CandidateSlots W :=
  { s with opsSlot := some ops, activeStart := s.phaseReports.length }

def retest (discoveryDwellMs i : Nat) (resolved : List F2StepReport → Bool) :
    (fuel : Nat) → F2CandidateSlots W → Except String (F2CandidateSlots W)
  | 0, s => .ok s
  | fuel + 1, s =>
    if s.discoveryReports.length < powerP99MaxAttempts ∧ s.transactionAbortReason.isNone then do
      let ops ← expectSome executorReturned s.opsSlot
      match select i ops with
      | (.error e, ops) => .ok { s with
          opsSlot := some ops
          transactionAbortReason := some s!"P99RetryPrecheckFailed: {e}" }
      | (.ok (), ops) =>
        let s ← (s.selected ops).begin "P99RetryStartFailed"
        if s.active.isNone then .ok s
        else
          let s := s.discover discoveryDwellMs
          if s.discoveryReports.getLast?.any (fun repeated => repeated.outcome.terminalFailure) ||
              resolved (provisionalAttempts s.discoveryReports) then .ok s
          else retest discoveryDwellMs i resolved fuel s.finishAttempt
    else .ok s

end F2CandidateSlots

structure F2SlotQualification (W : Type*) where
  slots : F2CandidateSlots W
  outcome : Option F2QualificationOutcome
  groups : List F2PatternDwells
  marginHistory : F2QualificationMarginHistory

structure F2SlotTrial (W : Type*) extends F2SlotQualification W where
  verdict : F2PowerRules.Verdict

namespace F2DiscoveryCall

variable {W : Type*} [F2World W] [BuildEnv] (self : F2DiscoveryCall)

def slotMeasure (memory : F2DescentMemory) (i : Nat) (s : F2CandidateSlots W) :
    Except String (F2CandidateSlots W × Bool) := do
  let s ← s.begin "TransactionStartFailed"
  let s := s.discover self.discoveryDwellMs
  let initial := (s.phaseReports.map F2TimedPhaseReport.report).headD emptyF2StepReport
  let anomalousP99 := self.rules.p99RequiresRecheck self.rules.measurementContentUsable
    memory.previousConfirmedPower initial
  let initialCapState := self.rules.capStateWithPrevious initial.powerP99W self.powerLimitW
    initial.powerCappedFrac memory.previousCapState
  let capAmbiguous :=
    self.rules.measurementContentUsable initial && initialCapState == .ambiguous
  if anomalousP99 || capAmbiguous then
    let s ← s.finishAttempt.retest self.discoveryDwellMs i
      (fun attempts =>
        self.rules.recheckResolved attempts self.powerLimitW memory.previousCapState)
      powerP99MaxAttempts
    .ok (s, true)
  else .ok (s, false)

/-- The state in which it is decided whether to qualify, and the verdict it is decided on. -/
def slotAnalyse (memory : F2DescentMemory) (i : Nat) (s : F2CandidateSlots W) :
    Except String (F2CandidateSlots W × F2PowerRules.Verdict) := do
  let (s, rechecked) ← self.slotMeasure memory i s
  let attempts :=
    if s.active.isSome then provisionalAttempts s.discoveryReports else s.discoveryReports
  let verdict := self.rules.analyse (attempts.headD emptyF2StepReport) attempts rechecked
    self.powerLimitW memory.previousCapState
  let phaseReports := s.phaseReports.zipWith F2TimedPhaseReport.analysed verdict.attempts
  .ok ({ s with phaseReports }, verdict)

def exhausted (anchorMv : Nat) : Bool :=
  f2PairQualificationExhausted self.priorRunQualification self.ctx.runId anchorMv

def slotQualify (memory : F2DescentMemory) (anchorMv : Nat) (eligible : Bool)
    (s : F2CandidateSlots W) : F2SlotQualification W :=
  if s.transactionAbortReason.isNone && eligible then
    if self.exhausted anchorMv then ⟨s, some .inconclusive, [], memory.marginHistory⟩
    else
      match s.active with
      | none => ⟨s, none, [], memory.marginHistory⟩
      | some candidate =>
        let (stop, ops) := candidate.ops.through F2World.stopRequested
        let candidate := { candidate with ops }
        if stop then
          ⟨{ s with active := some candidate }, some .cancelled, [], memory.marginHistory⟩
        else
          let (groups, outcome, q) := self.qualifier.run ⟨candidate, memory.marginHistory⟩
          ⟨{ s with
              active := some q.active
              phaseReports := s.phaseReports ++ qualificationReports groups }, some outcome, groups,
            q.marginHistory⟩
  else ⟨s, none, [], memory.marginHistory⟩

/-- One candidate, from its first arm to its last cleanup. -/
def slotTrial (memory : F2DescentMemory) (i anchorMv : Nat) (s : F2CandidateSlots W) :
    Except String (F2SlotTrial W) := do
  let (s, verdict) ← self.slotAnalyse memory i s
  let eligible := f2ShouldQualifyDiscoveryCandidate verdict.decision verdict.nearCap
    self.descent.qualificationPasses
  let q := self.slotQualify memory anchorMv eligible s
  .ok { q with slots := q.slots.finishTimed, verdict := verdict }

end F2DiscoveryCall

/-- The loop of a discovery, over the slot of its executor. -/
structure F2SlotState (W : Type*) where
  descent : F2DescentState
  opsSlot : Option (RealF2MultiOps W)
  observations : List F2Observation
  memory : F2DescentMemory

def F2DiscoveryState.slotted {W : Type*} (self : F2DiscoveryState W) : F2SlotState W where
  descent := self.descent
  opsSlot := some self.ops
  observations := self.observations
  memory := self.memory

def F2SlotState.holding {W : Type*} (self : F2SlotState W) (ops : RealF2MultiOps W) :
    F2DiscoveryState W where
  descent := self.descent
  ops := ops
  observations := self.observations
  memory := self.memory

def F2SlotTrial.closed {W : Type*} (self : F2SlotTrial W) (ops : RealF2MultiOps W) :
    F2CandidateTrial W where
  transaction :=
    { executor := .rest ops
      finished := self.slots.phaseReports.take self.slots.activeStart
      running := self.slots.phaseReports.drop self.slots.activeStart
      finalCleanup := self.slots.finalCleanup
      abortReason := self.slots.transactionAbortReason }
  outcome := self.outcome
  groups := self.groups
  marginHistory := self.marginHistory
  verdict := self.verdict

def expectQualification : Flow F2DescentState → Except String (Flow F2DescentState)
  | .next s => .ok (.next s)
  | .stop s =>
    match s.stopReason with
    | .expectFailed message => .error message
    | _ => .ok (.stop s)

/-- One iteration: the candidate that it tested, its discovery dwells, and how it ends. -/
structure F2SlotIteration (W : Type*) where
  visit : Option F2CandidateVisit
  discoveryDwells : Nat
  flow : Flow (F2SlotState W)

namespace F2DiscoveryCall

variable {W : Type*} [F2World W] [BuildEnv] (self : F2DiscoveryCall)

def recordTrial (s : F2DiscoveryState W) (candidate : AnchoredPositiveOffsetPlan)
    (answer : F2CandidateAnswer) (trial : F2CandidateTrial W) :
    F2CandidateAnswer × F2CandidateVisit × F2DiscoveryState W :=
  let t := trial.transaction
  let clean := t.finalCleanup.any F2TransactionCleanup.clean
  let order := f2CandidatePersistOrder t.phaseReports clean
  let (persisted, observations, world) :=
    self.persist candidate order s.observations t.executor.ops.world
  let answer := { answer with
    abortReason := t.abortReason
    report := trial.verdict.aggregate
    nearCap := trial.verdict.nearCap
    qualification := trial.outcome
    phaseReports := t.attempts
    cleanup := t.finalCleanup
    persisted := persisted.map fun _ => order.length }
  let memory : F2DescentMemory :=
    if trial.verdict.aggregate.powerP99Confirmed then
      { marginHistory := trial.marginHistory
        previousConfirmedPower := (trial.verdict.conservativeP99.bind fun powerP99 =>
          trial.verdict.aggregate.p5ClockMhz.map (powerP99, ·)).or s.memory.previousConfirmedPower
        previousCapState :=
          if trial.verdict.capState = .ambiguous then s.memory.previousCapState
          else some trial.verdict.capState }
    else { s.memory with marginHistory := trial.marginHistory }
  let visit : F2CandidateVisit :=
    ⟨candidate, self.descent.visit s.descent answer, trial.groups, t.phaseReports,
      answer.persisted⟩
  (answer, visit, { s with ops := { t.executor.ops with world }, observations, memory })

/-- One iteration over the slot. The stop flag is read through the executor here, so the slot is
looked at first; an iteration that ends without its executor is an error too. -/
def slotIteration (s : F2SlotState W) : Except String (F2SlotIteration W) :=
  match self.descent.candidates[s.descent.currentIndex]? with
  | none => .ok ⟨none, 0, .stop s⟩
  | some candidate => do
    let ops ← expectSome executorReturned s.opsSlot
    let (answer, ops) := self.precheck (s.holding ops) candidate
    match self.descent.refuse s.descent candidate answer with
    | some descent => .ok ⟨none, 0, .stop { s with descent, opsSlot := some ops }⟩
    | none => do
      let trial ← self.slotTrial s.memory s.descent.currentIndex candidate.anchor.voltageMv
        { opsSlot := some ops }
      let ops ← expectSome executorReturned trial.slots.opsSlot
      let (answer, visit, next) :=
        self.recordTrial (s.holding ops) candidate answer (trial.closed ops)
      match expectQualification (self.descent.settle s.descent answer visit.visit) with
      | .error message => .error message
      | .ok flow => .ok ⟨some visit, trial.slots.discoveryDwells,
          flow.map fun descent => { next.slotted with descent }⟩

/-- The discovery loop over the slot, for at most `fuel` iterations. -/
def slotRun : (fuel : Nat) → F2SlotState W →
    Except String (List F2CandidateVisit × Flow (F2SlotState W))
  | 0, s => .ok ([], .next s)
  | fuel + 1, s =>
    if s.descent.currentIndex < self.descent.candidates.length then do
      let iteration ← self.slotIteration s
      match iteration.flow with
      | .stop s => .ok (iteration.visit.toList, .stop s)
      | .next s =>
        let (visits, flow) ← slotRun fuel s
        .ok (iteration.visit.toList ++ visits, flow)
    else .ok ([], .stop s)

end F2DiscoveryCall

end Nidavellir

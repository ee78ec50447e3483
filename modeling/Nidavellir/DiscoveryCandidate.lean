import Nidavellir.ClockDiscovery
import Nidavellir.PowerAttempts
import Nidavellir.QualificationDwells

namespace Nidavellir

open F2MultiStepOps

structure F2TimedPhaseReport where
  evidenceKind : F2EvidenceKind
  report : F2StepReport

/-- The executor at rest, or inside a transaction. -/
inductive F2Executor (W : Type*)
  | rest (ops : RealF2MultiOps W)
  | active (candidate : ActiveF2Candidate (RealF2MultiOps W))

def F2Executor.ops {W : Type*} : F2Executor W → RealF2MultiOps W
  | .rest ops => ops
  | .active candidate => candidate.ops

/-- The transactions of one candidate: the reports of the finished ones and of the last one. -/
structure F2CandidateTransaction (W : Type*) where
  executor : F2Executor W
  finished : List F2TimedPhaseReport := []
  running : List F2TimedPhaseReport := []
  finalCleanup : Option F2TransactionCleanup := none
  abortReason : Option String := none

def provisionalAttempts (attempts : List F2StepReport) : List F2StepReport :=
  attempts.modify (attempts.length - 1) fun last =>
    { last with resetOk := some true, bootFlagCleared := true }

/-- The verdict of the analysis on an actual report. -/
def F2TimedPhaseReport.analysed (self : F2TimedPhaseReport) (attempt : F2StepReport) :
    F2TimedPhaseReport :=
  { self with report := { self.report with
      outcome := attempt.outcome
      powerP99Confirmed := attempt.powerP99Confirmed
      powerP99Attempts := attempt.powerP99Attempts } }

def F2TimedPhaseReport.withReport (self : F2TimedPhaseReport) (report : F2StepReport) :
    F2TimedPhaseReport := { self with report }

namespace F2CandidateTransaction

variable {W : Type*} [F2World W] [BuildEnv] (t : F2CandidateTransaction W)

def phaseReports : List F2TimedPhaseReport := t.finished ++ t.running

def attempts : List F2StepReport := t.phaseReports.map F2TimedPhaseReport.report

def isActive : Bool :=
  match t.executor with
  | .active _ => true
  | .rest _ => false

def start (failure : String) (ops : RealF2MultiOps W) : F2CandidateTransaction W :=
  match beginF2CandidateTransaction ops with
  | .ok candidate =>
    { t with executor := .active candidate, finished := t.phaseReports, running := [] }
  | .error (ops, report, cleanup) =>
    { executor := .rest ops
      finished := t.phaseReports
      running := [⟨.discovery, report⟩]
      finalCleanup := some cleanup
      abortReason := some s!"{failure}: {report.outcome.debug}" }

def discover (discoveryDwellMs : Nat) : F2CandidateTransaction W :=
  match t.executor with
  | .rest _ => t
  | .active candidate =>
    let (report, candidate) := candidate.runPhase discoveryDwellMs .powerDiscovery
    { t with executor := .active candidate, running := t.running ++ [⟨.discovery, report⟩] }

def finish : F2CandidateTransaction W :=
  match t.executor with
  | .rest _ => t
  | .active candidate =>
    let (reports, cleanup, ops) := candidate.finish (t.running.map F2TimedPhaseReport.report)
    { t with
      executor := .rest ops
      running := t.running.zipWith F2TimedPhaseReport.withReport reports
      finalCleanup := some cleanup }

def finishAttempt : F2CandidateTransaction W :=
  match t.executor with
  | .rest _ => t
  | .active _ =>
    let t := t.finish
    match t.finalCleanup with
    | some ⟨false, _, stopReason⟩ => { t with abortReason := stopReason }
    | _ => t

/-- The same bin again, until its attempts agree; each attempt is a transaction of its own. -/
def retest (discoveryDwellMs i : Nat) (resolved : List F2StepReport → Bool)
    (t : F2CandidateTransaction W) : Nat → F2CandidateTransaction W
  | 0 => t
  | left + 1 =>
    match t.abortReason, t.executor with
    | none, .rest ops =>
      match select i ops with
      | (.error e, ops) =>
        { t with executor := .rest ops, abortReason := some s!"P99RetryPrecheckFailed: {e}" }
      | (.ok (), ops) =>
        let t := t.start "P99RetryStartFailed" ops
        if t.isActive then
          let t := t.discover discoveryDwellMs
          if t.attempts.getLast?.any (fun repeated => repeated.outcome.terminalFailure) ||
              resolved (provisionalAttempts t.attempts) then t
          else retest discoveryDwellMs i resolved t.finishAttempt left
        else t
    | _, _ => t

def analysed (attempts : List F2StepReport) : F2CandidateTransaction W :=
  { t with
    finished := t.finished.zipWith F2TimedPhaseReport.analysed attempts
    running := t.running.zipWith F2TimedPhaseReport.analysed (attempts.drop t.finished.length) }

end F2CandidateTransaction

structure F2DiscoveryCall where
  descent : F2ClockDescent
  rules : F2PowerRules
  powerLimitW : Option Float32
  discoveryDwellMs : Nat
  qualificationDwellMs : Nat
  renderGoldens : Option RenderGoldens
  ctx : ObsContext
  qualCtx : ObsContext
  discovers : ctx.evidenceKind = .discovery
  qualifies : qualCtx.evidenceKind = .qualification
  sameRun : qualCtx.runId = ctx.runId
  priorRunQualification : List F2Observation

/-- What the earlier bins of a descent leave to the analysis of the next one. -/
structure F2DescentMemory where
  marginHistory : F2QualificationMarginHistory := {}
  previousConfirmedPower : Option (Float32 × Nat) := none
  previousCapState : Option F2PowerCapState := none

/-- The pair was left inconclusive earlier in this run and has not passed since. -/
def f2PairQualificationExhausted (obs : List F2Observation) (runId : String) (anchorMv : Nat) :
    Bool :=
  let own := obs.filter fun o =>
    o.runId == runId && o.anchorMv == anchorMv && o.evidenceKind == .qualification
  !own.any isCurrentQualificationPass && own.any fun o => o.outcome == .qualificationInconclusive

structure F2CandidateQualification (W : Type*) where
  transaction : F2CandidateTransaction W
  outcome : Option F2QualificationOutcome
  groups : List F2PatternDwells
  marginHistory : F2QualificationMarginHistory

structure F2CandidateTrial (W : Type*) extends F2CandidateQualification W where
  verdict : F2PowerRules.Verdict

namespace F2DiscoveryCall

variable {W : Type*} [F2World W] [BuildEnv] (self : F2DiscoveryCall)

def qualifier : F2Qualifier where
  targetMhz := self.descent.targetMhz
  qualificationDwellMs := self.qualificationDwellMs
  qualificationPasses := self.descent.qualificationPasses
  renderGoldens := self.renderGoldens

def measure (memory : F2DescentMemory) (i : Nat) (ops : RealF2MultiOps W) :
    F2CandidateTransaction W × Bool :=
  let fresh : F2CandidateTransaction W := { executor := .rest ops }
  let t := (fresh.start "TransactionStartFailed" ops).discover self.discoveryDwellMs
  let initial := t.attempts.headD emptyF2StepReport
  let anomalousP99 := self.rules.p99RequiresRecheck self.rules.measurementContentUsable
    memory.previousConfirmedPower initial
  let initialCapState := self.rules.capStateWithPrevious initial.powerP99W self.powerLimitW
    initial.powerCappedFrac memory.previousCapState
  let capAmbiguous :=
    self.rules.measurementContentUsable initial && initialCapState == .ambiguous
  if anomalousP99 || capAmbiguous then
    (t.finishAttempt.retest self.discoveryDwellMs i
      (fun attempts =>
        self.rules.recheckResolved attempts self.powerLimitW memory.previousCapState)
      (powerP99MaxAttempts - 1), true)
  else (t, false)

def qualificationReports (groups : List F2PatternDwells) : List F2TimedPhaseReport :=
  (qualificationDwells groups).map fun report => ⟨.qualification, report⟩

/-- Qualify the write that is still active; an exhausted pair is not stressed again. -/
def qualify (memory : F2DescentMemory) (anchorMv : Nat) (eligible : Bool)
    (t : F2CandidateTransaction W) : F2CandidateQualification W :=
  if t.abortReason.isNone && eligible then
    if f2PairQualificationExhausted self.priorRunQualification self.ctx.runId anchorMv then
      ⟨t, some .inconclusive, [], memory.marginHistory⟩
    else
      match t.executor with
      | .rest _ => ⟨t, none, [], memory.marginHistory⟩
      | .active candidate =>
        let (stop, ops) := candidate.ops.through F2World.stopRequested
        let candidate := { candidate with ops }
        if stop then
          ⟨{ t with executor := .active candidate }, some .cancelled, [], memory.marginHistory⟩
        else
          let (groups, outcome, s) := self.qualifier.run ⟨candidate, memory.marginHistory⟩
          ⟨{ t with
              executor := .active s.active
              running := t.running ++ qualificationReports groups }, some outcome, groups,
            s.marginHistory⟩
  else ⟨t, none, [], memory.marginHistory⟩

/-- One candidate, from its first arm to its last cleanup. -/
def trial (memory : F2DescentMemory) (i anchorMv : Nat) (ops : RealF2MultiOps W) :
    F2CandidateTrial W :=
  let (t, rechecked) := self.measure memory i ops
  let attempts := if t.isActive then provisionalAttempts t.attempts else t.attempts
  let verdict := self.rules.analyse (attempts.headD emptyF2StepReport) attempts rechecked
    self.powerLimitW memory.previousCapState
  let outcome := f2PowerBoundClockDrop verdict.aggregate.outcome verdict.nearCap
  let eligible := f2ShouldQualifyDiscoveryCandidate outcome verdict.nearCap
    self.descent.qualificationPasses
  let q := self.qualify memory anchorMv eligible (t.analysed verdict.attempts)
  { q with transaction := q.transaction.finish, verdict := verdict }

end F2DiscoveryCall

/-- The reports to persist, in order: after a cleanup that failed only the last one. -/
def f2CandidatePersistOrder (reports : List F2TimedPhaseReport) (cleanupClean : Bool) :
    List F2TimedPhaseReport :=
  if cleanupClean then
    reports.filter (fun timed => timed.evidenceKind == .qualification) ++
      reports.filter fun timed => timed.evidenceKind == .discovery
  else reports.getLast?.toList

namespace F2DiscoveryCall

variable {W : Type*} [F2World W] (self : F2DiscoveryCall)

def observationOf (candidate : AnchoredPositiveOffsetPlan) (timed : F2TimedPhaseReport) :
    F2Observation :=
  let ctx := if timed.evidenceKind = .qualification then self.qualCtx else self.ctx
  observationFromAnchoredStep ctx self.descent.targetMhz candidate timed.report

/-- Append the observations in order; what precedes an append that fails stays in the log. -/
def persist (candidate : AnchoredPositiveOffsetPlan) :
    List F2TimedPhaseReport → List F2Observation → W →
      Except String Unit × List F2Observation × W
  | [], log, w => (.ok (), log, w)
  | timed :: reports, log, w =>
    match F2World.appendObservation timed.report w with
    | (.error e, w) => (.error s!"ObservationPersistFailed: {e}", log, w)
    | (.ok (), w) => persist candidate reports (log ++ [self.observationOf candidate timed]) w

end F2DiscoveryCall

end Nidavellir

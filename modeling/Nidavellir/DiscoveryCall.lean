import Nidavellir.AnchoredPlan
import Nidavellir.DiscoveryLoop
import Nidavellir.F2Frontier
import Nidavellir.VerticalRepair

namespace Nidavellir

open Extremes

def lastDiscoveryGoodForTarget (obs : List F2Observation) (targetMhz : Nat) :
    Option F2Observation :=
  let firstBadMv := (firstBadForTarget obs targetMhz).map F2Observation.anchorMv
  minByKey F2Observation.anchorMv ((obs.filter fun o =>
    o.targetMhz == targetMhz && o.outcome.isValidated && isCurrentDiscoveryEvidence o).filter
      fun o => firstBadMv.all (· < o.anchorMv))

def queryByTargetForGpu (obs : List F2Observation) (targetMhz : Nat) (gpuKey : String) :
    List F2Observation :=
  obs.filter fun o => o.targetMhz == targetMhz && o.gpuKey == some gpuKey

def f2PriorObservationIsResumeEligible (observationRunId currentRunId : String)
    (resumeCurrentRun : Bool) : Bool :=
  !resumeCurrentRun || observationRunId == currentRunId

def f2ObservationMatchesCurrentCandidate (candidates : List AnchoredPositiveOffsetPlan)
    (o : F2Observation) : Bool :=
  candidates.any fun candidate => candidate.anchor.voltageMv == o.anchorMv &&
    candidate.anchor.baseMhz == o.baseMhz && candidate.anchor.offsetMhz == o.offsetMhz

def f2RefreshDiscoveryForQualification (qualificationPasses : Nat) (resumeCurrentRun : Bool) :
    Bool :=
  !resumeCurrentRun && decide (0 < qualificationPasses)

/-- The anchors at which a discovery of the log has that outcome. -/
def discoveryAnchors (obs : List F2Observation) (outcome : F2ObsOutcome) : List Nat :=
  (obs.filter fun o => isCurrentDiscoveryEvidence o && o.outcome == outcome).map
    F2Observation.anchorMv

def resumeF2Candidates (candidates : List AnchoredPositiveOffsetPlan)
    (priorGoodMv priorBadMv priorPowerBoundMv : Option Nat) : List AnchoredPositiveOffsetPlan :=
  match priorBadMv with
  | some badMv =>
    if priorGoodMv.isSome then []
    else candidates.filter fun candidate => decide (badMv < candidate.anchor.voltageMv)
  | none =>
    match (priorGoodMv.toList ++ priorPowerBoundMv.toList).min? with
    | some mv => candidates.filter fun candidate => decide (candidate.anchor.voltageMv < mv)
    | none => candidates

def f2InconclusiveOnlyAnchors (obs : List F2Observation) (runId : String) : List Nat :=
  let own := obs.filter fun o => o.runId == runId && o.evidenceKind == .qualification
  let passed := (own.filter isCurrentQualificationPass).map F2Observation.anchorMv
  ((own.filter fun o => !isCurrentQualificationPass o &&
    o.outcome == .qualificationInconclusive).map F2Observation.anchorMv).filter
      fun mv => !passed.contains mv

def f2ConservativeNextClockStart (powerBoundClockDrops validatedVoltages : List Nat) :
    Option Nat :=
  powerBoundClockDrops.min?.or validatedVoltages.max?

def f2OptimizedNextClockStart (plannedVoltages : List Nat)
    (lastGoodMv conservativeStartMv : Option Nat) : Option Nat :=
  (lastGoodMv.bind fun good =>
    (plannedVoltages.filter fun mv => decide (good < mv)).min?.or (some good)).or
      conservativeStartMv

def F2StopReason.contains (needle : String) : F2StopReason → Bool
  | .text reason => Text.contains reason.toList needle.toList
  | .outcome o => Text.contains o.debug.toList needle.toList
  | .beforeSustain o => Text.contains (o.debug ++ "BeforeSustain").toList needle.toList
  | .unexpectedDiscoveryPowerCeiling _ _ =>
    Text.contains "UnexpectedDiscoveryPowerCeiling".toList needle.toList
  | .expectFailed _ => false

def F2StopReason.startsWith (start : String) : F2StopReason → Bool
  | .text reason => reason.startsWith start
  | .outcome o => o.debug.startsWith start
  | .beforeSustain o => (o.debug ++ "BeforeSustain").startsWith start
  | .unexpectedDiscoveryPowerCeiling _ _ => "UnexpectedDiscoveryPowerCeiling".startsWith start
  | .expectFailed _ => false

def F2StopReason.is (text : String) : F2StopReason → Bool
  | .text reason => reason == text
  | _ => false

structure F2ClockDiscoverySummary where
  sustainable : Bool
  lastGoodMv : Option Nat
  firstBadMv : Option Nat
  nextClockStartMv : Option Nat
  conservativeStartMv : Option Nat
  warmStartRejected : Bool
  executedSteps : Nat
  completed : Bool
  aborted : Bool
  retainBootFlag : Bool
  stopReason : F2StopReason

/-- The arguments of `run_confirmed_f2_clock_discovery`; its callers ask for no final gate. -/
structure F2ClockCall where
  runId : String
  gpuKey : String
  ledgerRunScoped : Bool
  resumeCurrentRun : Bool
  sane : List VfBin
  limits : PositiveOffsetLimits
  targetMhz : Nat
  startMv : Option Nat
  powerLimitW : Option Float32
  discoveryDwellMs : Nat
  qualificationDwellMs : Nat
  qualificationPasses : Nat
  renderGoldens : Option RenderGoldens
  timestamp : String
  rules : F2PowerRules

namespace F2ClockCall

variable (self : F2ClockCall) (log : List F2Observation)

def scope : LedgerScope := ⟨self.gpuKey, self.runId, self.ledgerRunScoped⟩

def unprunedDescent : List AnchoredPositiveOffsetPlan :=
  planAnchoredUndervoltDescent self.sane self.targetMhz none self.limits

def query : List F2Observation := queryByTargetForGpu log self.targetMhz self.gpuKey

/-- What a resume may use: the run's own evidence, at pairs that the current plan still has. -/
def compatiblePrior : List F2Observation :=
  (self.query log).filter fun o =>
    f2PriorObservationIsResumeEligible o.runId self.runId self.resumeCurrentRun &&
      f2ObservationMatchesCurrentCandidate self.unprunedDescent o

def priorGoodObservation : Option F2Observation :=
  lastDiscoveryGoodForTarget (self.compatiblePrior log) self.targetMhz

def priorBadMv : Option Nat :=
  (firstBadForTarget (self.compatiblePrior log) self.targetMhz).map F2Observation.anchorMv

def priorPowerBoundMv : Option Nat :=
  (discoveryAnchors (self.compatiblePrior log) .powerBoundClockDrop).min?

def priorReferenceOffsetMhz : Int :=
  if self.startMv.isSome then
    ((self.priorGoodObservation log).map F2Observation.offsetMhz).getD 0
  else 0

def refreshDiscovery : Bool :=
  f2RefreshDiscoveryForQualification self.qualificationPasses self.resumeCurrentRun

def resumeGoodMv : Option Nat :=
  if self.refreshDiscovery then none
  else (self.priorGoodObservation log).map F2Observation.anchorMv

def resumePowerBoundMv : Option Nat :=
  if self.refreshDiscovery then none else self.priorPowerBoundMv log

/-- The plan from the start voltage; where only the historical offset reaches it, the full plan
from there down. -/
def plannedDescent : List AnchoredPositiveOffsetPlan :=
  let descent := planAnchoredUndervoltDescent self.sane self.targetMhz self.startMv self.limits
  match self.startMv with
  | none => descent
  | some startMv =>
    if descent.isEmpty && (self.priorGoodObservation log).isSome then
      self.unprunedDescent.filter fun candidate => decide (candidate.anchor.voltageMv ≤ startMv)
    else descent

def candidates : List AnchoredPositiveOffsetPlan :=
  resumeF2Candidates (self.plannedDescent log) (self.resumeGoodMv log) (self.priorBadMv log)
    (self.resumePowerBoundMv log)

def ctx (evidenceKind : F2EvidenceKind) (discoveryContractVersion qualificationContractVersion :
    Option Nat) : ObsContext where
  runId := self.runId
  timestamp := self.timestamp
  gpuKey := some self.gpuKey
  evidenceKind
  discoveryContractVersion
  qualificationContractVersion
  qualificationCoverage := none
  mode := .ladderSweep
  requestedStartMv := self.startMv
  positiveOffsetCapMhz := self.limits.absMaxOffsetMhz

/-- The descent that the log leaves to do; the snapshot for the guard is taken here. -/
def discovery (condemned : CondemnedPairs) : F2DiscoveryCall where
  descent :=
    { targetMhz := self.targetMhz
      candidates := self.candidates log
      condemned
      stepMaxOffsetMhz := self.limits.stepMaxOffsetMhz
      qualificationPasses := self.qualificationPasses }
  rules := self.rules
  powerLimitW := self.powerLimitW
  discoveryDwellMs := self.discoveryDwellMs
  qualificationDwellMs := self.qualificationDwellMs
  renderGoldens := self.renderGoldens
  ctx := self.ctx .discovery (some f2DiscoveryContractVersion) none
  qualCtx := self.ctx .qualification none (some f2QualificationContractVersion)
  discovers := rfl
  qualifies := rfl
  sameRun := rfl
  priorRunQualification := self.query log

/-- No candidate, and no evidence that any was tested. -/
def nothingPlanned : Bool :=
  (self.candidates log).isEmpty && (self.resumeGoodMv log).isNone &&
    (self.priorBadMv log).isNone && (self.resumePowerBoundMv log).isNone

/-- The state in which the descent of a log starts. -/
def startDescent : F2DescentState :=
  let resumed := (self.priorBadMv log).isSome || ((self.candidates log).isEmpty &&
    ((self.resumeGoodMv log).isSome || (self.resumePowerBoundMv log).isSome))
  let start : F2DescentState := {
    referenceOffsetMhz := self.priorReferenceOffsetMhz log
    hadSustainable := (self.resumeGoodMv log).isSome
    completed := !self.refreshDiscovery && resumed
    stopReason := .text <|
      if (self.priorBadMv log).isSome then "KnownBoundaryResumed" else "PhysicalFloorReached" }
  let start :=
    if self.nothingPlanned log then
      if self.startMv.isSome then
        { start with completed := true, stopReason := .text "WarmStartNoPhysicalCandidates" }
      else { start with aborted := true, stopReason := .text "NoPhysicalCandidates" }
    else start
  if self.refreshDiscovery && (self.candidates log).isEmpty &&
      (self.priorGoodObservation log).isSome then
    { start with completed := false, stopReason := .text "FreshDiscoveryNoPhysicalCandidates" }
  else start

/-- The part of the log that the current plan still has. -/
def scopedLog : List F2Observation :=
  (self.query log).filter (f2ObservationMatchesCurrentCandidate self.unprunedDescent)

/-- Some bin of this run passed every pattern that the descent runs. -/
def hasCurrentFullQualification : Bool :=
  let passes := (self.scopedLog log).filter fun o =>
    o.runId == self.runId && isCurrentQualificationPass o
  let patterns := requiredQualificationPatterns.take self.qualificationPasses
  !patterns.isEmpty && passes.any fun o => patterns.all fun pattern =>
    passes.any fun o' => o'.anchorMv == o.anchorMv && o'.pattern == some pattern

def seedable : List F2Observation :=
  let inconclusiveAnchors := f2InconclusiveOnlyAnchors (self.scopedLog log) self.runId
  (self.scopedLog log).filter fun o => !inconclusiveAnchors.contains o.anchorMv

def lastGoodMv : Option Nat :=
  (lastDiscoveryGoodForTarget (self.seedable log) self.targetMhz).map F2Observation.anchorMv

/-- The summary: `before` is the log at the start of the call, `after` the log at its end. -/
def summary (before after : List F2Observation) (s : F2DescentState) : F2ClockDiscoverySummary :=
  let currentRunLastGood := lastDiscoveryGoodForTarget
    ((self.seedable after).filter fun o => o.runId == self.runId) self.targetMhz
  let conservativeStartMv := f2ConservativeNextClockStart
    (discoveryAnchors (self.scopedLog after) .powerBoundClockDrop)
    (discoveryAnchors (self.scopedLog after) .validated)
  { sustainable := (self.lastGoodMv after).isSome &&
      (self.qualificationPasses == 0 || self.hasCurrentFullQualification after)
    lastGoodMv := self.lastGoodMv after
    firstBadMv :=
      (firstBadForTarget (self.scopedLog after) self.targetMhz).map F2Observation.anchorMv
    nextClockStartMv := f2OptimizedNextClockStart
      (self.unprunedDescent.map fun candidate => candidate.anchor.voltageMv)
      (self.lastGoodMv after) conservativeStartMv
    conservativeStartMv
    warmStartRejected := self.startMv.isSome &&
      (self.refreshDiscovery || (self.priorGoodObservation before).isNone) &&
      (if 0 < self.qualificationPasses then !self.hasCurrentFullQualification after
        else currentRunLastGood.isNone) &&
      (decide (0 < s.executedSteps) ||
        s.stopReason.is "WarmStartNoPhysicalCandidates") &&
      !s.aborted && !s.stopReason.contains "Inconclusive"
    executedSteps := s.executedSteps
    completed := s.completed
    aborted := s.aborted
    retainBootFlag := s.retainBootFlag
    stopReason := s.stopReason }

def refused : F2ClockDiscoverySummary where
  sustainable := false
  lastGoodMv := none
  firstBadMv := none
  nextClockStartMv := none
  conservativeStartMv := none
  warmStartRejected := false
  executedSteps := 0
  completed := false
  aborted := true
  retainBootFlag := false
  stopReason := .text "SafetyGateRefused"

end F2ClockCall

/-- What a call leaves: its summary, the candidates it tested, the log and the machine. -/
structure F2ClockCallRun (W : Type*) where
  summary : F2ClockDiscoverySummary
  visits : List F2CandidateVisit
  log : List F2Observation
  world : W

section Run

variable {W : Type*} [F2World W] (call : F2ClockCall) (log : List F2Observation) (w : W)

/-- The discovery of a call: the condemned pairs are read when it begins. -/
def F2ClockCall.discoveryOf : F2DiscoveryCall :=
  call.discovery log (call.scope.condemned (F2World.readStores w).1.events)

def F2ClockCall.safetyRefusal : Option String :=
  let stores := (F2World.readStores (F2World.readStores w).2).1
  let count := (call.candidates log).length
  if count = 0 then none
  else confirmedF2MultiRefusal stores.record stores.bootFlagArmed (some count) count count

def F2ClockCall.startState : F2DiscoveryState W where
  descent := call.startDescent log
  ops :=
    { descentOps (F2World.readStores (F2World.readStores w).2).2 (call.candidates log) call.limits
        call.targetMhz 0 with
      dwellMs := call.discoveryDwellMs }
  observations := log

/-- `run_confirmed_f2_clock_discovery`. -/
def runConfirmedF2ClockDiscovery [BuildEnv] : F2ClockCallRun W :=
  if (call.safetyRefusal log w).isSome then
    ⟨F2ClockCall.refused, [], log, (F2World.readStores (F2World.readStores w).2).2⟩
  else
    let (visits, flow) := (call.discoveryOf log w).run ((call.candidates log).length + 1)
      (call.startState log w)
    ⟨call.summary log flow.state.observations flow.state.descent, visits,
      flow.state.observations, flow.state.ops.world⟩

end Run

end Nidavellir

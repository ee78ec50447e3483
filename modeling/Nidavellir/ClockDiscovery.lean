import Nidavellir.F2Sweep
import Nidavellir.F2Transaction
import Nidavellir.Lib.Narrowing

namespace Nidavellir

open Narrowing (Flow)

inductive F2DiscoveryDecision
  | continueVoltage
  | markSustainableAndContinue
  | nextClockUnsustainable
  | boundaryFound
  | nextClockAfterFailure
  | abortForge
deriving DecidableEq, Repr

inductive F2QualificationOutcome
  | qualified
  | rejected (reason : String)
  | powerBound (measuredW ceilingW : Float32)
  | inconclusive
  | cancelled
  | aborted (stopReason : String) (retainBootFlag : Bool)

def F2QualificationOutcome.completesClock : F2QualificationOutcome → Bool
  | .qualified | .rejected _ | .inconclusive => true
  | _ => false

def f2PowerBoundClockDrop (outcome : F2Outcome) (nearPowerLimit : Bool) : F2Outcome :=
  if outcome = .clockDrop ∧ nearPowerLimit then .powerBoundClockDrop else outcome

def f2DiscoveryDecision (outcome : F2Outcome) (hadSustainablePoint nearPowerLimit : Bool) :
    F2DiscoveryDecision :=
  match outcome with
  | .validated => if hadSustainablePoint then .continueVoltage else .markSustainableAndContinue
  | .powerBoundClockDrop => .continueVoltage
  | .clockDrop =>
    if nearPowerLimit then .continueVoltage
    else if hadSustainablePoint then .boundaryFound else .nextClockUnsustainable
  | .silentError | .unstable =>
    if hadSustainablePoint then .boundaryFound else .nextClockAfterFailure
  | .inconclusive => .nextClockAfterFailure
  | .deviceLost | .resetFailed | .armFailed _ | .applyFailed _ | .verifyFailed => .abortForge

def F2DiscoveryDecision.failure : F2DiscoveryDecision → Bool
  | .nextClockUnsustainable | .boundaryFound | .nextClockAfterFailure => true
  | _ => false

def f2ResetCleanDiscoveryFailure (decision : F2DiscoveryDecision) (report : F2StepReport) :
    Bool :=
  report.resetOk == some true && report.bootFlagCleared && decision.failure

def f2ShouldQualifyDiscoveryCandidate (outcome : F2Outcome) (nearPowerLimit : Bool)
    (qualificationPasses : Nat) : Bool :=
  outcome == .validated && !nearPowerLimit && decide (0 < qualificationPasses)

def f2OutcomeRetainsBootFlag (outcome : F2Outcome) : Bool :=
  outcome == .deviceLost || outcome == .resetFailed

def f2RecoveryMidpoint (shallowerSafeIndex deeperFailedIndex : Nat) : Option Nat :=
  let gap := deeperFailedIndex - shallowerSafeIndex
  if 1 < gap then some (shallowerSafeIndex + gap / 2) else none

def f2AdaptiveMaxStrideBins : Nat := 4

def f2AdaptiveMaxVoltageDropMv : Nat := 25

def i32SaturatingSub (a b : Int) : Int :=
  max (-2 ^ 31) (min (a - b) (2 ^ 31 - 1))

/-- The deepest bin within `stride` bins that both limits allow. -/
def longestStride (candidates : List AnchoredPositiveOffsetPlan)
    (current : AnchoredPositiveOffsetPlan) (currentIndex : Nat)
    (referenceOffsetMhz stepMaxOffsetMhz : Int) : (stride : Nat) → Option Nat
  | 0 => none
  | stride + 1 =>
    let shorter :=
      longestStride candidates current currentIndex referenceOffsetMhz stepMaxOffsetMhz stride
    match candidates[currentIndex + (stride + 1)]? with
    | none => shorter
    | some next =>
      let voltageDropMv := current.anchor.voltageMv - next.anchor.voltageMv
      let offsetStepMhz := i32SaturatingSub next.anchor.offsetMhz referenceOffsetMhz
      if voltageDropMv ≤ f2AdaptiveMaxVoltageDropMv ∧ offsetStepMhz ≤ stepMaxOffsetMhz then
        some (currentIndex + (stride + 1))
      else shorter

def f2AdaptivePowerBoundNextIndex (candidates : List AnchoredPositiveOffsetPlan)
    (currentIndex targetMhz : Nat) (p5ClockMhz : Option Nat)
    (referenceOffsetMhz stepMaxOffsetMhz : Int) : Nat :=
  let deficitMhz := targetMhz - p5ClockMhz.getD targetMhz
  let requestedStride :=
    if 90 ≤ deficitMhz then f2AdaptiveMaxStrideBins else if 45 ≤ deficitMhz then 2 else 1
  match candidates[currentIndex]? with
  | none => currentIndex
  | some current =>
    (longestStride candidates current currentIndex referenceOffsetMhz stepMaxOffsetMhz
      requestedStride).getD (min (currentIndex + 1) candidates.length)

/-- Texts that print a report outcome or a power keep the value. -/
inductive F2StopReason
  | text (reason : String)
  | outcome (outcome : F2Outcome)
  | beforeSustain (outcome : F2Outcome)
  | unexpectedDiscoveryPowerCeiling (measuredW ceilingW : Float32)
  | expectFailed (message : String)

/-- What one descent over the bins of a target clock is given. -/
structure F2ClockDescent where
  targetMhz : Nat
  candidates : List AnchoredPositiveOffsetPlan
  condemned : CondemnedPairs
  stepMaxOffsetMhz : Int
  qualificationPasses : Nat

structure F2DescentState where
  currentIndex : Nat := 0
  referenceOffsetMhz : Int
  jumpedFromIndex : Option Nat := none
  recoveryBracket : Option (Nat × Nat) := none
  knownFailedIndex : Option Nat := none
  localSequential : Bool := false
  hadSustainable : Bool
  lastQualifiedIndex : Option Nat := none
  executedSteps : Nat := 0
  completed : Bool
  aborted : Bool := false
  retainBootFlag : Bool := false
  stopReason : F2StopReason

/-- What the store, the operator and the transaction of one candidate answer. `abortReason` is a
transaction that could not start or retry, `report` the aggregate of the `PowerRender` attempts and
`phaseReports` all the reports after the cleanup. -/
structure F2CandidateAnswer where
  record : SafeLoopRecord
  cancelled : Bool
  select : Except String Unit
  abortReason : Option String
  report : F2StepReport
  nearCap : Bool
  qualification : Option F2QualificationOutcome
  phaseReports : List F2StepReport
  cleanup : Option F2TransactionCleanup
  persisted : Except String Nat

/-- One candidate whose transaction was started. -/
structure F2Visit where
  index : Nat
  hadSustainable : Bool
  nearCap : Bool
  report : F2StepReport
  qualification : Option F2QualificationOutcome
  abortReason : Option String
  cleanup : F2TransactionCleanup

def F2Visit.decision (v : F2Visit) : F2DiscoveryDecision :=
  f2DiscoveryDecision v.report.outcome v.hadSustainable v.nearCap

/-- Bisect upwards from a failure that is more than one bin below a safe index: the narrower
bracket, and where to go on. -/
def F2DescentState.recoverUpwards (s : F2DescentState) (safe : Option Nat) (i : Nat) :
    F2DescentState × Option Nat :=
  match safe.filter fun safe => decide (safe + 1 < i) with
  | none => (s, none)
  | some safe =>
    ({ s with recoveryBracket := some (safe, i), jumpedFromIndex := none },
      f2RecoveryMidpoint safe i)

/-- Stop bisecting: from here the descent goes bin by bin down to the known failure. -/
def F2DescentState.returnSequential (s : F2DescentState) : F2DescentState :=
  { s with
    localSequential := true
    recoveryBracket := none
    knownFailedIndex := (s.recoveryBracket.map Prod.snd).or s.knownFailedIndex }

def F2DescentState.qualifiedAt (s : F2DescentState) (i : Nat) : F2DescentState :=
  { s.returnSequential with
    lastQualifiedIndex := some i
    completed := F2QualificationOutcome.qualified.completesClock
    stopReason := .text "Qualified" }

namespace F2ClockDescent

variable (self : F2ClockDescent)

def offsetAt (index : Nat) (fallback : Int) : Int :=
  (self.candidates[index]?.map fun candidate => candidate.anchor.offsetMhz).getD fallback

/-- The checks before a transaction: the state to stop in, or `none` to go on. -/
def refuse (s : F2DescentState) (candidate : AnchoredPositiveOffsetPlan)
    (answer : F2CandidateAnswer) : Option F2DescentState :=
  if s.knownFailedIndex = some s.currentIndex then
    some { s with completed := true, stopReason := .text "AdaptiveKnownFailureBoundary" }
  else if answer.cancelled then
    some { s with stopReason := .text "Cancelled" }
  else if candidateBlacklisted answer.record self.targetMhz candidate.anchor ||
      self.condemned.refuses self.targetMhz candidate.anchor.voltageMv then
    some { s with completed := true, stopReason := .text "BlacklistedBoundary" }
  else
    match answer.select with
    | .error e =>
      some { s with aborted := true, stopReason := .text s!"SafetyPrecheckFailed: {e}" }
    | .ok () => none

/-- One visit, with its evidence as the cleanup leaves it. -/
def visit (s : F2DescentState) (answer : F2CandidateAnswer) : F2Visit :=
  let outcome := f2PowerBoundClockDrop answer.report.outcome answer.nearCap
  let qualification :=
    if answer.abortReason.isNone &&
        f2ShouldQualifyDiscoveryCandidate outcome answer.nearCap self.qualificationPasses then
      answer.qualification
    else none
  let cleanup := answer.cleanup.getD ⟨false, true, some "TransactionCleanupMissing"⟩
  let v : F2Visit :=
    { index := s.currentIndex, hadSustainable := s.hadSustainable, nearCap := answer.nearCap,
      report := { answer.report with outcome := outcome }, qualification := qualification,
      abortReason := answer.abortReason, cleanup := cleanup }
  if cleanup.clean then
    { v with report := { v.report with
        resetOk := some true, bootFlagCleared := true, validated := outcome == .validated } }
  else
    let reason := cleanup.stopReason.getD "TransactionCleanupFailed"
    { v with
      report := { v.report with
        outcome := if answer.phaseReports.any (·.outcome == .deviceLost) then .deviceLost
          else .resetFailed
        validated := false
        resetOk := answer.phaseReports.getLast?.bind (·.resetOk)
        bootFlagCleared := false }
      qualification := qualification.map fun _ => .aborted reason cleanup.retainBootFlag
      abortReason := some reason }

/-- The end of an iteration: one bin down, or a jump while power bound. -/
def advance (s : F2DescentState) (v : F2Visit) : F2DescentState :=
  let nextIndex :=
    if s.localSequential || !v.nearCap then v.index + 1
    else f2AdaptivePowerBoundNextIndex self.candidates v.index self.targetMhz v.report.p5ClockMhz
      s.referenceOffsetMhz self.stepMaxOffsetMhz
  { s with
    jumpedFromIndex := if v.index + 1 < nextIndex then some v.index else none
    currentIndex := nextIndex
    completed := s.completed || nextIndex == self.candidates.length }

/-- Narrow the bracket from above, where there is one, or descend. -/
def narrow (s : F2DescentState) (v : F2Visit) : Flow F2DescentState :=
  match s.recoveryBracket with
  | some (_, failedIndex) =>
    if !s.localSequential then
      let s := { s with recoveryBracket := some (v.index, failedIndex) }
      match f2RecoveryMidpoint v.index failedIndex with
      | some midpoint => .next { s with currentIndex := midpoint }
      | none => .stop { s with
          completed := true, stopReason := .text "AdaptiveRecoveryNoSustainablePoint" }
    else .next (self.advance s v)
  | none => .next (self.advance s v)

/-- A bin that is not refused; without qualification passes a bin that holds below the cap ends the
bisection. -/
def descend (s : F2DescentState) (v : F2Visit) : Flow F2DescentState :=
  self.narrow
    (if v.report.outcome = .validated ∧ !v.nearCap ∧ self.qualificationPasses = 0 then
      s.returnSequential
    else s) v

/-- A reset-clean rejection or inconclusive qualification: bisect upwards or complete the clock. -/
def refuseQualified (s : F2DescentState) (v : F2Visit) (arrivalJumpOrigin : Option Nat)
    (outcome : F2QualificationOutcome) (stopReason : F2StopReason) : Flow F2DescentState :=
  let safe := (s.recoveryBracket.map Prod.fst).or arrivalJumpOrigin
  let stop (s : F2DescentState) : Flow F2DescentState :=
    .stop { s with completed := outcome.completesClock, stopReason := stopReason }
  match safe.filter fun safe => decide (safe + 1 < v.index) with
  | none => stop s
  | some safeIndex =>
    let (s, midpoint) := s.recoverUpwards safe v.index
    let s := { s with referenceOffsetMhz := self.offsetAt safeIndex s.referenceOffsetMhz }
    match midpoint with
    | some midpoint => .next { s with currentIndex := midpoint }
    | none => stop s

def onQualification (s : F2DescentState) (v : F2Visit) (arrivalJumpOrigin : Option Nat) :
    Flow F2DescentState :=
  match v.qualification with
  | none => .stop { s with
      stopReason := .expectFailed "eligible candidate was qualified before transaction cleanup" }
  | some .qualified =>
    self.descend (s.qualifiedAt v.index) v
  | some (.rejected reason) =>
    let anchorMv := (self.candidates[v.index]?.map fun c => c.anchor.voltageMv).getD 0
    self.refuseQualified s v arrivalJumpOrigin (.rejected reason) <| .text <|
      if s.lastQualifiedIndex.isSome then
        s!"QualifiedBoundary: {anchorMv} mV rejeitado abaixo do último qualificado ({reason})"
      else s!"QualificationRejected: {reason}"
  | some (.powerBound measuredW ceilingW) => .stop { s with
      aborted := true, stopReason := .unexpectedDiscoveryPowerCeiling measuredW ceilingW }
  | some .inconclusive =>
    self.refuseQualified s v arrivalJumpOrigin .inconclusive <| .text <|
      if s.lastQualifiedIndex.isSome then "QualifiedBoundaryInconclusiveDeeper"
      else "QualificationInconclusiveSkippedClock"
  | some .cancelled => .stop { s with
      completed := false, stopReason := .text "CancelledDuringQualification" }
  | some (.aborted stopReason retain) => .stop { s with
      aborted := true, retainBootFlag := s.retainBootFlag || retain
      stopReason := .text stopReason }

def onDecision (s : F2DescentState) (v : F2Visit) (arrivalJumpOrigin : Option Nat) :
    Flow F2DescentState :=
  match v.decision with
  | .continueVoltage | .markSustainableAndContinue =>
    if f2ShouldQualifyDiscoveryCandidate v.report.outcome v.nearCap self.qualificationPasses then
      self.onQualification s v arrivalJumpOrigin
    else self.descend s v
  | .nextClockUnsustainable => .stop { s with
      completed := true, stopReason := .text "OffCapClockDropBeforeSustain" }
  | .boundaryFound => .stop { s with
      completed := true, stopReason := .outcome v.report.outcome }
  | .nextClockAfterFailure => .stop { s with
      completed := true, stopReason := .beforeSustain v.report.outcome }
  | .abortForge => .stop { s with
      aborted := true, retainBootFlag := f2OutcomeRetainsBootFlag v.report.outcome
      stopReason := .outcome v.report.outcome }

/-- What a reset-clean visit adds to the evidence of the descent. -/
def learn (s : F2DescentState) (v : F2Visit) : F2DescentState :=
  { s with
    hadSustainable := s.hadSustainable || v.decision == .markSustainableAndContinue
    referenceOffsetMhz :=
      if v.report.resetOk = some true ∧ v.report.bootFlagCleared ∧
          (v.report.outcome = .validated ∨ v.report.outcome = .powerBoundClockDrop) then
        self.offsetAt v.index s.referenceOffsetMhz
      else s.referenceOffsetMhz }

/-- Bisect upwards from a discovery failure, or act on the decision. -/
def recede (s : F2DescentState) (v : F2Visit) : Flow F2DescentState :=
  if f2ResetCleanDiscoveryFailure v.decision v.report then
    let safe := (s.recoveryBracket.map Prod.fst).or s.jumpedFromIndex
    match s.recoverUpwards safe v.index with
    | (s', some midpoint) => .next { s' with currentIndex := midpoint }
    | (s', none) => self.onDecision s' v s.jumpedFromIndex
  else self.onDecision { s with jumpedFromIndex := none } v s.jumpedFromIndex

/-- The scheduling of one iteration, after a visit that was persisted and did not abort. -/
def schedule (s : F2DescentState) (v : F2Visit) : Flow F2DescentState :=
  self.recede (self.learn s v) v

/-- The rest of an iteration after a visit. -/
def settle (s : F2DescentState) (answer : F2CandidateAnswer) (v : F2Visit) :
    Flow F2DescentState :=
  match answer.persisted with
  | .error error => .stop { s with aborted := true, stopReason := .text error }
  | .ok count =>
    let s := { s with executedSteps := s.executedSteps + count }
    match v.abortReason with
    | some reason => .stop { s with
        aborted := true, retainBootFlag := s.retainBootFlag || v.cleanup.retainBootFlag
        stopReason := .text reason }
    | none => self.schedule s v

/-- One iteration of the descent. -/
def iteration (s : F2DescentState) (answer : F2CandidateAnswer) :
    Option F2Visit × Flow F2DescentState :=
  match self.candidates[s.currentIndex]? with
  | none => (none, .stop s)
  | some candidate =>
    match self.refuse s candidate answer with
    | some s => (none, .stop s)
    | none =>
      let v := self.visit s answer
      (some v, self.settle s answer v)

/-- The discovery loop of a target clock, for at most `fuel` iterations. -/
def run (fuel : Nat) (answers : Nat → F2CandidateAnswer) (s : F2DescentState) :
    List F2Visit × Flow F2DescentState :=
  Narrowing.loop (fun s => decide (s.currentIndex < self.candidates.length)) self.iteration fuel
    answers s

end F2ClockDescent

end Nidavellir

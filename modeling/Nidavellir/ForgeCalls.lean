import Nidavellir.AttemptDecision
import Nidavellir.CalibrationPlan
import Nidavellir.DiscoveryCall
import Nidavellir.ExactApply

namespace Nidavellir

open Extremes F2World

/-- What the calls of the Forge on one exact Apply pair share. -/
structure ApplyPairCall where
  runId : String
  gpuKey : String
  ledgerRunScoped : Bool
  sane : List VfBin
  limits : PositiveOffsetLimits
  targetMhz : Nat
  applyMv : Nat
  referenceOffsetMhz : Int

namespace ApplyPairCall

variable (self : ApplyPairCall)

def scope : LedgerScope := ⟨self.gpuKey, self.runId, self.ledgerRunScoped⟩

def plan : Except String AnchoredPositiveOffsetPlan :=
  planF2PowerCalibrationCandidate self.sane self.targetMhz self.applyMv self.referenceOffsetMhz
    self.limits

end ApplyPairCall

/-- `printed` is a power as the texts show it. -/
structure F2ApplyQualificationCall extends ApplyPairCall where
  qualificationDwellMs : Nat
  enduranceDwellMs : Nat
  renderGoldens : Option RenderGoldens
  powerAboveCeiling : F2StepReport → Option (Float32 × Float32)
  printed : Float32 → String

def F2QualificationOutcome.applySummary (printed : Float32 → String) :
    F2QualificationOutcome → F2ApplyQualificationSummary
  | .qualified => { qualified := true, stopReason := "ExactApplyQualified" }
  | .rejected reason => { qualified := false, stopReason := s!"ExactApplyRejected: {reason}" }
  | .powerBound measuredW ceilingW =>
    { qualified := false
      stopReason := s!"ExactApplyPowerCeilingExceeded: measured {printed measuredW} W > " ++
        s!"{printed ceilingW} W" }
  | .inconclusive => { qualified := false, stopReason := "ExactApplyInconclusive" }
  | .cancelled => { qualified := false, cancelled := true, stopReason := "Cancelled" }
  | .aborted stopReason retainBootFlag =>
    { qualified := false, aborted := true, retainBootFlag, stopReason }

/-- Also where the call ends before its gate. -/
def applyQualificationSummary (printed : Float32 → String) :
    Except String F2QualificationOutcome → F2ApplyQualificationSummary
  | .ok outcome => outcome.applySummary printed
  | .error reason =>
    if reason = "Cancelled" then { qualified := false, cancelled := true, stopReason := reason }
    else { qualified := false, aborted := true, stopReason := reason }

structure F2PowerCalibrationCall extends ApplyPairCall where
  powerLimitW : Option Float32
  discoveryDwellMs : Nat
  rules : F2PowerRules
  printed : Float32 → String

namespace F2PowerCalibrationCall

variable (self : F2PowerCalibrationCall)

def previousConfirmedPower (log : List F2Observation) : Option (Float32 × Nat) :=
  let measured := ((queryByTargetForGpu log self.targetMhz self.gpuKey).filter fun o =>
    isCurrentDiscoveryEvidence o && o.resetToStockOk && o.bootFlagCleared &&
      !o.thermalThrottled &&
      (o.outcome == .validated || o.outcome == .powerBoundClockDrop)).filterMap fun o =>
        o.powerP99W.bind fun p99 => o.sustainedClockMhz.map fun p5 =>
          (max o.anchorMv self.applyMv - min o.anchorMv self.applyMv, p99, p5)
  (minByKey Prod.fst measured).map Prod.snd

/-- The first report asks for a consensus. -/
def rechecks (log : List F2Observation) (initial : F2StepReport) : Bool :=
  self.rules.p99RequiresRecheck self.rules.measurementUsable (self.previousConfirmedPower log)
      initial ||
    (self.rules.measurementUsable initial &&
      self.rules.capStateWithPrevious initial.powerP99W self.powerLimitW initial.powerCappedFrac
        none == .ambiguous)

def verdict [BuildEnv] (log : List F2Observation) (attempts : List F2StepReport) :
    F2PowerRules.Verdict :=
  let first := attempts.headD emptyF2StepReport
  self.rules.analyse first attempts (self.rechecks log first) self.powerLimitW none

end F2PowerCalibrationCall

def calibrationConfirmed (verdict : F2PowerRules.Verdict) (outcome : F2Outcome) : Bool :=
  verdict.conservativeP99.isSome &&
    (outcome == .validated || outcome == .powerBoundClockDrop)

def calibrationAborted : F2Outcome → Bool
  | .deviceLost | .resetFailed | .armFailed _ | .applyFailed _ | .verifyFailed => true
  | _ => false

section Calls

variable {W : Type*} [F2World W]

/-- The observations in order, until one is not appended. -/
def appendReports : List F2StepReport → W → Except String Unit × W
  | [], w => (.ok (), w)
  | report :: reports, w =>
    match appendObservation report w with
    | (.error e, w) => (.error e, w)
    | (.ok (), w) => appendReports reports w

variable [BuildEnv]

def F2ApplyQualificationCall.run (self : F2ApplyQualificationCall) (w : W) :
    F2ApplyQualificationSummary × W :=
  let (result, w) := runConfirmedF2ApplyQualification self.scope self.plan self.limits
    self.targetMhz self.qualificationDwellMs self.enduranceDwellMs self.renderGoldens
    self.powerAboveCeiling w
  (applyQualificationSummary self.printed result, w)

/-- The rest of a calibration, once its attempts are made. -/
def F2PowerCalibrationCall.conclude (self : F2PowerCalibrationCall) (log : List F2Observation)
    (attempts : List F2StepReport) (w : W) : F2PowerCalibrationSummary × W :=
  let verdict := self.verdict log attempts
  let outcome := f2PowerBoundClockDrop verdict.aggregate.outcome verdict.nearCap
  let retainBootFlag := f2OutcomeRetainsBootFlag outcome
  match appendReports verdict.attempts w with
  | (.error e, w) =>
    ({ confirmed := false, aborted := true, retainBootFlag
       stopReason := s!"CalibrationObservationPersistFailed: {e}" }, w)
  | (.ok (), w) =>
    let confirmed := calibrationConfirmed verdict outcome
    let summary (stopReason : String) : F2PowerCalibrationSummary :=
      { confirmed, aborted := calibrationAborted outcome, retainBootFlag, stopReason }
    if confirmed then
      (summary s!"Confirmed p99 {self.printed (verdict.conservativeP99.getD 0)} W", w)
    else
      let (stop, w) := stopRequested w
      (summary (if stop then "Cancelled" else outcome.debug), w)

def F2PowerCalibrationCall.run (self : F2PowerCalibrationCall) (log : List F2Observation) (w : W) :
    F2PowerCalibrationSummary × W :=
  let (result, w) := runConfirmedF2PowerCalibration self.scope self.plan self.limits
    self.targetMhz self.referenceOffsetMhz self.discoveryDwellMs (self.rechecks log)
    (fun attempts => self.rules.recheckResolved attempts self.powerLimitW none) w
  match result with
  | .error reason =>
    ({ confirmed := false, aborted := decide (reason ≠ "Cancelled"), stopReason := reason }, w)
  | .ok attempts => self.conclude log attempts w

end Calls

end Nidavellir

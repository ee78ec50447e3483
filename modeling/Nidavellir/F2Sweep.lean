import Nidavellir.F2Motor
import Nidavellir.FieldGuard

namespace Nidavellir

inductive AnchoredBinRole
  | anchor
  | cappedAbove
  | elasticBelow
deriving DecidableEq, Repr

structure AnchoredBinEntry where
  index : Nat
  voltageMv : Nat
  baseMhz : Nat
  offsetMhz : Int
  effectiveMhz : Nat
  role : AnchoredBinRole
deriving DecidableEq, Repr

structure AnchoredPositiveOffsetPlan where
  targetMhz : Nat
  anchor : PositiveOffsetPlan
  entries : List AnchoredBinEntry
  cappedAboveBins : Nat
  aboveAlreadyOkBins : Nat
  elasticBelowBins : Nat
  maxPositiveOffsetMhz : Int
  maxNegativeFlattenMhz : Int
deriving DecidableEq, Repr

/-- What every observation of one run shares. -/
structure ObsContext where
  runId : String
  timestamp : String
  gpuKey : Option String
  evidenceKind : F2EvidenceKind
  discoveryContractVersion : Option Nat
  qualificationContractVersion : Option Nat
  qualificationCoverage : Option F2QualificationCoverage
  mode : F2ObsMode
  requestedStartMv : Option Nat
  positiveOffsetCapMhz : Int

def mapVerifier : Option PositiveOffsetVerification → F2ObsVerifier
  | some .raiseVerified => .raiseVerified
  | some .raiseIncomplete => .raiseIncomplete
  | some .overRaise => .overRaise
  | some .unverifiable => .unverifiable
  | none => .notRun

def mapDwell (d : Option F2DwellOutcome) (discoveryPowerInconclusive : Bool) : F2ObsDwell :=
  if discoveryPowerInconclusive then .powerTelemetryInconclusive
  else
    match d with
    | some .stable => .stable
    | some .silentError => .silentError
    | some .unstable => .unstable
    | some .deviceLost => .deviceLost
    | some .clockDrop => .clockDrop
    | some .inconclusive => .qualificationInconclusive
    | none => .notRun

def mapOutcome (o : F2Outcome) (discoveryPowerInconclusive : Bool) : F2ObsOutcome :=
  if discoveryPowerInconclusive then .powerTelemetryInconclusive
  else
    match o with
    | .validated => .validated
    | .verifyFailed => .verifierFailed
    | .silentError => .silentError
    | .unstable => .unstable
    | .deviceLost => .deviceLost
    | .powerBoundClockDrop => .powerBoundClockDrop
    | .clockDrop => .clockDrop
    | .inconclusive => .qualificationInconclusive
    | .resetFailed => .resetFailed
    | .armFailed _ | .applyFailed _ => .abortedBySafetyGate

def observationFromAnchoredStep (ctx : ObsContext) (targetMhz : Nat)
    (anchored : AnchoredPositiveOffsetPlan) (report : F2StepReport) : F2Observation :=
  let discoveryPowerInconclusive :=
    ctx.evidenceKind == .discovery && report.outcome == .inconclusive
  let outcome := mapOutcome report.outcome discoveryPowerInconclusive
  { runId := ctx.runId
    timestamp := ctx.timestamp
    gpuKey := ctx.gpuKey
    evidenceKind := ctx.evidenceKind
    discoveryContractVersion := ctx.discoveryContractVersion
    qualificationContractVersion := ctx.qualificationContractVersion
    qualificationCoverage := report.qualificationCoverage.or ctx.qualificationCoverage
    evidenceProvenance := report.evidenceProvenance
    mode := ctx.mode
    targetMhz := targetMhz
    requestedStartMv := ctx.requestedStartMv
    anchorMv := anchored.anchor.voltageMv
    baseMhz := anchored.anchor.baseMhz
    offsetMhz := anchored.anchor.offsetMhz
    positiveOffsetCapMhz := ctx.positiveOffsetCapMhz
    higherBinsCapped := anchored.cappedAboveBins
    maxFlattenMhz := anchored.maxNegativeFlattenMhz
    lowerBinsElastic := anchored.elasticBelowBins
    verifierResult := mapVerifier report.verify
    dwellResult := mapDwell report.dwell discoveryPowerInconclusive
    avgClockMhz := report.avgClockMhz
    sustainedClockMhz := report.p5ClockMhz
    sustainedUpperClockMhz := report.p95ClockMhz
    watts := report.powerW
    maxWatts := report.maxPowerW
    powerP99W := report.powerP99W
    powerP99Confirmed := report.powerP99Confirmed
    powerP99Attempts := report.powerP99Attempts
    measuredVoltageMinMv := report.measuredVoltageMinMv
    measuredVoltageAvgMv := report.measuredVoltageAvgMv
    measuredVoltageMaxMv := report.measuredVoltageMaxMv
    measuredVoltageSampleCount := report.measuredVoltageSampleCount
    renderFrames := report.renderFrames
    renderFps := report.renderFps
    powerCappedFrac := report.powerCappedFrac
    maxTempC := report.maxTempC
    thermalThrottled := report.thermalThrottled
    dwellDurationMs := report.dwellDurationMs
    sampleCount := report.sampleCount
    silentError := report.dwell == some .silentError
    deviceLost := report.outcome == .deviceLost
    unstable := report.outcome == .unstable
    clockDrop := report.outcome == .clockDrop
    tdrOrCrash := report.outcome == .deviceLost
    resetToStockAttempted := report.resetOk.isSome
    resetToStockOk := report.resetOk == some true
    bootFlagCleared := report.bootFlagCleared
    blacklisted := report.blacklisted
    outcome := outcome
    confidence := if outcome.isValidated then some (frontierConfidence 1) else none
    notes := none }

/-- An observation with proven cleanup: reset confirmed and the boot flag cleared. -/
def F2Observation.cleanupProven (self : F2Observation) : Bool :=
  self.resetToStockOk && self.bootFlagCleared

theorem observationFromAnchoredStep_cleanupProven {ctx : ObsContext} {targetMhz : Nat}
    {anchored : AnchoredPositiveOffsetPlan} {report : F2StepReport} :
    (observationFromAnchoredStep ctx targetMhz anchored report).cleanupProven ↔
      report.resetOk = some true ∧ report.bootFlagCleared := by
  simp [F2Observation.cleanupProven, observationFromAnchoredStep]

end Nidavellir

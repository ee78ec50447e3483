import Mathlib.Init
import Nidavellir.Lib.Text

namespace Nidavellir

inductive F2EvidenceKind
  | legacy
  | discovery
  | qualification
  | applyQualification
deriving DecidableEq, Repr

/-- Identity of the executable, workload and graphics stack behind one dwell. -/
structure F2EvidenceProvenance where
  buildVersion : Option String := none
  buildRevision : Option String := none
  workloadFingerprint : Option String := none
  renderBackend : Option String := none
  adapterName : Option String := none
  driverName : Option String := none
  driverInfo : Option String := none
  checksumMethod : Option String := none
  goldenConfig : Option String := none
deriving DecidableEq, Repr

inductive F2QualificationVerdict
  | pass
  | fail
  | inconclusive
deriving DecidableEq, Repr

inductive F2QualificationStrength
  | fsgl1
  | fsgl2
  | fsgl3
  | fsgl4
deriving DecidableEq, Repr

inductive F2QualificationPattern
  | a
  | b
  | highFps
  | texture
  | transitions
  | memory
  | endurance
  | transitionShock
  | dx11Game
deriving DecidableEq, Repr

structure F2QualificationPhaseMetric where
  phaseName : String
  phasePattern : String
  durationMs : Nat
  frameCount : Nat
  checksumCount : Nat
  computeCheckCount : Nat
  clockAvg : Option Float32
  clockP5 : Option Nat
  clockP50 : Option Nat
  clockP95 : Option Nat
  targetResidencyPct : Option Float32
  powerAvg : Option Float32
  powerP95 : Option Float32
  powerCappedFraction : Option Float32
  temperatureAvg : Option Float32
  temperatureMax : Option Float32
  coverageStatus : String

structure F2QualificationCoverage where
  strength : F2QualificationStrength
  pattern : Option F2QualificationPattern
  passIndex : Nat
  verdict : F2QualificationVerdict
  phasesCompleted : Nat
  phasesExpected : Nat
  checksumCount : Nat
  sampleCount : Nat
  computeCheckCount : Nat
  targetResidencyFrac : Option Float32
  heavyLightPowerDeltaW : Option Float32
  failurePhase : Option String
  retryCount : Nat
  reason : Option String
  phaseMetrics : List F2QualificationPhaseMetric

inductive F2ObsMode
  | defaultProgressive
  | manualPrior
  | targetSweep
  | ladderSweep
  | applyQualification
deriving DecidableEq, Repr

inductive F2ObsVerifier
  | raiseVerified
  | raiseIncomplete
  | overRaise
  | unverifiable
  | notRun
deriving DecidableEq, Repr

inductive F2ObsDwell
  | stable
  | silentError
  | unstable
  | deviceLost
  | clockDrop
  | powerTelemetryInconclusive
  | qualificationInconclusive
  | notRun
deriving DecidableEq, Repr

inductive F2ObsOutcome
  | validated
  | rejectedByPlanner
  | verifierFailed
  | silentError
  | unstable
  | deviceLost
  | powerBoundClockDrop
  | clockDrop
  | powerTelemetryInconclusive
  | qualificationInconclusive
  | resetFailed
  | blacklisted
  | crashOrRecovery
  | abortedBySafetyGate
deriving DecidableEq, Repr

def F2ObsOutcome.isValidated (self : F2ObsOutcome) : Bool := self == .validated

/-- One recorded attempt with its full outcome. -/
structure F2Observation where
  runId : String
  timestamp : String
  gpuKey : Option String
  evidenceKind : F2EvidenceKind
  discoveryContractVersion : Option Nat
  qualificationContractVersion : Option Nat
  qualificationCoverage : Option F2QualificationCoverage
  evidenceProvenance : Option F2EvidenceProvenance
  mode : F2ObsMode
  targetMhz : Nat
  requestedStartMv : Option Nat
  anchorMv : Nat
  baseMhz : Nat
  offsetMhz : Int
  positiveOffsetCapMhz : Int
  higherBinsCapped : Nat
  maxFlattenMhz : Int
  lowerBinsElastic : Nat
  verifierResult : F2ObsVerifier
  dwellResult : F2ObsDwell
  avgClockMhz : Option Nat
  sustainedClockMhz : Option Nat
  sustainedUpperClockMhz : Option Nat
  watts : Option Nat
  maxWatts : Option Nat
  powerP99W : Option Float32
  powerP99Confirmed : Bool
  powerP99Attempts : Nat
  measuredVoltageMinMv : Option Nat
  measuredVoltageAvgMv : Option Nat
  measuredVoltageMaxMv : Option Nat
  measuredVoltageSampleCount : Nat
  renderFrames : Option Nat
  renderFps : Option Float
  powerCappedFrac : Option Float32
  maxTempC : Option Float32
  thermalThrottled : Bool
  dwellDurationMs : Option Nat
  sampleCount : Option Nat
  silentError : Bool
  deviceLost : Bool
  unstable : Bool
  clockDrop : Bool
  tdrOrCrash : Bool
  resetToStockAttempted : Bool
  resetToStockOk : Bool
  bootFlagCleared : Bool
  blacklisted : Bool
  outcome : F2ObsOutcome
  confidence : Option Float
  notes : Option String

def frontierConfidence (validatedCount : Nat) : Float :=
  if validatedCount = 0 then 0.0
  else min (1.0 - Float.pow 0.15 (Float.ofNat validatedCount)) 0.99

def f2DiscoveryContractVersion : Nat := 6

def f2QualificationContractVersion : Nat := 25

def requiredQualificationPatterns : List F2QualificationPattern := [.texture]

def isRequiredQualificationPattern (pattern : F2QualificationPattern) : Bool :=
  requiredQualificationPatterns.contains pattern

/-- A real failure at this voltage, as opposed to a refusal that wrote nothing. -/
def F2ObsOutcome.isBad : F2ObsOutcome → Bool
  | .verifierFailed | .silentError | .unstable | .deviceLost | .clockDrop | .resetFailed
  | .blacklisted | .crashOrRecovery => true
  | _ => false

def present (value : Option String) : Bool :=
  value.any fun value => !(Text.trim value.toList).isEmpty

/-- One driver identifier suffices; every other identity component is mandatory. -/
def F2EvidenceProvenance.isReproducible (self : F2EvidenceProvenance) : Bool :=
  present self.buildVersion && present self.buildRevision && present self.workloadFingerprint &&
    present self.renderBackend && present self.adapterName &&
    (present self.driverName || present self.driverInfo) && present self.checksumMethod &&
    present self.goldenConfig

def hasProvenCleanup (o : F2Observation) : Bool := o.resetToStockOk && o.bootFlagCleared

def hasReproducibleProvenance (o : F2Observation) : Bool :=
  o.evidenceProvenance.any F2EvidenceProvenance.isReproducible

def isCurrentDiscoveryEvidence (o : F2Observation) : Bool :=
  o.evidenceKind == .discovery &&
    o.discoveryContractVersion == some f2DiscoveryContractVersion &&
    o.powerP99Confirmed && hasProvenCleanup o && hasReproducibleProvenance o

def isCurrentQualificationPass (o : F2Observation) : Bool :=
  o.evidenceKind == .qualification &&
    o.qualificationContractVersion == some f2QualificationContractVersion &&
    o.outcome.isValidated && hasProvenCleanup o && hasReproducibleProvenance o &&
    o.qualificationCoverage.any fun coverage =>
      coverage.strength == .fsgl4 && coverage.pattern.any isRequiredQualificationPattern &&
        coverage.verdict == .pass

def F2Observation.pattern (o : F2Observation) : Option F2QualificationPattern :=
  o.qualificationCoverage.bind fun coverage => coverage.pattern

/-- A failure that bounds the voltage of its target: an Apply failure does not. -/
def F2Observation.isBadFor (o : F2Observation) (targetMhz : Nat) : Bool :=
  o.targetMhz == targetMhz && o.evidenceKind != .applyQualification && o.outcome.isBad

def F2Observation.isLossFor (o : F2Observation) (targetMhz : Nat) : Bool :=
  o.targetMhz == targetMhz && (o.deviceLost || o.outcome == .deviceLost)

theorem F2ObsOutcome.isValidated_iff {outcome : F2ObsOutcome} :
    outcome.isValidated ↔ outcome = .validated := by
  simp [F2ObsOutcome.isValidated]

theorem isCurrentDiscoveryEvidence_iff {o : F2Observation} :
    isCurrentDiscoveryEvidence o ↔
      o.evidenceKind = .discovery ∧
        o.discoveryContractVersion = some f2DiscoveryContractVersion ∧
        o.powerP99Confirmed ∧ (o.resetToStockOk ∧ o.bootFlagCleared) ∧
        hasReproducibleProvenance o := by
  simp [isCurrentDiscoveryEvidence, hasProvenCleanup, and_assoc]

theorem isCurrentQualificationPass_validated {o : F2Observation}
    (h : isCurrentQualificationPass o) : o.outcome.isValidated := by
  simp only [isCurrentQualificationPass, Bool.and_eq_true] at h
  exact h.1.1.1.2

end Nidavellir

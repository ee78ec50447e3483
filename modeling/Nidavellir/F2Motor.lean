import Nidavellir.F2Observation

namespace Nidavellir

inductive PositiveOffsetVerification
  | raiseVerified
  | raiseIncomplete
  | overRaise
  | unverifiable
deriving DecidableEq, Repr

inductive F2DwellOutcome
  | stable
  | silentError
  | unstable
  | deviceLost
  | clockDrop
  | inconclusive
deriving DecidableEq, Repr

structure F2DwellResult where
  outcome : F2DwellOutcome
  avgClockMhz : Nat
  p5ClockMhz : Nat
  p95ClockMhz : Nat
  powerW : Float32
  maxPowerW : Float32
  powerP99W : Option Float32
  powerCappedFrac : Float32
  maxTempC : Option Float32
  thermalThrottled : Bool
  measuredVoltageMinMv : Option Nat
  measuredVoltageAvgMv : Option Nat
  measuredVoltageMaxMv : Option Nat
  measuredVoltageSampleCount : Nat
  renderFrames : Option Nat
  renderFps : Option Float
  durationMs : Nat
  sampleCount : Nat
  qualificationCoverage : Option F2QualificationCoverage
  evidenceProvenance : Option F2EvidenceProvenance

inductive F2Outcome
  | armFailed (error : String)
  | applyFailed (error : String)
  | verifyFailed
  | silentError
  | unstable
  | deviceLost
  | powerBoundClockDrop
  | clockDrop
  | inconclusive
  | resetFailed
  | validated
deriving DecidableEq, Repr

structure F2StepReport where
  outcome : F2Outcome
  armed : Bool
  applied : Bool
  verify : Option PositiveOffsetVerification
  dwell : Option F2DwellOutcome
  avgClockMhz : Option Nat
  p5ClockMhz : Option Nat
  p95ClockMhz : Option Nat
  powerW : Option Nat
  maxPowerW : Option Nat
  powerP99W : Option Float32
  powerP99Confirmed : Bool
  powerP99Attempts : Nat
  powerCappedFrac : Option Float32
  maxTempC : Option Float32
  thermalThrottled : Bool
  measuredVoltageMinMv : Option Nat
  measuredVoltageAvgMv : Option Nat
  measuredVoltageMaxMv : Option Nat
  measuredVoltageSampleCount : Nat
  renderFrames : Option Nat
  renderFps : Option Float
  dwellDurationMs : Option Nat
  sampleCount : Option Nat
  qualificationCoverage : Option F2QualificationCoverage
  evidenceProvenance : Option F2EvidenceProvenance
  resetOk : Option Bool
  bootFlagCleared : Bool
  blacklisted : Bool
  validated : Bool

/-- What the build embeds: `CARGO_PKG_VERSION` and `NIDAVELLIR_BUILD_REVISION`. -/
class BuildEnv where
  cargoPkgVersion : String
  nidavellirBuildRevision : String

/-- The hardware and Safe Loop operations of one confirmed step. Any of them may fail or answer
anything, depending on the state they act on. -/
class F2Ops (O : Type*) where
  armBootFlag : O → Except String Unit × O
  applyPositiveOffset : O → Except String Unit × O
  verify : O → PositiveOffsetVerification × O
  dwell : O → F2DwellResult × O
  resetToStock : O → Except String Unit × O
  clearBootFlag : O → Except String Unit × O
  blacklistPoint : Bool → O → Except String Unit × O

open F2Ops

section Report

variable [BuildEnv]

def currentBuildProvenance : F2EvidenceProvenance where
  buildVersion := some BuildEnv.cargoPkgVersion
  buildRevision :=
    if BuildEnv.nidavellirBuildRevision ≠ "unknown" then some BuildEnv.nidavellirBuildRevision
    else none

def emptyF2StepReport : F2StepReport where
  outcome := .validated
  armed := false
  applied := false
  verify := none
  dwell := none
  avgClockMhz := none
  p5ClockMhz := none
  p95ClockMhz := none
  powerW := none
  maxPowerW := none
  powerP99W := none
  powerP99Confirmed := false
  powerP99Attempts := 0
  powerCappedFrac := none
  maxTempC := none
  thermalThrottled := false
  measuredVoltageMinMv := none
  measuredVoltageAvgMv := none
  measuredVoltageMaxMv := none
  measuredVoltageSampleCount := 0
  renderFrames := none
  renderFps := none
  dwellDurationMs := none
  sampleCount := none
  qualificationCoverage := none
  evidenceProvenance := some currentBuildProvenance
  resetOk := none
  bootFlagCleared := false
  blacklisted := false
  validated := false

end Report

def F2DwellOutcome.reported : F2DwellOutcome → F2Outcome
  | .deviceLost => .deviceLost
  | .silentError => .silentError
  | .unstable => .unstable
  | .clockDrop => .clockDrop
  | .inconclusive => .inconclusive
  | .stable => .validated

def populateF2DwellReport (report : F2StepReport) (dwell : F2DwellResult) : F2StepReport :=
  { report with
    dwell := some dwell.outcome
    avgClockMhz := some dwell.avgClockMhz
    p5ClockMhz := some dwell.p5ClockMhz
    p95ClockMhz := some dwell.p95ClockMhz
    powerW := some dwell.powerW.round.toUInt32.toNat
    maxPowerW := some dwell.maxPowerW.round.toUInt32.toNat
    powerP99W := dwell.powerP99W
    powerCappedFrac := some dwell.powerCappedFrac
    maxTempC := dwell.maxTempC
    thermalThrottled := dwell.thermalThrottled
    measuredVoltageMinMv := dwell.measuredVoltageMinMv
    measuredVoltageAvgMv := dwell.measuredVoltageAvgMv
    measuredVoltageMaxMv := dwell.measuredVoltageMaxMv
    measuredVoltageSampleCount := dwell.measuredVoltageSampleCount
    renderFrames := dwell.renderFrames
    renderFps := dwell.renderFps
    dwellDurationMs := some dwell.durationMs
    sampleCount := some dwell.sampleCount
    qualificationCoverage := dwell.qualificationCoverage
    evidenceProvenance :=
      if dwell.evidenceProvenance.isSome then dwell.evidenceProvenance
      else report.evidenceProvenance
    outcome := dwell.outcome.reported }

variable {O : Type*} [F2Ops O]

/-- Resets to stock, optionally blacklists, and clears the flag only on a confirmed reset. -/
def finishAfterWrite (ops : O) (r : F2StepReport) (blacklist : Bool) : F2StepReport × O :=
  let (reset, ops) := resetToStock ops
  let r := { r with resetOk := some reset.isOk }
  let (r, ops) :=
    if blacklist then
      let (listed, ops) := blacklistPoint false ops
      ({ r with blacklisted := listed.isOk }, ops)
    else (r, ops)
  if reset.isOk then
    match clearBootFlag ops with
    | (.ok (), ops) =>
      let r := { r with bootFlagCleared := true }
      (if r.outcome = .validated then { r with validated := true } else r, ops)
    | (.error _, ops) => ({ r with outcome := .resetFailed, validated := false }, ops)
  else ({ r with outcome := .resetFailed }, ops)

/-- The cleanup each dwell verdict asks for; a lost device keeps the flag armed. -/
def settleDwell (ops : O) (r : F2StepReport) : F2DwellOutcome → F2StepReport × O
  | .deviceLost =>
    let (reset, ops) := resetToStock ops
    let (listed, ops) := blacklistPoint true ops
    ({ r with
        resetOk := some reset.isOk
        blacklisted := listed.isOk
        outcome := .deviceLost }, ops)
  | .silentError => finishAfterWrite ops r true
  | .unstable => finishAfterWrite ops r true
  | .clockDrop => finishAfterWrite ops r false
  | .inconclusive => finishAfterWrite ops r false
  | .stable => finishAfterWrite ops r false

/-- Arm, apply, verify, dwell, then clean up. -/
def runConfirmedF2Step [BuildEnv] (ops : O) : F2StepReport × O :=
  let r := emptyF2StepReport
  match armBootFlag ops with
  | (.error e, ops) =>
    let (reset, ops) := resetToStock ops
    ({ r with resetOk := some reset.isOk, outcome := .armFailed e }, ops)
  | (.ok (), ops) =>
    let r := { r with armed := true }
    match applyPositiveOffset ops with
    | (.error e, ops) => finishAfterWrite ops { r with outcome := .applyFailed e } false
    | (.ok (), ops) =>
      let r := { r with applied := true }
      let (v, ops) := F2Ops.verify ops
      let r := { r with verify := some v }
      if v ≠ .raiseVerified then
        finishAfterWrite ops { r with outcome := .verifyFailed } false
      else
        let (d, ops) := F2Ops.dwell ops
        let r := populateF2DwellReport r d
        settleDwell ops r d.outcome

end Nidavellir

import Nidavellir.F2Calls

namespace Nidavellir

open F2Ops

structure Dx11Golden where
  checksum : Nat
  adapterLuid : Int
  frameReferenceUs : Nat
deriving DecidableEq, Repr

structure RenderGoldens where
  power : Nat
  boost : Nat
  texrop : Nat
  cadence : Nat
  geometry : Nat
  stream : Nat
  streamFrameReferenceMs : Nat
  boostFrameReferenceUs : Nat
  dx11 : Dx11Golden
deriving DecidableEq, Repr

inductive F2StressPurpose
  | powerDiscovery
  | v8Qualification (pattern : F2QualificationPattern) (goldens : RenderGoldens)
  | applyQualification (pattern : F2QualificationPattern) (goldens : RenderGoldens)
deriving DecidableEq, Repr

/-- Changes the workload while the same verified write stays active. -/
class F2CandidateTransactionOps (O : Type*) extends F2Ops O where
  configurePhase : Nat → F2StressPurpose → O → O

open F2CandidateTransactionOps

structure F2TransactionCleanup where
  clean : Bool
  retainBootFlag : Bool
  stopReason : Option String
deriving DecidableEq, Repr

structure ActiveF2Candidate (O : Type*) where
  ops : O
  baseReport : F2StepReport

def lastResetFailed (reports : List F2StepReport) : List F2StepReport :=
  reports.modify (reports.length - 1) fun last => { last with outcome := .resetFailed }

section Transaction

variable {O : Type*} [F2Ops O]

/-- The last part of the cleanup, after a confirmed reset with nothing left to persist. -/
def clearAfterReset (ops : O) (reports : List F2StepReport) :
    List F2StepReport × F2TransactionCleanup × O :=
  match clearBootFlag ops with
  | (.ok (), ops) =>
    (reports.map fun report =>
        { report with bootFlagCleared := true, validated := report.outcome == .validated },
      ⟨true, false, none⟩, ops)
  | (.error error, ops) =>
    (lastResetFailed reports, ⟨false, true, some s!"BootFlagClearFailed: {error}"⟩, ops)

/-- The reports as a reset leaves them. -/
def resetReports (reports : List F2StepReport) (resetOk : Bool) : List F2StepReport :=
  reports.map fun report =>
    { report with resetOk := some resetOk, bootFlagCleared := false, validated := false }

def markBlacklisted (reports : List F2StepReport) (index : Nat) (blacklisted : Bool) :
    List F2StepReport :=
  reports.modify index fun report => { report with blacklisted := blacklisted }

/-- One cleanup for all the phases that shared a write. -/
def finishF2TransactionReports (ops : O) (reports : List F2StepReport) :
    List F2StepReport × F2TransactionCleanup × O :=
  let deviceLostIndex := reports.findIdx? fun report => report.outcome == .deviceLost
  let boundaryFailureIndex := reports.findIdx? fun report => report.outcome.isBoundary
  let (reset, ops) := resetToStock ops
  let reports := resetReports reports reset.isOk
  let (blacklistResult, reports, ops) :=
    match deviceLostIndex.or boundaryFailureIndex with
    | some index =>
      let (result, ops) := blacklistPoint deviceLostIndex.isSome ops
      (some result, markBlacklisted reports index result.isOk, ops)
    | none => (none, reports, ops)
  if deviceLostIndex.isSome then (reports, ⟨false, true, some "DeviceLost"⟩, ops)
  else
    match blacklistResult, reset with
    | some (.error error), _ =>
      (lastResetFailed reports, ⟨false, true, some s!"BlacklistPersistFailed: {error}"⟩, ops)
    | _, .error error =>
      (lastResetFailed reports, ⟨false, true, some s!"TransactionResetFailed: {error}"⟩, ops)
    | _, .ok () => clearAfterReset ops reports

/-- Arm, apply and verify; the write stays active for the phases. -/
def beginF2CandidateTransaction [BuildEnv] (ops : O) :
    Except (O × F2StepReport × F2TransactionCleanup) (ActiveF2Candidate O) :=
  let report := emptyF2StepReport
  match armBootFlag ops with
  | (.error error, ops) =>
    let (reset, ops) := resetToStock ops
    .error (ops, { report with resetOk := some reset.isOk, outcome := .armFailed error },
      ⟨false, false, some "TransactionArmFailed"⟩)
  | (.ok (), ops) =>
    let report := { report with armed := true }
    match applyPositiveOffset ops with
    | (.error error, ops) =>
      let report := { report with outcome := .applyFailed error }
      let (reports, cleanup, ops) := finishF2TransactionReports ops [report]
      .error (ops, reports.headD report, cleanup)
    | (.ok (), ops) =>
      let report := { report with applied := true }
      let (verification, ops) := F2Ops.verify ops
      let report := { report with verify := some verification }
      if verification ≠ .raiseVerified then
        let report := { report with outcome := .verifyFailed }
        let (reports, cleanup, ops) := finishF2TransactionReports ops [report]
        .error (ops, reports.headD report, cleanup)
      else .ok ⟨ops, report⟩

end Transaction

namespace ActiveF2Candidate

variable {O : Type*} [F2CandidateTransactionOps O]

def runPhase (self : ActiveF2Candidate O) (dwellMs : Nat) (purpose : F2StressPurpose) :
    F2StepReport × ActiveF2Candidate O :=
  let (dwell, ops) := F2Ops.dwell (configurePhase dwellMs purpose self.ops)
  (populateF2DwellReport self.baseReport dwell, { self with ops })

def runPhases (self : ActiveF2Candidate O) :
    List (Nat × F2StressPurpose) → List F2StepReport × ActiveF2Candidate O
  | [] => ([], self)
  | (dwellMs, purpose) :: phases =>
    let (report, self) := self.runPhase dwellMs purpose
    let (reports, self) := self.runPhases phases
    (report :: reports, self)

def finish (self : ActiveF2Candidate O) (reports : List F2StepReport) :
    List F2StepReport × F2TransactionCleanup × O :=
  finishF2TransactionReports self.ops reports

end ActiveF2Candidate

/-- A whole transaction: the reports of its phases, those handed to the cleanup, those the
cleanup gave back, and the cleanup itself. -/
structure F2TransactionRun (O : Type*) where
  phaseReports : List F2StepReport
  handed : List F2StepReport
  reports : List F2StepReport
  cleanup : F2TransactionCleanup
  ops : O

/-- Begin, run the phases, and finish with whatever the caller makes of their reports. -/
def runF2Transaction {O : Type*} [F2CandidateTransactionOps O] [BuildEnv] (ops : O)
    (phases : List (Nat × F2StressPurpose))
    (collect : List F2StepReport → List F2StepReport) : F2TransactionRun O :=
  match beginF2CandidateTransaction ops with
  | .error (ops, report, cleanup) => ⟨[], [report], [report], cleanup, ops⟩
  | .ok active =>
    let (phaseReports, active) := active.runPhases phases
    let handed := collect phaseReports
    let (reports, cleanup, ops) := active.finish handed
    ⟨phaseReports, handed, reports, cleanup, ops⟩

instance {O : Type*} [F2CandidateTransactionOps O] : F2CandidateTransactionOps (Traced O) where
  configurePhase dwellMs purpose self :=
    { self with ops := configurePhase dwellMs purpose self.ops }

end Nidavellir

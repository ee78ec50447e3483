import Nidavellir.Condemnation
import Nidavellir.F2Observation
import Nidavellir.Lib.Interference
import Nidavellir.Startup
import Nidavellir.VfHardware
import Nidavellir.VoltageBisection

namespace Nidavellir

open Interference SafeLoopStore

/-- The slot of the manual point, with its note and the time of its apply. -/
structure ManualPointStatus extends ManualDiagnosticPointStatus where
  appliedAtEpochMs : Option Nat := none
  note : String := ""

structure DetectorLabPhaseStatus where
  phase : String
  result : String
  durationMs : Nat
  frames : Nat
  checksumCount : Nat
deriving DecidableEq

structure DetectorLabStatus where
  running : Bool := false
  recipe : Option String := none
  targetMhz : Option Nat := none
  voltageMv : Option Nat := none
  stage : String := ""
  currentPhase : Option String := none
  currentSegment : Option Nat := none
  durationMs : Nat := 0
  result : Option String := none
  failurePhase : Option String := none
  frames : Nat := 0
  checksumCount : Nat := 0
  phaseResults : List DetectorLabPhaseStatus := []
  note : String := ""
deriving DecidableEq

inductive DetectorRecipe
  | controlV25
  | denseV14
deriving DecidableEq

def DetectorRecipe.parse : String → Except String DetectorRecipe
  | "control_v25" | "control_v24" | "control_v23" => .ok .controlV25
  | "dense_v14" => .ok .denseV14
  | _ => .error "Detector Lab recipe must be control_v25 or dense_v14"

def DetectorRecipe.key : DetectorRecipe → String
  | .controlV25 => "control_v25"
  | .denseV14 => "dense_v14"

def DetectorRecipe.requiresFullStockControl (self : DetectorRecipe) : Bool :=
  self == .controlV25

/-- The card after a successful clock reset and `reset_all`. -/
def VfCard.released (card : VfCard) (hw : Hardware) : Hardware :=
  { card.resetAll hw with clockCap := none }

structure VfCard.AtStock (card : VfCard) (hw : Hardware) : Prop where
  clockCap : hw.clockCap = none
  voltageLock : hw.voltageLock = none
  memOffset : hw.memOffset = 0
  coreOffset : hw.coreOffset = 0
  offsets : ∀ bin ∈ card.table, hw.offsets bin.index = 0

namespace DetectorLab

def minDurationS : Nat := 15

def maxDurationS : Nat := 600

/-- What `start` has validated and hands to its worker. -/
structure DetectorSession where
  recipe : DetectorRecipe
  durationS : Nat
  point : ManualPointStatus
  targetMhz : Nat
  requestedVoltageMv : Nat
  resolvedVoltageMv : Nat

/-- The checks of `start` before it claims `running`. -/
def validate (rebootRequired : Option String) (manual : ManualPointStatus)
    (recipe : String) (durationS : Nat) : Except String DetectorSession :=
  match DetectorRecipe.parse recipe with
  | .error e => .error e
  | .ok recipe =>
    match rebootRequired with
    | some event =>
      .error (s!"GPU driver reset detected at {event}. " ++
        "Reboot Windows before another Detector Lab run")
    | none =>
      if ¬ (minDurationS ≤ durationS ∧ durationS ≤ maxDurationS) then
        .error (s!"Detector Lab duration must be between {minDurationS} and {maxDurationS} " ++
          "seconds")
      else
        match manual.targetMhz.filter (fun _ => manual.active && manual.verified) with
        | none => .error "Apply and verify a manual diagnostic point before starting Detector Lab"
        | some targetMhz =>
          match manual.requestedVoltageMv, manual.resolvedVoltageMv with
          | none, _ => .error "The active manual point has no requested voltage"
          | some _, none => .error "The active manual point has no resolved physical VF bin"
          | some requestedVoltageMv, some resolvedVoltageMv =>
            .ok ⟨recipe, durationS, manual, targetMhz, requestedVoltageMv, resolvedVoltageMv⟩

/-- One qualifier dwell as it was measured. The workload yields coverage unless the GPU context
could not be made, which is a crash. -/
structure SingleDwell where
  cancelled : Bool
  crashed : Bool
  silentError : Bool
  stable : Bool
  voltSamples : List Nat
  renderFrames : Option Nat
  qualificationCoverage : Option F2QualificationCoverage
  covered : crashed = false → qualificationCoverage.isSome

namespace SingleDwell

def voltSampleCount (run : SingleDwell) : Nat := run.voltSamples.length

def voltMaxMv (run : SingleDwell) : Option Nat := run.voltSamples.max?

def result (run : SingleDwell) : StabilityResult :=
  if run.crashed then .crash
  else if run.silentError then .silentError
  else if run.stable then .stable
  else .unstable

def coverageFailed (run : SingleDwell) : Bool :=
  run.qualificationCoverage.any fun coverage => coverage.verdict == .fail

def detectedFailure (run : SingleDwell) : Bool := !run.result.isStable || run.coverageFailed

def voltageReason (run : SingleDwell) (resolvedVoltageMv : Nat) : Option String :=
  if run.voltSampleCount < 3 then some "voltage_telemetry_low"
  else
    match run.voltMaxMv with
    | some observedMv =>
      if observedMv ≤ resolvedVoltageMv then none
      else some s!"voltage_ceiling_exceeded:{observedMv}>{resolvedVoltageMv}"
    | none => some "voltage_telemetry_missing"

def coverageReason (run : SingleDwell) : Option String :=
  run.qualificationCoverage.bind fun coverage =>
    if coverage.verdict ≠ .pass then
      some (coverage.reason.getD "qualification_coverage_inconclusive")
    else none

def inconclusiveReason (run : SingleDwell) (resolvedVoltageMv : Nat) : Option String :=
  if run.detectedFailure then none
  else run.voltageReason resolvedVoltageMv <|> run.coverageReason

def checksumCount (run : SingleDwell) : Nat :=
  run.qualificationCoverage.elim 0 F2QualificationCoverage.checksumCount

def frames (run : SingleDwell) : Nat :=
  run.renderFrames.getD (run.qualificationCoverage.elim 0 fun coverage =>
    (coverage.phaseMetrics.map F2QualificationPhaseMetric.frameCount).sum)

def failurePhase (run : SingleDwell) : Option String :=
  run.qualificationCoverage.bind F2QualificationCoverage.failurePhase

def phaseStatuses (run : SingleDwell) : List DetectorLabPhaseStatus :=
  run.qualificationCoverage.elim [] fun coverage => coverage.phaseMetrics.map fun phase =>
    { phase := phase.phaseName
      result :=
        match phase.coverageStatus with
        | "pass" => "stable"
        | "fail" => "unstable"
        | other => other
      durationMs := phase.durationMs
      frames := phase.frameCount
      checksumCount := phase.checksumCount }

end SingleDwell

def resultKey : StabilityResult → String
  | .stable => "stable"
  | .silentError => "silent_error"
  | .unstable => "unstable"
  | .crash => "crash"

def StabilityResult.debug : StabilityResult → String
  | .stable => "Stable"
  | .silentError => "SilentError"
  | .unstable => "Unstable"
  | .crash => "Crash"

def SingleDwell.resultKey (run : SingleDwell) (resolvedVoltageMv : Nat) : String :=
  if run.coverageFailed && run.result.isStable then "unstable"
  else if run.detectedFailure then DetectorLab.resultKey run.result
  else if (run.inconclusiveReason resolvedVoltageMv).isSome then "inconclusive"
  else "stable"

/-- How far the handler of the requests has come with a stop or a `ResetGpuTuning`. -/
inductive Request
  | idle
  | stopping (thenReset : Bool)
  | resetting
  | hardwareReset
  | appliedCleared
  | recordSaved (error : Option String)
  | flagCleared
deriving DecidableEq

/-- What the worker and the requests share. `judged` is the dwell that the worker went on to judge,
having seen no cancellation; no code reads it. -/
structure Lab where
  hw : Hardware
  dir : DataDir
  ledger : List CondemnationEvent
  observations : List F2Observation
  manual : ManualPointStatus
  status : DetectorLabStatus
  startedAt : Option Nat
  cancel : Bool
  running : Bool
  rebootRequired : Option String
  journal : List String
  request : Request
  judged : Option SingleDwell

abbrev LabProg := Prog Lab

abbrev LabM := ExceptT String LabProg

/-- How a call of the worker ended. -/
inductive Outcome (α : Type)
  | ok (value : α)
  | err (error : String)
  | panicked (detail : String)

def Outcome.result {α : Type} : Outcome α → Except String α
  | .ok value => .ok value
  | .err error => .error error
  | .panicked detail => .error s!"Detector Lab worker panicked: {detail}"

/-- A call whose effects stay outside of the shared state. -/
def external {α : Type} : LabM α := .mk (.perform fun (r : Outcome α) s => (r.result, s))

def loadCancel : LabProg Bool := .get Lab.cancel

def replaceStatus (status : ManualPointStatus) : LabProg Unit :=
  .modify fun s => { s with manual := status }

def updateManual (update : ManualPointStatus → ManualPointStatus) :
    LabProg Unit :=
  .modify fun s => { s with manual := update s.manual }

def updateStatus (update : DetectorLabStatus → DetectorLabStatus) : LabProg Unit :=
  .modify fun s => { s with status := update s.status }

def appendJournal (event : String) : LabM Unit :=
  .mk (.perform fun (r : Outcome Unit) s =>
    match r.result with
    | .ok () => (.ok (), { s with journal := s.journal ++ [event] })
    | .error e => (.error e, s))

def stockManualStatus (note : String) : ManualPointStatus := { note }

/-- What a failed reset leaves of the card. Its writes are those of stock. -/
structure ResetFault (card : VfCard) where
  left : Hardware → Hardware
  atStock : ∀ hw, card.AtStock hw → card.AtStock (left hw)

/-- The errors of the clock lock and of the VF curve. -/
structure HardwareReset (card : VfCard) where
  clockError : Option String := none
  vfError : Option String := none
  fault : ResetFault card := ⟨id, fun _ h => h⟩

namespace HardwareReset

variable {card : VfCard}

def failed (self : HardwareReset card) : Bool := self.clockError.isSome || self.vfError.isSome

def leaves (self : HardwareReset card) (hw : Hardware) : Hardware :=
  if self.failed then self.fault.left hw else card.released hw

end HardwareReset

def resetHardware (card : VfCard) : LabM Unit :=
  .mk (.perform fun (r : HardwareReset card) s =>
    let clock := r.clockError.getD "ok"
    let vf := r.vfError.getD "ok"
    (if r.failed then .error s!"clock-cap={clock}; VF/global={vf}" else .ok (),
      { s with hw := r.leaves s.hw }))

def clearAppliedProfile : LabProg Unit :=
  .perform fun (r : FileResult) s => ((), { s with dir := clearApplied r s.dir })

def disarm : LabM Unit :=
  .mk (.perform fun (r : FileResult) s =>
    ((r.error.map fun e =>
        s!"GPU reset completed but Safe Loop flag could not be cleared: {e}").elim (.ok ()) .error,
      { s with dir := clearBootFlag r s.dir }))

def resetAndDisarm (card : VfCard) : LabM Unit := do
  resetHardware card
  clearAppliedProfile
  disarm

def pointIntent (targetMhz resolvedVoltageMv : Nat) (offsetMhz : Int) : TuningPoint :=
  .fromAxes [("gpu_freq_mhz", (targetMhz : Int)), ("gpu_vf_bin_mv", (resolvedVoltageMv : Int)),
    ("gpu_offset_mhz", offsetMhz)]

/-- Arms the flag of the point; the timestamp is what the clock says. -/
def arm (targetMhz resolvedVoltageMv : Nat) (offsetMhz : Int) (source : String) : LabM Unit :=
  .mk (.perform fun (r : FileResult × String) s =>
    ((r.1.error.map fun e =>
        s!"Manual point: failed to arm Safe Loop before write: {e}").elim (.ok ()) .error,
      { s with
          dir := armBootFlag ⟨pointIntent targetMhz resolvedVoltageMv offsetMhz, source, r.2⟩ r.1
            s.dir }))

/-- A call of the driver may fail at any write, with anything left on the card. -/
def applyAnchoredUndervolt (card : VfCard) (targetMhz resolvedVoltageMv : Nat) : LabM Unit :=
  .mk (.perform fun (r : Option (String × Hardware)) s =>
    match r with
    | some (e, hw) => (.error e, { s with hw })
    | none =>
      let answer := applyAnchoredUndervoltPoint card targetMhz resolvedVoltageMv s.hw
      (answer.1, { s with hw := answer.2 }))

def applyResolvedPoint (card : VfCard) (targetMhz resolvedVoltageMv : Nat) (offsetMhz : Int)
    (source : String) : LabM Unit := do
  arm targetMhz resolvedVoltageMv offsetMhz source
  applyAnchoredUndervolt card targetMhz resolvedVoltageMv

def finishStopped : LabM Unit := do
  replaceStatus (stockManualStatus "Detector Lab was stopped; the GPU is at stock.")
  appendJournal "session_stopped"
  updateStatus fun current =>
    { current with
      stage := "stopped"
      currentPhase := none
      result := some "stopped"
      note := "Detector Lab stopped and returned the GPU to stock." }

def noteDetectorReset (event : String) : LabProg Unit :=
  .modify fun s => { s with rebootRequired := some event }

/-- What the full recipe reports at stock. -/
structure StressRun where
  result : StabilityResult
  failurePhase : Option String
  inconclusiveReason : Option String

/-- The hook of each segment; a failed append cancels the recipe. Yields the last such error. -/
def runSegments : List String → Nat → Option String → LabProg (Option String)
  | [], _, journalError => pure journalError
  | phase :: rest, index, journalError => do
    updateStatus fun current =>
      { current with currentSegment := some (index + 1), currentPhase := some phase }
    match ← (appendJournal "segment_start").run with
    | .ok () => runSegments rest (index + 1) journalError
    | .error e =>
      Prog.modify fun s : Lab => { s with cancel := true }
      runSegments rest (index + 1) (some e)

def stockControlVerdict (run : StressRun) : LabM Unit :=
  match run.inconclusiveReason with
  | some reason =>
    throw (s!"Full v25 stock control was inconclusive at the environment level: {reason}; " ++
      "candidate was not applied")
  | none =>
    if run.result ≠ .stable then
      let phase := run.failurePhase.getD "unknown phase"
      let result := StabilityResult.debug run.result
      throw (s!"Full v25 stock control failed during {phase} with {result}; " ++
        "candidate was not applied")
    else
      updateStatus fun current =>
        { current with
          stage := "reapplying_point"
          currentSegment := none
          currentPhase := none
          note := "Full v25 stock control passed. Reapplying the verified candidate point." }

/-- `external` first says whether there is a GPU context, then which segments the recipe comes to,
then what it reports. -/
def runStockControlV25 : LabM Unit := do
  updateStatus fun current =>
    { current with
      stage := "validating_stock_recipe"
      currentSegment := none
      currentPhase := none
      note := "Running the complete v25 sequence at stock before testing the candidate." }
  appendJournal "stock_recipe_start"
  (external : LabM Unit)
  let segments ← (external : LabM (List String))
  let journalError ← runSegments segments 0 none
  let run ← (external : LabM StressRun)
  match journalError with
  | some e => throw e
  | none =>
    appendJournal "stock_recipe_result"
    if ← loadCancel then pure () else stockControlVerdict run

/-- The check after the dwell, the last of the worker. -/
def cancelledAfter (run : SingleDwell) : LabProg Bool :=
  if run.cancelled then pure true
  else
    .perform fun (_ : Unit) s =>
      if s.cancel then (true, s) else (false, { s with judged := some run })

def returnToStock (card : VfCard) (run : SingleDwell) : LabM Unit := do
  resetAndDisarm card
  replaceStatus (stockManualStatus (
    if run.detectedFailure then "Detector Lab rejected the point and returned the GPU to stock."
    else "Detector Lab could not prove the selected point was exercised authoritatively and " ++
      "returned the GPU to stock."))

def finishedNote (run : SingleDwell) (resolvedVoltageMv : Nat) : String :=
  if run.detectedFailure then
    "The recipe rejected the point; the GPU was returned to stock without writing blacklist."
  else
    match run.inconclusiveReason resolvedVoltageMv with
    | some reason =>
      "The point was not approved because authoritative coverage was inconclusive " ++
        s!"({reason}); the GPU was returned to stock."
    | none => "No detector error was observed. This diagnostic pass does not qualify a profile."

def keepOrReturn (card : VfCard) (session : DetectorSession) (run : SingleDwell) : LabM Unit :=
  if run.detectedFailure || (run.inconclusiveReason session.resolvedVoltageMv).isSome then
    returnToStock card run
  else
    updateManual fun manual =>
      { manual with
        note := "Detector Lab completed without a detected error. The temporary point remains " ++
          "active for another comparison or Game Trace." }

def judge (card : VfCard) (session : DetectorSession) (run : SingleDwell) : LabM Unit := do
  appendJournal "session_result"
  keepOrReturn card session run
  updateStatus fun current =>
    { current with
      stage := "finished"
      currentPhase := none
      result := some (run.resultKey session.resolvedVoltageMv)
      failurePhase := run.failurePhase
      frames := run.frames
      checksumCount := run.checksumCount
      phaseResults := run.phaseStatuses
      note := finishedNote run session.resolvedVoltageMv }

/-- The clock says when the point was applied. -/
def reportApplied (session : DetectorSession) : LabProg Unit :=
  .perform fun (now : Nat) s => ((), { s with
    manual :=
      { active := true
        targetMhz := some session.targetMhz
        requestedVoltageMv := some session.requestedVoltageMv
        resolvedVoltageMv := some session.resolvedVoltageMv
        appliedAtEpochMs := some now
        verified := true
        note := "Detector Lab owns this temporary point while the recipe is running." } })

def restartTimer : LabProg Unit :=
  .perform fun (now : Nat) s => ((), { s with startedAt := some now })

/-- The recipe on the applied point. -/
def runRecipe (card : VfCard) (session : DetectorSession) : LabM Unit := do
  reportApplied session
  restartTimer
  updateStatus fun current =>
    { current with
      stage := "running"
      note := "Failure-seeking recipe is running on the verified manual point." }
  appendJournal "point_reapplied"
  updateStatus fun current =>
    { current with
      currentSegment := none
      currentPhase := some "Authoritative point validation" }
  let run ← (external : LabM SingleDwell)
  if ← cancelledAfter run then
    resetAndDisarm card
    finishStopped
  else judge card session run

/-- From the end of the calibration on; the curve is read again. -/
def runPoint (card : VfCard) (session : DetectorSession) : LabM Unit := do
  let (resolvedVoltageMv, offsetMhz) ← (external : LabM (Nat × Int))
  if resolvedVoltageMv ≠ session.resolvedVoltageMv then
    throw ("Physical VF bin changed during stock calibration " ++
      s!"({session.resolvedVoltageMv} -> {resolvedVoltageMv} mV)")
  else if ← loadCancel then finishStopped
  else
    applyResolvedPoint card session.targetMhz session.resolvedVoltageMv offsetMhz "detector_lab"
    if ← loadCancel then
      resetAndDisarm card
      finishStopped
    else runRecipe card session

def controlStock (session : DetectorSession) (point : LabM Unit) : LabM Unit :=
  if session.recipe.requiresFullStockControl then do
    runStockControlV25
    if ← loadCancel then finishStopped else point
  else point

def runLab (card : VfCard) (session : DetectorSession) : LabM Unit := do
  resetAndDisarm card
  replaceStatus
    { session.point with
      active := false
      verified := false
      note := "Detector Lab is capturing a stock golden before reapplying this point." }
  appendJournal "stock_calibration_start"
  (external : LabM Unit)
  appendJournal "stock_calibration_complete"
  if ← loadCancel then finishStopped
  else controlStock session (runPoint card session)

/-- The slot after a recovery of the worker: at stock, or active and no longer verified. -/
def recoverStock (card : VfCard) (recovered : String → String) (failed : String) :
    LabProg String := do
  match ← (resetAndDisarm card).run with
  | .ok () =>
    let recoveryNote := "GPU returned to stock"
    replaceStatus (stockManualStatus (recovered recoveryNote))
    pure recoveryNote
  | .error e =>
    updateManual fun manual => { manual with active := true, verified := false, note := failed }
    pure s!"stock recovery failed: {e}"

def environmentErrorNote : String :=
  "Detector Lab error and automatic stock recovery failed. " ++
    "Use Reset GPU tuning before another test."

def finishEnvironmentError (card : VfCard) (error : String) : LabProg Unit := do
  let recoveryNote ← recoverStock card (fun note => s!"Detector Lab error; {note}.")
    environmentErrorNote
  let _ ← (appendJournal "environment_error").run
  updateStatus fun current =>
    { current with
      stage := "environment_error"
      currentPhase := none
      result := some "environment_error"
      note := s!"{error} {recoveryNote}." }

def tdrErrorNote : String :=
  "Driver reset detected and automatic stock recovery failed. " ++
    "Reboot Windows before another GPU operation."

def finishTdrError (card : VfCard) (event : String) : LabProg Unit := do
  let failurePhase ← Prog.get fun s : Lab => s.status.currentPhase
  let recoveryNote ← recoverStock card (fun _ =>
    "Detector Lab observed a driver reset. Reboot Windows before another GPU test.") tdrErrorNote
  let _ ← (appendJournal "tdr_detected").run
  updateStatus fun current =>
    { current with
      stage := "reboot_required"
      failurePhase
      currentPhase := none
      result := some "tdr"
      note := s!"Windows recorded a GPU driver reset at {event}. {recoveryNote}; " ++
        "reboot is required before another test." }

/-- The worker of a session up to its last three stores; the event log answers whether there was a
driver reset. -/
def worker (card : VfCard) (session : DetectorSession) : LabProg Unit := do
  let result ← (runLab card session).run
  match ← Prog.perform fun (event : Option String) (s : Lab) => (event, s) with
  | some event =>
    noteDetectorReset event
    finishTdrError card event
  | none =>
    match result with
    | .ok () => pure ()
    | .error e => finishEnvironmentError card e

end DetectorLab

end Nidavellir

import Nidavellir.Lib.Runs
import Mathlib.Logic.Function.Basic

namespace Nidavellir

open Runs

/-- The background workers, one handle each. `detectorLab` is the dwell on the manual point. -/
inductive GpuOperation
  | gpuValidation
  | realSweep
  | memSweep
  | forgeAll
  | benchmark
  | powerSweep
  | detectorLab
deriving DecidableEq

/-- The requests that start, stop, write or reset something; `other` is any that does not. -/
inductive IpcRequest
  | startGpuValidation
  | startRealSweep
  | startRealSweepFast
  | stopRealSweep
  | startMemSweep
  | stopMemSweep
  | applyGodforge
  | applyBrokkrs
  | applyDeepCalm
  | applyMemPeak
  | resetGpuTuning
  | resetGpuTuningFull
  | startForgeAll
  | stopForgeAll
  | startBenchmark
  | stopBenchmark
  | startPowerSweep
  | startPowerSweepClean
  | startPowerSweepFast
  | startPowerSweepLong
  | stopPowerSweep
  | resumePowerSweep
  | applyPowerGodforge
  | applyPowerBrokkrs
  | applyPowerDeepCalm
  | applyManualDiagnosticPoint
  | resetManualDiagnosticPoint
  | startDetectorLab
  | stopDetectorLab
  | other
deriving DecidableEq

def gpuWriteRequiresIdle : IpcRequest → Bool
  | .startGpuValidation
  | .startRealSweep
  | .startRealSweepFast
  | .startMemSweep
  | .applyGodforge
  | .applyBrokkrs
  | .applyDeepCalm
  | .applyMemPeak
  | .startForgeAll
  | .startBenchmark
  | .startPowerSweep
  | .startPowerSweepClean
  | .startPowerSweepFast
  | .startPowerSweepLong
  | .resumePowerSweep
  | .applyPowerGodforge
  | .applyPowerBrokkrs
  | .applyPowerDeepCalm
  | .applyManualDiagnosticPoint => true
  | _ => false

/-- What the handler of a request does once its checks have passed. -/
inductive RequestEffect
  | starts (op : GpuOperation)
  | stops (op : GpuOperation)
  | applies
  | appliesManualPoint
  | resetsManualPoint
  | emergencyReset
  | reads
deriving DecidableEq

def IpcRequest.effect : IpcRequest → RequestEffect
  | .startGpuValidation => .starts .gpuValidation
  | .startRealSweep | .startRealSweepFast => .starts .realSweep
  | .stopRealSweep => .stops .realSweep
  | .startMemSweep => .starts .memSweep
  | .stopMemSweep => .stops .memSweep
  | .applyGodforge | .applyBrokkrs | .applyDeepCalm | .applyMemPeak
  | .applyPowerGodforge | .applyPowerBrokkrs | .applyPowerDeepCalm => .applies
  | .resetGpuTuning | .resetGpuTuningFull => .emergencyReset
  | .startForgeAll => .starts .forgeAll
  | .stopForgeAll => .stops .forgeAll
  | .startBenchmark => .starts .benchmark
  | .stopBenchmark => .stops .benchmark
  | .startPowerSweep | .startPowerSweepClean | .startPowerSweepFast | .startPowerSweepLong
  | .resumePowerSweep => .starts .powerSweep
  | .stopPowerSweep => .stops .powerSweep
  | .applyManualDiagnosticPoint => .appliesManualPoint
  | .resetManualDiagnosticPoint => .resetsManualPoint
  | .startDetectorLab => .starts .detectorLab
  | .stopDetectorLab => .stops .detectorLab
  | .other => .reads

/-- The shared state of one handle: `published` is what `gpu_operation_running` reads of its
progress. -/
structure OperationHandle where
  running : Bool := false
  stop : Bool := false
  published : Bool := false

/-- A worker's thread. A worker that is `leaving` has published that it no longer runs, but has not
yet given `running` back. -/
inductive OperationWorker
  | ready
  | running (op : GpuOperation)
  | leaving (op : GpuOperation)
  | gone
deriving DecidableEq

/-- The flags of `ManualDiagnosticPointStatus`. -/
structure ManualPoint where
  active : Bool := false
  verified : Bool := false
deriving DecidableEq

/-- The session of the Detector Lab. `reset` says that a request reset or wrote the hardware in the
middle of the dwell. -/
inductive LabStage
  | idle
  | starting
  | calibrating
  | dwelling (reset : Bool)
  | dwelt (reset : Bool)
  | validated (reset : Bool)
  | stopped
deriving DecidableEq

/-- A request between its checks and its effect, with the workers that ran unpublished when the
lease was checked. -/
structure Serving where
  request : IpcRequest
  hidden : Nat → Bool

/-- The state behind the service's one mutex, with the workers that run beside it. `timers` counts
the survival timers of the applies, each of which clears the boot flag once. -/
structure LeaseState where
  handles : GpuOperation → OperationHandle := fun _ => {}
  workers : Nat → OperationWorker := fun _ => .ready
  manual : ManualPoint := {}
  lab : LabStage := .idle
  serving : Option Serving := none
  timers : Nat := 0

inductive RequestOutcome
  | refused
  | failed
  | done
deriving DecidableEq

inductive LeaseAction
  | request (r : IpcRequest)
  | act (outcome : RequestOutcome) (worker : Nat)
  | publish (worker : Nat)
  | unpublish (worker : Nat)
  | release (worker : Nat)
  | labCalibrate
  | labReapply
  | labDwellEnd
  | labStop
  | labResult (stable : Bool)
  | timer
deriving DecidableEq

/-- GPU validation has no stop flag. -/
def GpuOperation.stoppable : GpuOperation → Bool
  | .gpuValidation => false
  | _ => true

/-- This handle publishes in `start`; the other workers publish after their spawn. -/
def GpuOperation.publishesAtStart : GpuOperation → Bool
  | .gpuValidation => true
  | _ => false

def LabStage.reset : LabStage → LabStage
  | .dwelling _ => .dwelling true
  | stage => stage

/-- A session whose worker ends, by an error or a panic as well, returned the GPU to stock unless it
was validated. -/
def LabStage.ended : LabStage → LabStage
  | .validated reset => .validated reset
  | _ => .stopped

namespace LeaseState

/-- The Detector Lab is asked for its atomic flag, every other handle for its progress. -/
def gpuOperationRunning (s : LeaseState) : Bool :=
  (s.handles .gpuValidation).published || (s.handles .realSweep).published ||
  (s.handles .memSweep).published || (s.handles .forgeAll).published ||
  (s.handles .benchmark).published || (s.handles .powerSweep).published ||
  s.manual.active || (s.handles .detectorLab).running

def passes (s : LeaseState) (r : IpcRequest) : Bool :=
  !(gpuWriteRequiresIdle r && s.gpuOperationRunning) &&
  !(r == .resetManualDiagnosticPoint && (s.handles .detectorLab).running)

/-- The start of a handle passes its own check. -/
def startable (s : LeaseState) (op : GpuOperation) : Bool :=
  !(s.handles op).running &&
  (op != .detectorLab || (s.manual.active && s.manual.verified))

def setHandle (s : LeaseState) (op : GpuOperation) (handle : OperationHandle) : LeaseState :=
  { s with handles := Function.update s.handles op handle }

def setWorker (s : LeaseState) (id : Nat) (worker : OperationWorker) : LeaseState :=
  { s with workers := Function.update s.workers id worker }

/-- The worker runs, and its handle does not say so. -/
def hides (s : LeaseState) (id : Nat) : Bool :=
  match s.workers id with
  | .running op => !(if op = .detectorLab then (s.handles op).running else (s.handles op).published)
  | _ => false

def stopAll (s : LeaseState) : LeaseState :=
  { s with handles := fun op =>
      if op.stoppable then { s.handles op with stop := true } else s.handles op }

/-- The checks of a request, under the service's mutex. The emergency resets stop every operation
first. -/
def request (s : LeaseState) (r : IpcRequest) : Option LeaseState :=
  if s.serving.isSome then none
  else if s.passes r then
    let checked := { s with serving := some ⟨r, s.hides⟩ }
    some (if r.effect = .emergencyReset then checked.stopAll else checked)
  else some s

def started (s : LeaseState) (op : GpuOperation) (id : Nat) : LeaseState :=
  { (s.setHandle op ⟨true, false, op.publishesAtStart⟩).setWorker id (.running op) with
    lab := if op = .detectorLab then .starting else s.lab }

/-- `recover_after_reset` and `forget_after_full_reset` make the Forge's handle idle. -/
def recovered (s : LeaseState) : LeaseState :=
  s.setHandle .powerSweep ⟨false, true, false⟩

def effect (s : LeaseState) (e : RequestEffect) (outcome : RequestOutcome) (id : Nat) :
    Option LeaseState :=
  match e, outcome with
  | .reads, _ => some s
  | .stops op, _ => some (s.setHandle op { s.handles op with stop := true })
  | _, .refused => some s
  | .starts op, _ =>
    if s.startable op then
      if s.workers id = .ready then some (s.started op id) else none
    else some s
  | .applies, .failed => some { s with lab := s.lab.reset }
  | .applies, .done => some { s with lab := s.lab.reset, timers := s.timers + 1 }
  | .appliesManualPoint, .failed => some { s with lab := s.lab.reset }
  | .appliesManualPoint, .done => some { s with lab := s.lab.reset, manual := ⟨true, true⟩ }
  | .resetsManualPoint, .failed => some { s with lab := s.lab.reset }
  | .resetsManualPoint, .done => some { s with lab := s.lab.reset, manual := {} }
  | .emergencyReset, .failed => some { s with lab := s.lab.reset }
  | .emergencyReset, .done => some { s.recovered with lab := s.lab.reset, manual := {} }

def step (s : LeaseState) : LeaseAction → Option LeaseState
  | .request r => s.request r
  | .act outcome id =>
    match s.serving with
    | some serving => { s with serving := none }.effect serving.request.effect outcome id
    | none => none
  | .publish id =>
    match s.workers id with
    | .running op =>
      if op = .detectorLab then none
      else some (s.setHandle op { s.handles op with published := true })
    | _ => none
  | .unpublish id =>
    match s.workers id with
    | .running op =>
      if op = .detectorLab then
        some { (s.setHandle op { s.handles op with running := false }).setWorker id .gone with
          lab := s.lab.ended }
      else
        some ((s.setHandle op { s.handles op with published := false }).setWorker id (.leaving op))
    | _ => none
  | .release id =>
    match s.workers id with
    | .leaving op =>
      some ((s.setHandle op { s.handles op with running := false }).setWorker id .gone)
    | _ => none
  | .labCalibrate =>
    if s.lab = .starting then
      some { s with lab := .calibrating, manual := {} }
    else none
  | .labReapply =>
    if s.lab = .calibrating then some { s with lab := .dwelling false, manual := ⟨true, true⟩ }
    else none
  | .labDwellEnd =>
    match s.lab with
    | .dwelling reset =>
      if (s.handles .detectorLab).stop then some { s with lab := .stopped, manual := {} }
      else some { s with lab := .dwelt reset }
    | _ => none
  | .labStop =>
    match s.lab with
    | .starting | .calibrating => some { s with lab := .stopped, manual := {} }
    | _ => none
  | .labResult stable =>
    match s.lab with
    | .dwelt reset =>
      if stable then some { s with lab := .validated reset }
      else some { s with lab := .stopped, manual := {} }
    | _ => none
  | .timer => if 0 < s.timers then some { s with timers := s.timers - 1 } else none

end LeaseState

def leaseMachine : Machine LeaseState LeaseAction := Machine.ofStep {} LeaseState.step

end Nidavellir

import Nidavellir.ForgeProgress
import Nidavellir.GpuLease
import Nidavellir.GpuSweep
import Nidavellir.HardFailureMemory

namespace Nidavellir

open GpuApplyOps SafeLoopStore Trace

/-- The requests that would put a setting other than stock on the card. -/
inductive TuningRequest
  | startRealSweep
  | startRealSweepFast
  | startMemSweep
  | applyGodforge
  | applyBrokkrs
  | applyDeepCalm
  | applyMemPeak
  | startForgeAll
  | startBenchmark
  | startPowerSweep
  | startPowerSweepClean
  | startPowerSweepFast
  | startPowerSweepLong
  | resumePowerSweep
  | applyPowerGodforge
  | applyPowerBrokkrs
  | applyPowerDeepCalm
  | applyManualDiagnosticPoint (targetMhz voltageMv : Nat)
  | startDetectorLab (recipe : String) (durationS : Nat)
deriving DecidableEq

def TuningRequest.ipc : TuningRequest → IpcRequest
  | startRealSweep => .startRealSweep
  | startRealSweepFast => .startRealSweepFast
  | startMemSweep => .startMemSweep
  | applyGodforge => .applyGodforge
  | applyBrokkrs => .applyBrokkrs
  | applyDeepCalm => .applyDeepCalm
  | applyMemPeak => .applyMemPeak
  | startForgeAll => .startForgeAll
  | startBenchmark => .startBenchmark
  | startPowerSweep => .startPowerSweep
  | startPowerSweepClean => .startPowerSweepClean
  | startPowerSweepFast => .startPowerSweepFast
  | startPowerSweepLong => .startPowerSweepLong
  | resumePowerSweep => .resumePowerSweep
  | applyPowerGodforge => .applyPowerGodforge
  | applyPowerBrokkrs => .applyPowerBrokkrs
  | applyPowerDeepCalm => .applyPowerDeepCalm
  | applyManualDiagnosticPoint _ _ => .applyManualDiagnosticPoint
  | startDetectorLab _ _ => .startDetectorLab

def gpuRebootGuardApplies (request : IpcRequest) : Bool :=
  gpuWriteRequiresIdle request || request == .startDetectorLab

/-- A success carries the message of an apply; the progress of a started worker is left out. -/
inductive IpcResponse
  | failure (error : String)
  | success (message : String)
deriving DecidableEq

structure ManualDiagnosticPointStatus where
  active : Bool := false
  targetMhz : Option Nat := none
  requestedVoltageMv : Option Nat := none
  resolvedVoltageMv : Option Nat := none
  verified : Bool := false

/-- What the handlers read before they touch anything: the data directory, the handles of the
workers and their results, the card's condemned pairs. `archived` and `savedStripped` say how the
archive of a clean run ended. -/
structure ServiceView where
  dir : DataDir := {}
  operationRunning : Bool := false
  rebootRequired : Option String := none
  handleRunning : GpuOperation → Bool := fun _ => false
  profiles : Option GpuProfileSet := none
  peakOffsetMhz : Int := 0
  forge : PowerSweepProgress PowerSweepPoint := .idle
  isUndervolt : Bool := false
  condemned : CondemnedPairs := {}
  compatibility : Except String ForgeResumeCompatibility := .error ""
  archived : Bool := true
  savedStripped : FileResult := .done
  manual : ManualDiagnosticPointStatus := {}
  resolve : Nat → Nat → Except String (Nat × Int) := fun _ _ => .error ""
  journal : Except String Unit := .ok ()

/-- What handlers and workers use beside an apply. `goesOn` is the rest of a worker, behind its
first write. -/
class TuningOps (O : Type*) extends GpuApplyOps O where
  gpuCtxNew : O → Except String Unit × O
  resetCoreClockLock : O → Except String Unit × O
  clearApplied : O → Unit × O
  clearBootFlag : O → Except String Unit × O
  goesOn : GpuOperation → O → Unit × O

open TuningOps

def undervoltApplyParams (p : PowerSweepPoint) : Nat × Nat :=
  (p.target, p.vfTableVoltageMv.getD p.voltageMv)

/-- `load_applied().unwrap_or_default()`. -/
def loadAppliedOrDefault (dir : DataDir) : AppliedProfile :=
  (loadApplied dir).getD ⟨"", none, none, none, none⟩

def minDurationS : Nat := 15

def maxDurationS : Nat := 600

def detectorRecipeKnown (recipe : String) : Bool :=
  recipe ∈ ["control_v25", "control_v24", "control_v23", "dense_v14"]

section Handlers

variable {O : Type*} [TuningOps O] (view : ServiceView)

def applied (done : String) : Except String Unit × O → IpcResponse × O
  | (.ok (), ops) => (.success done, ops)
  | (.error e, ops) => (.success s!"Apply failed: {e}", ops)

/-- The F1 applies of the core sweep. -/
def applySweepProfile (profile : Option GpuProfile) (ops : O) : IpcResponse × O :=
  match profile with
  | some chosen =>
    applied s!"Applied {chosen.name} ({chosen.point.freqMhz} MHz @ {chosen.point.voltageMv} mV)"
      (applyAndPersist chosen.name (some chosen.point) (loadAppliedOrDefault view.dir).memOffsetMhz
        ops)
  | none => (.failure "Run the core sweep first", ops)

def applyMemPeak (ops : O) : IpcResponse × O :=
  if view.peakOffsetMhz ≤ 0 then (.failure "Run the memory sweep first", ops)
  else
    let ap := loadAppliedOrDefault view.dir
    let label := if ap.label.isEmpty then "Custom" else ap.label
    applied s!"Applied memory +{view.peakOffsetMhz} MHz"
      (applyAndPersist label ap.core (some view.peakOffsetMhz) ops)

def applyUndervoltProfile (pt : Option PowerSweepPoint) (label : String) (ops : O) :
    IpcResponse × O :=
  match pt with
  | none => (.failure "Run the forge first (no point for this profile)", ops)
  | some p =>
    if !(p.powerP99W.any fun power => decide (0 < power)) then
      (.failure ("F2 profile has no confirmed sustained-p99 power — run Forge again under " ++
        "discovery v4"), ops)
    else if !p.approved then
      (.failure ("F2 profile was not reconciled and qualified under the current v6 contract — " ++
        "run Forge again"), ops)
    else
      let (targetMhz, anchorMv) := undervoltApplyParams p
      applied s!"Applied {label}: {targetMhz} MHz @ {anchorMv} mV VF bin (undervolt)"
        (applyAndPersistUndervolt label targetMhz anchorMv
          (loadAppliedOrDefault view.dir).memOffsetMhz ops)

def applyPowerProfile (pt : Option PowerSweepPoint) (label : String) (ops : O) : IpcResponse × O :=
  match pt with
  | none => (.failure "Run the power sweep first (no point for this profile)", ops)
  | some p =>
    applied s!"Applied {label}: {p.clockMhz} MHz @ {p.voltageMv} mV"
      (applyAndPersist label (some ⟨p.clockMhz, p.voltageMv⟩)
        (loadAppliedOrDefault view.dir).memOffsetMhz ops)

def applyForgeProfile (pt : Option PowerSweepPoint) (label : String) (ops : O) : IpcResponse × O :=
  let record := loadRecord view.dir
  if record.pendingForgeIncident.isSome then
    (.failure "Forge recovery requires explicit operator acknowledgement before Apply", ops)
  else if view.isUndervolt then
    if !view.forge.profilesQualified then
      (.failure "F2 profiles are provisional — run Standard or Long qualification before Apply",
        ops)
    else
      match pt with
      | some point =>
        let (targetMhz, anchorMv) := undervoltApplyParams point
        if fieldPairBlacklisted record targetMhz anchorMv ||
            view.condemned.refuses targetMhz anchorMv then
          (.failure ("F2 profile is condemned by durable real-use evidence on this GPU — run " ++
            "Forge again"), ops)
        else applyUndervoltProfile view (some point) label ops
      | none => applyUndervoltProfile view none label ops
  else applyPowerProfile view pt label ops

def resetHardware (ops : O) : Except String Unit × O :=
  let (clock, ops) := resetCoreClockLock ops
  let (vf, ops) := resetAll ops
  match clock, vf with
  | .ok _, .ok _ => (.ok (), ops)
  | .error c, .ok _ => (.error s!"clock-cap={c}; VF/global=ok", ops)
  | .ok _, .error v => (.error s!"clock-cap=ok; VF/global={v}", ops)
  | .error c, .error v => (.error s!"clock-cap={c}; VF/global={v}", ops)

/-- `reset_and_disarm` over the card; `resetAndDisarm` is what it does to the files. -/
def resetHardwareAndDisarm (ops : O) : Except String Unit × O :=
  match resetHardware ops with
  | (.error e, ops) => (.error e, ops)
  | (.ok (), ops) =>
    let ((), ops) := TuningOps.clearApplied ops
    match TuningOps.clearBootFlag ops with
    | (.ok (), ops) => (.ok (), ops)
    | (.error e, ops) =>
      (.error s!"GPU reset completed but Safe Loop flag could not be cleared: {e}", ops)

def applyResolvedPoint (targetMhz resolvedVoltageMv : Nat) (offsetMhz : Int) (source : String)
    (ops : O) : Except String Unit × O :=
  let intent : TuningPoint := .fromAxes [("gpu_freq_mhz", (targetMhz : Int)),
    ("gpu_vf_bin_mv", (resolvedVoltageMv : Int)), ("gpu_offset_mhz", offsetMhz)]
  match GpuApplyOps.armBootFlag intent source ops with
  | (.error e, ops) => (.error s!"Manual point: failed to arm Safe Loop before write: {e}", ops)
  | (.ok (), ops) => applyAnchoredUndervolt targetMhz resolvedVoltageMv ops

/-- The checks of a manual point, and the bin and offset that it resolves to. -/
def manualPointAdmits (targetMhz voltageMv : Nat) : Except String (Nat × Int) :=
  if view.manual.active then
    .error "A manual diagnostic point is already active; return to stock first"
  else if !(decide (300 ≤ targetMhz) && decide (targetMhz ≤ 4000)) then
    .error "Target clock must be between 300 and 4000 MHz"
  else if !(decide (500 ≤ voltageMv) && decide (voltageMv ≤ 1250)) then
    .error "Requested voltage must be between 500 and 1250 mV"
  else if (loadRecord view.dir).safeMode then
    .error "Safe Mode is active; recover the GPU before applying a manual point"
  else if isBootFlagArmed view.dir then
    .error "Safe Loop recovery is armed; return the GPU to stock before applying a manual point"
  else view.resolve targetMhz voltageMv

def applyManualDiagnosticPoint (targetMhz voltageMv : Nat) (ops : O) : IpcResponse × O :=
  match manualPointAdmits view targetMhz voltageMv with
  | .error e => (.failure e, ops)
  | .ok (resolvedVoltageMv, offsetMhz) =>
    match resetHardware ops with
    | (.error e, ops) => (.failure e, ops)
    | (.ok (), ops) =>
      let ((), ops) := TuningOps.clearApplied ops
      match applyResolvedPoint targetMhz resolvedVoltageMv offsetMhz "manual_diagnostic_point"
        ops with
      | (.ok (), ops) => (.success "", ops)
      | (.error error, ops) =>
        match resetHardwareAndDisarm ops with
        | (.ok (), ops) =>
          (.failure s!"Manual point apply failed ({error}); GPU returned to stock", ops)
        | (.error resetError, ops) =>
          (.failure (s!"Manual point apply failed ({error}); stock recovery also failed " ++
            s!"({resetError})"), ops)

/-- The checks of `DetectorLabHandle::start`. -/
def detectorLabAdmits (recipe : String) (durationS : Nat) : Except String Unit :=
  if !detectorRecipeKnown recipe then
    .error "Detector Lab recipe must be control_v25 or dense_v14"
  else
    match view.rebootRequired with
    | some event =>
      .error
        s!"GPU driver reset detected at {event}. Reboot Windows before another Detector Lab run"
    | none =>
      if !(decide (minDurationS ≤ durationS) && decide (durationS ≤ maxDurationS)) then
        .error s!"Detector Lab duration must be between {minDurationS} and {maxDurationS} seconds"
      else if !(view.manual.targetMhz.isSome && view.manual.active && view.manual.verified) then
        .error "Apply and verify a manual diagnostic point before starting Detector Lab"
      else if view.manual.requestedVoltageMv.isNone then
        .error "The active manual point has no requested voltage"
      else if view.manual.resolvedVoltageMv.isNone then
        .error "The active manual point has no resolved physical VF bin"
      else if view.handleRunning .detectorLab then .error "Detector Lab is already running"
      else view.journal

/-- The worker of the Detector Lab, behind the reset to stock. -/
def runLab (ops : O) : O :=
  match resetHardwareAndDisarm ops with
  | (.error _, ops) => (goesOn .detectorLab ops).2
  | (.ok (), ops) => (goesOn .detectorLab ops).2

/-- The real sweep and the memory sweep begin alike. -/
def runSweep (op : GpuOperation) (ops : O) : O :=
  match gpuCtxNew ops with
  | (.error _, ops) => ops
  | (.ok (), ops) => (goesOn op (resetAll ops).2).2

/-- Without a context the pipeline ends with a reset. -/
def runForgeAll (ops : O) : O :=
  match gpuCtxNew ops with
  | (.error _, ops) => (resetAll ops).2
  | (.ok (), ops) => (goesOn .forgeAll (resetAll ops).2).2

def runBenchmark (ops : O) : O :=
  match loadApplied view.dir with
  | none => ops
  | some _ => (goesOn .benchmark (resetAll (resetCoreClockLock ops).2).2).2

/-- The Forge's worker up to its first reset: a clean run archives first, and the record is read
behind that. -/
def measureMulticlockUndervoltForge (clean : Bool) (ops : O) : O :=
  let dir := if clean then archivePreCleanRun view.archived view.savedStripped view.dir
    else view.dir
  if (loadRecord dir).safeMode then ops
  else if isBootFlagArmed dir then ops
  else
    match resetHardware ops with
    | (.error _, ops) => ops
    | (.ok (), ops) =>
      match TuningOps.clearBootFlag ops with
      | (.error _, ops) => ops
      | (.ok (), ops) => (goesOn .powerSweep ops).2

/-- `start` of a handle: whether it starts, and then its worker. -/
def startHandle (op : GpuOperation) (busy : String) (worker : O → O) (ops : O) :
    IpcResponse × O :=
  if view.handleRunning op then (.failure busy, ops) else (.success "", worker ops)

def powerSweepStartFailure : String :=
  if (loadRecord view.dir).pendingForgeIncident.isSome then
    "Forge recovery requires explicit operator acknowledgement before continuation"
  else "Power sweep already running"

/-- `start_with_intent`: whether it starts, and then its worker. -/
def startWithIntent (clean : Bool) (ops : O) : Bool × O :=
  if (loadRecord view.dir).pendingForgeIncident.isSome then (false, ops)
  else if view.handleRunning .powerSweep then (false, ops)
  else (true, measureMulticlockUndervoltForge view clean ops)

def startPowerSweep (clean : Bool) (ops : O) : IpcResponse × O :=
  match startWithIntent view clean ops with
  | (true, ops) => (.success "", ops)
  | (false, ops) => (.failure (powerSweepStartFailure view), ops)

/-- A resumed clean run does not archive again. -/
def resumePowerSweep (ops : O) : IpcResponse × O :=
  let refused (e : String) (ops : O) : IpcResponse × O :=
    (.failure s!"Forge resume refused: {e}", ops)
  if (loadRecord view.dir).pendingForgeIncident.isSome then
    refused "incidente Forge pendente exige reconhecimento explícito antes da retomada" ops
  else
    match view.compatibility with
    | .error e => refused e ops
    | .ok current =>
      match validateResumeCheckpoint view.forge current with
      | .error e => refused e ops
      | .ok _ =>
        match startWithIntent view false ops with
        | (true, ops) => (.success "", ops)
        | (false, ops) => refused "Forge já está em execução" ops

def startDetectorLab (recipe : String) (durationS : Nat) (ops : O) : IpcResponse × O :=
  match detectorLabAdmits view recipe durationS with
  | .error e => (.failure e, ops)
  | .ok () => (.success "", runLab ops)

/-- The arm of `handle_request` for a tuning request, behind the guards that all share. -/
def serveRequest : TuningRequest → O → IpcResponse × O
  | .startRealSweep | .startRealSweepFast =>
    startHandle view .realSweep "Real sweep already running" (runSweep .realSweep)
  | .startMemSweep =>
    startHandle view .memSweep "Memory sweep already running" (runSweep .memSweep)
  | .applyGodforge => applySweepProfile view (view.profiles.map (·.godforge))
  | .applyBrokkrs => applySweepProfile view (view.profiles.map (·.brokkrsBest))
  | .applyDeepCalm => applySweepProfile view (view.profiles.map (·.deepCalm))
  | .applyMemPeak => applyMemPeak view
  | .startForgeAll => startHandle view .forgeAll "Forge-all already running" runForgeAll
  | .startBenchmark => startHandle view .benchmark "Benchmark already running" (runBenchmark view)
  | .startPowerSweep | .startPowerSweepFast | .startPowerSweepLong => startPowerSweep view false
  | .startPowerSweepClean => startPowerSweep view true
  | .resumePowerSweep => resumePowerSweep view
  | .applyPowerGodforge => applyForgeProfile view view.forge.godforge "Godforge"
  | .applyPowerBrokkrs => applyForgeProfile view view.forge.brokkrs "Brokkr's Best"
  | .applyPowerDeepCalm => applyForgeProfile view view.forge.deepCalm "Deep Calm"
  | .applyManualDiagnosticPoint targetMhz voltageMv =>
    applyManualDiagnosticPoint view targetMhz voltageMv
  | .startDetectorLab recipe durationS => startDetectorLab view recipe durationS

/-- The guards that the tuning requests share: the service-wide lease, and a driver reset of this
Windows boot. -/
def sharedRefusal (request : TuningRequest) : Option String :=
  if gpuWriteRequiresIdle request.ipc && view.operationRunning then
    some ("Another GPU operation owns the service-wide tuning lease; stop it before starting or " ++
      "applying another operation")
  else if gpuRebootGuardApplies request.ipc then
    view.rebootRequired.map fun event =>
      s!"GPU driver reset detected at {event}. Reboot Windows before another GPU test, Forge " ++
        "run or profile apply"
  else none

def handleRequest (request : TuningRequest) (ops : O) : IpcResponse × O :=
  match sharedRefusal view request with
  | some error => (.failure error, ops)
  | none => serveRequest view request ops

end Handlers

end Nidavellir

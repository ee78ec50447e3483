import Nidavellir.GpuApply
import Nidavellir.SafeLoop
import Nidavellir.StoredFile

namespace Nidavellir

open Trace

/-- The files the startup reads and writes. -/
structure DataDir where
  bootFlag : StoredFile BootFlag := .absent
  record : StoredFile SafeLoopRecord := .absent
  cleanShutdown : StoredFile Unit := .absent
  applied : StoredFile AppliedProfile := .absent
deriving DecidableEq

namespace SafeLoopStore

def armBootFlag (flag : BootFlag) (result : FileResult) (dir : DataDir) : DataDir :=
  { dir with bootFlag := result.write flag dir.bootFlag }

def readBootFlag (dir : DataDir) : Option BootFlag := dir.bootFlag.read

def isBootFlagArmed (dir : DataDir) : Bool := dir.bootFlag.present

def clearBootFlag (result : FileResult) (dir : DataDir) : DataDir :=
  { dir with bootFlag := result.remove dir.bootFlag }

/-- The default record where there is none to read. -/
def loadRecord (dir : DataDir) : SafeLoopRecord := dir.record.read.getD {}

def saveRecord (record : SafeLoopRecord) (result : FileResult) (dir : DataDir) : DataDir :=
  { dir with record := result.write record dir.record }

def writeCleanShutdown (result : FileResult) (dir : DataDir) : DataDir :=
  { dir with cleanShutdown := result.write () dir.cleanShutdown }

def isCleanShutdownPresent (dir : DataDir) : Bool := dir.cleanShutdown.present

def clearCleanShutdown (result : FileResult) (dir : DataDir) : DataDir :=
  { dir with cleanShutdown := result.remove dir.cleanShutdown }

end SafeLoopStore

open SafeLoopStore

def loadApplied (dir : DataDir) : Option AppliedProfile := dir.applied.read

def saveApplied (profile : AppliedProfile) (result : FileResult) (dir : DataDir) : DataDir :=
  { dir with applied := result.write profile dir.applied }

def clearApplied (result : FileResult) (dir : DataDir) : DataDir :=
  { dir with applied := result.remove dir.applied }

def retainBootFlagUntilReapply : RecoveryAction → Bool
  | .blacklistAndRecede .. | .enterSafeMode _ => true
  | _ => false

/-- How the file operations of one startup recovery ended. -/
structure RecoveryResults where
  clearCleanShutdown : FileResult := .done
  disarm : FileResult := .done
  clearBootFlag : FileResult := .done
  saveRecord : FileResult := .done

/-- The recovered record, and the directory it leaves; `bugcheck` is what the event log says, read
only for an armed flag. -/
def runStartupRecovery (bugcheck : CrashClass) (results : RecoveryResults) (dir : DataDir) :
    SafeLoopRecord × DataDir :=
  let record := loadRecord dir
  let bootFlag := readBootFlag dir
  let cleanShutdown := isCleanShutdownPresent dir
  let dir := clearCleanShutdown results.clearCleanShutdown dir
  let interrupted := bootFlag.isSome && cleanShutdown
  let dir := if interrupted then clearBootFlag results.disarm dir else dir
  let bootFlag := if interrupted then none else bootFlag
  let bugcheck := if bootFlag.isSome then bugcheck else .unknown
  let action := decideRecovery bootFlag bugcheck record
  let record := (applyRecovery record action).1
  let dir :=
    if retainBootFlagUntilReapply action then dir
    else clearBootFlag results.clearBootFlag dir
  (record, saveRecord record results.saveRecord dir)

/-- The guards of the re-apply at service start: the profile it goes on to apply, and the
directory. `rebootRequired` is the driver reset of this Windows boot. -/
def reapplyOnBoot (rebootRequired : Option String) (disarm : FileResult) (dir : DataDir) :
    Option AppliedProfile × DataDir :=
  if rebootRequired.isSome then (none, dir)
  else if isBootFlagArmed dir then (none, clearBootFlag disarm dir)
  else
    let record := loadRecord dir
    if record.safeMode then (none, dir)
    else if record.pendingForgeIncident.isSome then (none, dir)
    else (loadApplied dir, dir)

section Apply

variable {O : Type*} [GpuApplyOps O]

/-- The apply of a persisted profile, by the route it was saved for. -/
def reapply (ap : AppliedProfile) (ops : O) : Except String Unit × O :=
  match ap.undervolt with
  | some uv => applyAndPersistUndervolt ap.label uv.targetMhz uv.anchorMv ap.memOffsetMhz ops
  | none => applyAndPersist ap.label ap.core ap.memOffsetMhz ops

end Apply

/-- The flag that the apply of a profile arms. -/
def AppliedProfile.bootFlag (profile : AppliedProfile) (timestamp : String) : BootFlag :=
  match profile.undervolt with
  | some uv =>
    ⟨undervoltIntent uv.targetMhz uv.anchorMv profile.memOffsetMhz, "gpu_apply_undervolt",
      timestamp⟩
  | none => ⟨applyIntent profile.core profile.memOffsetMhz, "gpu_apply", timestamp⟩

/-- How the file operations of a reset ended. -/
structure ResetResults where
  applied : FileResult := .done
  record : FileResult := .done
  bootFlag : FileResult := .done

/-- Resets the GPU to stock and forgets the persisted profile; the errors are those of the clock
lock and of the VF curve. -/
def reset (clockError gpuError : Option String) (results : ResetResults) (dir : DataDir) :
    Except String Unit × DataDir :=
  if clockError.isSome || gpuError.isSome then
    let clock := clockError.getD "ok"
    let gpu := gpuError.getD "ok"
    (.error s!"GPU reset incomplete: clock-cap={clock}; VF/global={gpu}", dir)
  else
    let dir := clearApplied results.applied dir
    let dir := saveRecord (loadRecord dir).clearRecoveryLatch results.record dir
    let dir := clearBootFlag results.bootFlag dir
    let recordErr := results.record.error.map fun e =>
      s!"GPU reset completed but Safe Loop record could not be cleared: {e}"
    let flagErr := results.bootFlag.error.map fun e =>
      s!"GPU reset completed but Safe Loop flag could not be cleared: {e}"
    ((recordErr <|> flagErr).elim (.ok ()) .error, dir)

/-- The reset of a manual point, which a graceful stop of the service makes too. -/
def resetAndDisarm (clockError vfError : Option String) (applied bootFlag : FileResult)
    (dir : DataDir) : Except String Unit × DataDir :=
  if clockError.isSome || vfError.isSome then
    let clock := clockError.getD "ok"
    let vf := vfError.getD "ok"
    (.error s!"clock-cap={clock}; VF/global={vf}", dir)
  else
    let flagErr := bootFlag.error.map fun e =>
      s!"GPU reset completed but Safe Loop flag could not be cleared: {e}"
    (flagErr.elim (.ok ()) .error, clearBootFlag bootFlag (clearApplied applied dir))

def persistFieldFailure (targetMhz failedMv : Nat) (result : FileResult) (dir : DataDir) :
    DataDir :=
  let intent : TuningPoint :=
    .fromAxes [("gpu_freq_mhz", (targetMhz : Int)), ("gpu_vf_bin_mv", (failedMv : Int))]
  let region := BlacklistRegion.around intent defaultBlacklistRadius
  let record := loadRecord dir
  if record.blacklist.contains region then dir
  else saveRecord { record with blacklist := record.blacklist ++ [region] } result dir

/-- The boot reconciliation: `crashSeen` says that the event log holds a driver reset newer than the
baseline, or a bugcheck of the applied session. -/
def startupReconcile (crashSeen : Bool) (record applied : FileResult) (dir : DataDir) :
    Bool × DataDir :=
  match (loadApplied dir).bind (·.undervolt) with
  | none => (false, dir)
  | some uv =>
    if crashSeen then
      (true, clearApplied applied (persistFieldFailure uv.targetMhz uv.anchorMv record dir))
    else (false, dir)

end Nidavellir

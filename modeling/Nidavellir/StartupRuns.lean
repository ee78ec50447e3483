import Nidavellir.StartupRecovery
import Nidavellir.SafeLoopRuns

namespace Nidavellir

open Runs SafeLoopStore

/-- One arming of the boot flag, with the pair whose apply armed it. -/
structure Arm where
  serial : Nat
  pair : Option UndervoltApply
deriving DecidableEq

/-- A recovery that took the flag of `arm` for a crash and saved the record. -/
structure Accounting where
  arm : Arm
  flag : BootFlag
  bugcheck : CrashClass
  before : SafeLoopRecord
  after : SafeLoopRecord

/-- What happened to the boot flag: how often it was armed, who armed it last, whether a recovery
retained it and no step has replaced or removed it since, which arms a crash left behind, and the
accountings. -/
structure FlagHistory where
  arms : Nat := 0
  owner : Option Arm := none
  retained : Bool := false
  left : List Arm := []
  accountings : List Accounting := []

inductive StartupEvent
  | apply (operator : Bool) (profile : AppliedProfile) (timestamp : String) (arm : FileResult)
  | persist (operator : Bool) (profile : AppliedProfile) (result : FileResult)
  | arm (flag : BootFlag) (result : FileResult)
  | clear (result : FileResult)
  | forget (result : FileResult)
  | reset (operator : Bool) (clockError gpuError : Option String) (results : ResetResults)
  | disarm (clockError vfError : Option String) (applied bootFlag : FileResult)
  | stop (marker : FileResult)
  | update (call : SafeLoopCall) (result : FileResult)
  | crash
  | recovery (bugcheck : CrashClass) (results : RecoveryResults)
  | reconcile (crashSeen : Bool) (record applied : FileResult)
  | reapply (rebootRequired : Option String) (disarm : FileResult) (timestamp : String)
      (arm : FileResult)

/-- The data directory over boots. `down` lasts from a crash to the next recovery, `applying` are
the applies that may still persist their profile (and whether the operator asked for them), and
`crashedPairs` the pairs whose crash was accounted and that the operator has neither applied since
nor reset. -/
structure StartupState where
  dir : DataDir
  down : Bool := false
  applying : List (Bool × Option UndervoltApply) := []
  history : FlagHistory := {}
  crashedPairs : List UndervoltApply := []

/-- The step removes the flag that a recovery retained: a clear of it, a reset, or the re-apply of a
start without a pending driver reset. -/
def StartupEvent.removesFlag : StartupEvent → Bool
  | .clear result => result.isDone
  | .reset _ clockError gpuError results =>
    clockError.isNone && gpuError.isNone && results.bootFlag.isDone
  | .disarm clockError vfError _ bootFlag =>
    clockError.isNone && vfError.isNone && bootFlag.isDone
  | .reapply rebootRequired disarmed _ _ => rebootRequired.isNone && disarmed.isDone
  | _ => false

/-- Neither a boot nor a release of the latch. -/
def SafeLoopCall.keepsLatch : SafeLoopCall → Bool
  | .boot _ _ | .clearRecoveryLatch => false
  | _ => true

def FlagHistory.arm (self : FlagHistory) (pair : Option UndervoltApply) : FlagHistory :=
  { self with
    arms := self.arms + 1
    owner := some ⟨self.arms, pair⟩
    retained := false }

namespace StartupState

def armed (s : StartupState) (pair : Option UndervoltApply) (flag : BootFlag)
    (result : FileResult) : StartupState :=
  { s with
    dir := armBootFlag flag result s.dir
    history := if result.isDone then s.history.arm pair else s.history }

/-- The first step of an apply. -/
def applied (s : StartupState) (operator : Bool) (profile : AppliedProfile)
    (timestamp : String) (result : FileResult) : StartupState :=
  { s.armed profile.undervolt (profile.bootFlag timestamp) result with
    applying :=
      if result.isDone then (operator, profile.undervolt) :: s.applying else s.applying }

/-- What an apply saves once its writes went through. -/
def persisted (s : StartupState) (operator : Bool) (profile : AppliedProfile)
    (result : FileResult) : StartupState :=
  { s with
    dir := saveApplied profile result s.dir
    crashedPairs :=
      if operator then s.crashedPairs.filter (fun pair => profile.undervolt ≠ some pair)
      else s.crashedPairs }

def wasReset (s : StartupState) (operator : Bool) (clockError gpuError : Option String)
    (results : ResetResults) : StartupState :=
  let outcome := reset clockError gpuError results s.dir
  { s with
    dir := outcome.2
    crashedPairs := if operator && outcome.1.isOk then [] else s.crashedPairs }

def afterCrash (s : StartupState) : StartupState :=
  { s with
    down := true
    applying := []
    history :=
      { s.history with
        left :=
          if (readBootFlag s.dir).isSome then s.history.owner.toList ++ s.history.left
          else s.history.left } }

def recovered (s : StartupState) (bugcheck : CrashClass) (results : RecoveryResults) :
    StartupState :=
  let outcome := runStartupRecovery bugcheck results s.dir
  match crashFlag s.dir, s.history.owner with
  | some flag, some arm =>
    if results.saveRecord.isDone then
      { s with
        dir := outcome.2
        down := false
        history :=
          { s.history with
            retained := true
            accountings :=
              s.history.accountings ++ [⟨arm, flag, bugcheck, loadRecord s.dir, outcome.1⟩] }
        crashedPairs :=
          if arm ∈ s.history.left then arm.pair.toList ++ s.crashedPairs else s.crashedPairs }
    else { s with dir := outcome.2, down := false }
  | _, _ => { s with dir := outcome.2, down := false }

/-- The re-apply at service start, with the first step of the apply it goes on to. -/
def reapplied (s : StartupState) (rebootRequired : Option String) (disarm : FileResult)
    (timestamp : String) (arm : FileResult) : StartupState :=
  match reapplyOnBoot rebootRequired disarm s.dir with
  | (some profile, dir) => { s with dir := dir }.applied false profile timestamp arm
  | (none, dir) => { s with dir := dir }

/-- What a running process does; after a crash a recovery comes first. -/
def act (s : StartupState) : StartupEvent → Option StartupState
  | .apply operator profile timestamp arm => some (s.applied operator profile timestamp arm)
  | .persist operator profile result =>
    if (operator, profile.undervolt) ∈ s.applying then some (s.persisted operator profile result)
    else none
  | .arm flag result => some (s.armed none flag result)
  | .clear result => some { s with dir := clearBootFlag result s.dir }
  | .forget result => some { s with dir := clearApplied result s.dir }
  | .reset operator clockError gpuError results =>
    some (s.wasReset operator clockError gpuError results)
  | .disarm clockError vfError applied bootFlag =>
    some { s with dir := (resetAndDisarm clockError vfError applied bootFlag s.dir).2 }
  | .stop marker => some { s with dir := writeCleanShutdown marker s.dir }
  | .reconcile crashSeen record applied =>
    some { s with dir := (startupReconcile crashSeen record applied s.dir).2 }
  | .reapply rebootRequired disarm timestamp arm =>
    some (s.reapplied rebootRequired disarm timestamp arm)
  | .update _ _ | .crash | .recovery _ _ => none

def released (s : StartupState) (e : StartupEvent) : StartupState :=
  if e.removesFlag then { s with history := { s.history with retained := false } } else s

def step (s : StartupState) : StartupEvent → Option StartupState
  | .crash => some s.afterCrash
  | .recovery bugcheck results => some (s.recovered bugcheck results)
  | .update call result =>
    if call.keepsLatch then
      some { s with dir := saveRecord ((loadRecord s.dir).after call) result s.dir }
    else none
  | e => if s.down then none else (s.act e).map (·.released e)

@[simp] theorem released_dir (s : StartupState) (e : StartupEvent) :
    (s.released e).dir = s.dir := by
  unfold released
  split <;> rfl

@[simp] theorem released_apply (s : StartupState) (operator : Bool) (profile : AppliedProfile)
    (timestamp : String) (arm : FileResult) :
    s.released (.apply operator profile timestamp arm) = s := rfl

@[simp] theorem released_persist (s : StartupState) (operator : Bool) (profile : AppliedProfile)
    (result : FileResult) : s.released (.persist operator profile result) = s := rfl

end StartupState

/-- Any process may go on, in any order, until the machine crashes. -/
def startup (dir : DataDir) : Machine StartupState StartupEvent :=
  Machine.ofStep { dir := dir } StartupState.step

/-- An undervolt profile as the operator applies it. -/
def anchoredProfile (targetMhz anchorMv : Nat) : AppliedProfile where
  label := "Deep Calm"
  core := some ⟨targetMhz, anchorMv⟩
  memOffsetMhz := none
  appliedAt := none
  undervolt := some ⟨targetMhz, anchorMv⟩

end Nidavellir

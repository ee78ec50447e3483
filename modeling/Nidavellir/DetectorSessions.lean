import Nidavellir.DetectorLab
import Nidavellir.Lib.Runs
import Mathlib.Logic.Function.Basic

namespace Nidavellir.DetectorLab

open Interference Runs SafeLoopStore

/-- The steps of a stop and of a `ResetGpuTuning`, which the service handles one at a time. -/
inductive RequestAction (card : VfCard)
  | cancelLab (thenReset : Bool)
  | noteStopping
  | resetHardware (result : HardwareReset card)
  | clearApplied (result : FileResult)
  | saveRecord (result : FileResult)
  | clearBootFlag (result : FileResult)
  | markReset

variable {card : VfCard}

/-- A reset that fails on the way ends its request there, with the manual status as it was. -/
def Lab.requestStep (s : Lab) : RequestAction card → Option Lab
  | .cancelLab thenReset =>
    if s.request = .idle then some { s with cancel := true, request := .stopping thenReset }
    else none
  | .noteStopping =>
    match s.request with
    | .stopping thenReset =>
      some { s with
        request := if thenReset then .resetting else .idle
        status :=
          if s.status.running then
            { s.status with
              stage := "stopping"
              note := "Stopping after the current preemptible GPU band." }
          else s.status }
    | _ => none
  | .resetHardware result =>
    if s.request = .resetting then
      some { s with
        hw := result.leaves s.hw
        request := if result.failed then .idle else .hardwareReset }
    else none
  | .clearApplied result =>
    if s.request = .hardwareReset then
      some { s with dir := Nidavellir.clearApplied result s.dir, request := .appliedCleared }
    else none
  | .saveRecord result =>
    if s.request = .appliedCleared then
      some { s with
        dir := SafeLoopStore.saveRecord (loadRecord s.dir).clearRecoveryLatch result s.dir
        request := .recordSaved result.error }
    else none
  | .clearBootFlag result =>
    match s.request with
    | .recordSaved recordError =>
      some { s with
        dir := SafeLoopStore.clearBootFlag result s.dir
        request := if recordError.isSome || result.error.isSome then .idle else .flagCleared }
    | _ => none
  | .markReset =>
    if s.request = .flagCleared then
      some { s with
        manual := stockManualStatus "GPU is at stock; no manual diagnostic point is active."
        request := .idle }
    else none

/-- The last stores of a worker. -/
inductive TailStore
  | running
  | timer
  | statusRunning
deriving DecidableEq

def tailStores : List TailStore := [.running, .timer, .statusRunning]

def Lab.after (s : Lab) : TailStore → Lab
  | .running => { s with running := false }
  | .timer => { s with startedAt := none }
  | .statusRunning => { s with status := { s.status with running := false } }

inductive LabWorker
  | working (rest : LabProg Unit)
  | leaving (rest : List TailStore)

def LabWorker.gone : LabWorker := .leaving []

/-- The worker has something left to do. -/
def LabWorker.Alive : LabWorker → Prop
  | .working _ => True
  | .leaving rest => rest ≠ []

/-- The worker still has to give `running` back. -/
def LabWorker.InSession : LabWorker → Prop
  | .working _ => True
  | .leaving rest => rest = tailStores

/-- How far `start` has come. -/
inductive StartStage
  | validated
  | claimed
  | cancelCleared
  | journaled
  | statusSet
  | timed
deriving DecidableEq

/-- The handle with the workers of its sessions, in the order of their starts. `settled` says that
the latest session gave `running` back and that nothing moved the point since. -/
structure System where
  lab : Lab
  workers : Nat → LabWorker
  sessions : Nat
  starting : Option (DetectorSession × StartStage)
  settled : Bool

/-- A worker step carries its answer in the step itself. `movePoint` stands for the requests that
apply or reset a manual point, which the service refuses while `running`. -/
inductive LabAction (card : VfCard)
  | request (action : RequestAction card)
  | openStart (recipe : String) (durationS : Nat)
  | claim
  | clearCancel
  | journalStart (result : Except String Unit)
  | storeStatus
  | storeTimer (now : Nat)
  | spawn
  | movePoint (hw : Hardware) (manual : ManualPointStatus) (bootFlag : StoredFile BootFlag)
      (applied : StoredFile AppliedProfile)
  | work (k : Nat)
  | leave (k : Nat)
  | tail (k : Nat)

def DetectorSession.initial (session : DetectorSession) : DetectorLabStatus where
  running := true
  recipe := some session.recipe.key
  targetMhz := some session.targetMhz
  voltageMv := some session.resolvedVoltageMv
  stage := "calibrating_stock"
  durationMs := session.durationS * 1000
  note := "Returning to stock and capturing the golden reference."

namespace System

variable (card) in
inductive Step : System → LabAction card → System → Prop
  | request {sys : System} {a : RequestAction card} {lab : Lab} (hfree : sys.starting = none)
      (h : sys.lab.requestStep a = some lab) : Step sys (.request a) { sys with lab }
  | openStart {sys : System} {recipe : String} {durationS : Nat} {session : DetectorSession}
      (hfree : sys.starting = none) (hidle : sys.lab.request = .idle)
      (h : validate sys.lab.rebootRequired sys.lab.manual recipe durationS = .ok session) :
      Step sys (.openStart recipe durationS) { sys with starting := some (session, .validated) }
  | claimed {sys : System} {session : DetectorSession}
      (h : sys.starting = some (session, .validated)) (hrunning : sys.lab.running = false) :
      Step sys .claim { sys with
        lab := { sys.lab with running := true }
        starting := some (session, .claimed) }
  | refused {sys : System} {session : DetectorSession}
      (h : sys.starting = some (session, .validated)) (hrunning : sys.lab.running = true) :
      Step sys .claim { sys with starting := none }
  | clearCancel {sys : System} {session : DetectorSession}
      (h : sys.starting = some (session, .claimed)) :
      Step sys .clearCancel { sys with
        lab := { sys.lab with cancel := false }
        starting := some (session, .cancelCleared) }
  | journaled {sys : System} {session : DetectorSession}
      (h : sys.starting = some (session, .cancelCleared)) :
      Step sys (.journalStart (.ok ())) { sys with
        lab := { sys.lab with journal := sys.lab.journal ++ ["session_start"] }
        starting := some (session, .journaled) }
  | journalFailed {sys : System} {session : DetectorSession} {e : String}
      (h : sys.starting = some (session, .cancelCleared)) :
      Step sys (.journalStart (.error e)) { sys with
        lab := { sys.lab with running := false }
        starting := none }
  | storeStatus {sys : System} {session : DetectorSession}
      (h : sys.starting = some (session, .journaled)) :
      Step sys .storeStatus { sys with
        lab := { sys.lab with status := session.initial, judged := none }
        starting := some (session, .statusSet)
        settled := false }
  | storeTimer {sys : System} {session : DetectorSession} {now : Nat}
      (h : sys.starting = some (session, .statusSet)) :
      Step sys (.storeTimer now) { sys with
        lab := { sys.lab with startedAt := some now }
        starting := some (session, .timed) }
  | spawn {sys : System} {session : DetectorSession}
      (h : sys.starting = some (session, .timed)) :
      Step sys .spawn { sys with
        workers := Function.update sys.workers sys.sessions (.working (worker card session))
        sessions := sys.sessions + 1
        starting := none }
  | movePoint {sys : System} {hw : Hardware} {manual : ManualPointStatus}
      {bootFlag : StoredFile BootFlag} {applied : StoredFile AppliedProfile}
      (hfree : sys.starting = none) (hidle : sys.lab.request = .idle)
      (hrunning : sys.lab.running = false) :
      Step sys (.movePoint hw manual bootFlag applied) { sys with
        lab := { sys.lab with
          hw, manual, dir := { sys.lab.dir with bootFlag, applied } }
        settled := false }
  | work {sys : System} {k : Nat} {answer β : Type} {does : answer → Lab → β × Lab}
      {next : β → LabProg Unit} (r : answer) (h : sys.workers k = .working (.act does next)) :
      Step sys (.work k) { sys with
        lab := (does r sys.lab).2
        workers := Function.update sys.workers k (.working (next (does r sys.lab).1)) }
  | leave {sys : System} {k : Nat} (h : sys.workers k = .working (.ret ())) :
      Step sys (.leave k) { sys with
        workers := Function.update sys.workers k (.leaving tailStores) }
  | tail {sys : System} {k : Nat} {store : TailStore} {rest : List TailStore}
      (h : sys.workers k = .leaving (store :: rest)) :
      Step sys (.tail k) { sys with
        lab := sys.lab.after store
        workers := Function.update sys.workers k (.leaving rest)
        settled := store = .running || sys.settled }

end System

/-- From a lab without a session on. -/
def labMachine (card : VfCard) (first : Lab) : Machine System (LabAction card) where
  init sys := sys = ⟨first, fun _ => .gone, 0, none, false⟩
  step := System.Step card

end Nidavellir.DetectorLab

import Nidavellir.ForgeProgress
import Nidavellir.Lib.Runs
import Mathlib.Logic.Function.Basic

namespace Nidavellir

open Runs

/-- What the callers, the Sentinel and the workers share: the flags of the one handle,
`FORGE_ACTIVE`, and whether the active-stop slot refers to the handle. -/
structure ForgeFlags where
  running : Bool := false
  manualStop : Bool := false
  stop : Bool := false
  forgeActive : Bool := false
  activeForgeStop : Bool := false
deriving DecidableEq

/-- One atomic store, or one write of the slot under its mutex. -/
inductive FlagStore
  | running (value : Bool)
  | manualStop (value : Bool)
  | stop (value : Bool)
  | forgeActive (value : Bool)
  | activeForgeStop (registered : Bool)
deriving DecidableEq

def ForgeFlags.after (flags : ForgeFlags) : FlagStore → ForgeFlags
  | .running value => { flags with running := value }
  | .manualStop value => { flags with manualStop := value }
  | .stop value => { flags with stop := value }
  | .forgeActive value => { flags with forgeActive := value }
  | .activeForgeStop registered => { flags with activeForgeStop := registered }

def FlagStore.locksSlot : FlagStore → Bool
  | .activeForgeStop _ => true
  | _ => false

/-- `start_with_intent` between its swap of `running` and the spawn. -/
def startStores : List FlagStore :=
  [.manualStop false, .stop false, .forgeActive true, .activeForgeStop true]

/-- The last stores of a worker. -/
def tailStores : List FlagStore :=
  [.running false, .forgeActive false, .activeForgeStop false]

inductive ForgeCall
  | stop
  | abort
  | recoverAfterReset
  | forgetAfterFullReset
  | requestActiveForgeStop
deriving DecidableEq

def ForgeCall.stores : ForgeCall → List FlagStore
  | .stop => [.manualStop true, .stop true]
  | .abort | .requestActiveForgeStop => [.manualStop false, .stop true]
  | .recoverAfterReset | .forgetAfterFullReset =>
    [.manualStop false, .stop true, .running false]

/-- The calls that cancel a run which must not be resumed. -/
def ForgeCall.cancels : ForgeCall → Bool
  | .abort | .requestActiveForgeStop => true
  | _ => false

/-- At its end a worker loads `manual_stop`, and `stop` only when that was set. -/
inductive WorkerStage
  | measuring
  | manualStopRead
  | pauseRead (value : Bool)
deriving DecidableEq

/-- A worker, with whether a stop was requested and whether it was cancelled since its spawn. -/
structure Worker where
  stage : WorkerStage := .measuring
  requested : Bool := false
  cancelled : Bool := false
deriving DecidableEq

/-- The ways out of a worker, with its own progress at that point. `refused` stands for the early
returns, which keep the `resume_available = false` of the worker's start. -/
inductive WorkerExit (Point : Type)
  | refused (prog : PowerSweepProgress Point) (interrupted : Bool)
  | preheatFailed (prog : PowerSweepProgress Point) (resetOk : Bool)
  | finished (prog : PowerSweepProgress Point)
      (forgeComplete forgeAborted retainBootFlag resetOk : Bool)
  | panicked (prog : PowerSweepProgress Point)

/-- A start or resume, and the worker that it spawns. -/
inductive Launch (Point : Type)
  | ready
  | starting (rest : List FlagStore)
  | working (worker : Worker)
  | leaving (worker : Worker) (ended : PowerSweepProgress Point) (rest : List FlagStore)
  | gone

inductive LaunchAction (Point : Type)
  | start (refused : Bool)
  | go
  | poll (seen : Bool)
  | loadManualStop
  | loadStop
  | finish (exit : WorkerExit Point)

variable {Point : Type}

def PowerSweepProgress.offerResume (prog : PowerSweepProgress Point) :
    PowerSweepProgress Point :=
  { prog with
    resumeAvailable := prog.resumeCompatibility.isSome
    resumeBlockReason :=
      if prog.resumeCompatibility.isSome then none
      else some "o backend não conseguiu registrar identidade completa de build/GPU/driver" }

/-- The end of `measure_multiclock_undervolt_forge`, after the final reset. `pause` is the value of
the two loads. -/
def PowerSweepProgress.finished (prog : PowerSweepProgress Point) (forgeComplete forgeAborted
    retainBootFlag resetOk pause : Bool) : PowerSweepProgress Point :=
  let prog := if resetOk then prog else
    { prog with godforge := none, brokkrs := none, deepCalm := none, recommended := none,
                profilesQualified := false }
  let forgeComplete := forgeComplete && resetOk
  let manualPause := pause && !forgeAborted && (resetOk && !retainBootFlag)
  let prog := { prog with
    frontierComplete := forgeComplete && prog.godforge.isSome
    running := false
    phase := f2TerminalPhase manualPause forgeComplete forgeAborted retainBootFlag
      prog.profilesQualified prog.godforge.isSome }
  if manualPause then prog.offerResume
  else { prog with
    resumeAvailable := false
    resumeBlockReason :=
      if prog.phase != "paused" then
        some (match prog.phase with
          | "finished" | "provisional" => "Forge já terminou"
          | "interrupted" =>
            "interrupção/TDR não é uma pausa manual; recovery explícito é necessário"
          | _ => "não há checkpoint pausado por Stop manual")
      else prog.resumeBlockReason }

/-- The return of a worker whose stock preheat failed. -/
def PowerSweepProgress.preheatFailed (prog : PowerSweepProgress Point) (resetOk pause : Bool) :
    PowerSweepProgress Point :=
  if pause && resetOk then
    PowerSweepProgress.offerResume { prog with running := false, phase := "paused" }
  else { prog with
    running := false
    phase := "incomplete"
    resumeAvailable := false
    resumeBlockReason := some "preheat stock inconclusivo" }

def Worker.ends (worker : Worker) (exit : WorkerExit Point) : Option (PowerSweepProgress Point) :=
  match exit, worker.stage with
  | .refused prog interrupted, .measuring =>
    some { prog with
      running := false
      phase := if interrupted then "interrupted" else "incomplete"
      resumeAvailable := false }
  | .preheatFailed prog resetOk, .pauseRead pause => some (prog.preheatFailed resetOk pause)
  | .finished prog forgeComplete forgeAborted retainBootFlag resetOk, .pauseRead pause =>
    some (prog.finished forgeComplete forgeAborted retainBootFlag resetOk pause)
  | .panicked prog, _ =>
    some { prog with
      running := false
      phase := "interrupted"
      profilesQualified := false
      resumeAvailable := false
      resumeBlockReason :=
        some "falha interna/TDR exige recovery e não é uma pausa manual retomável" }
  | _, _ => none

/-- The next step of a launch. A refused start met a pending incident or a checkpoint that does not
resume. -/
def Launch.step (flags : ForgeFlags) (slotFree : Bool) :
    Launch Point → LaunchAction Point → Option (ForgeFlags × Launch Point)
  | .ready, .start refused =>
    if refused || flags.running then some (flags, .gone)
    else some (flags.after (.running true), .starting startStores)
  | .starting (store :: rest), .go =>
    if store.locksSlot && !slotFree then none else some (flags.after store, .starting rest)
  | .starting [], .go => some (flags, .working {})
  | .working worker, .poll seen =>
    if worker.stage = .measuring ∧ seen = flags.stop then some (flags, .working worker) else none
  | .working worker, .loadManualStop =>
    if worker.stage = .measuring then
      some (flags, .working { worker with
        stage := if flags.manualStop then .manualStopRead else .pauseRead false })
    else none
  | .working worker, .loadStop =>
    if worker.stage = .manualStopRead then
      some (flags, .working { worker with stage := .pauseRead flags.stop })
    else none
  | .working worker, .finish exit =>
    (worker.ends exit).map fun ended => (flags, .leaving worker ended tailStores)
  | .leaving worker ended (store :: rest), .go =>
    if store.locksSlot && !slotFree then none
    else some (flags.after store, .leaving worker ended rest)
  | .leaving _ _ [], .go => some (flags, .gone)
  | _, _ => none

/-- What a launch can do, with the flags before and after. -/
inductive Launch.Moves (flags : ForgeFlags) :
    Launch Point → LaunchAction Point → ForgeFlags → Launch Point → Prop
  | refuse {refused} (h : refused || flags.running) :
    Moves flags .ready (.start refused) flags .gone
  | claim (h : flags.running = false) :
    Moves flags .ready (.start false) (flags.after (.running true)) (.starting startStores)
  | startStore {store rest} :
    Moves flags (.starting (store :: rest)) .go (flags.after store) (.starting rest)
  | spawn : Moves flags (.starting []) .go flags (.working {})
  | poll {worker} (h : worker.stage = .measuring) :
    Moves flags (.working worker) (.poll flags.stop) flags (.working worker)
  | loadManualStop {worker} (h : worker.stage = .measuring) :
    Moves flags (.working worker) .loadManualStop flags (.working { worker with
      stage := if flags.manualStop then .manualStopRead else .pauseRead false })
  | loadStop {worker} (h : worker.stage = .manualStopRead) :
    Moves flags (.working worker) .loadStop flags (.working { worker with
      stage := .pauseRead flags.stop })
  | finish {worker exit ended} (h : worker.ends exit = some ended) :
    Moves flags (.working worker) (.finish exit) flags (.leaving worker ended tailStores)
  | tailStore {worker ended store rest} :
    Moves flags (.leaving worker ended (store :: rest)) .go (flags.after store)
      (.leaving worker ended rest)
  | leave {worker ended} : Moves flags (.leaving worker ended []) .go flags .gone

theorem Launch.moves_of_step {launch launch' : Launch Point} {flags flags' : ForgeFlags}
    {free : Bool} {a : LaunchAction Point}
    (h : launch.step flags free a = some (flags', launch')) :
    launch.Moves flags a flags' launch' := by
  unfold Launch.step at h
  split at h
  next refused =>
    split at h
    next hrefused => cases h; exact .refuse hrefused
    next hno =>
      obtain ⟨hrefused, hrunning⟩ := not_or.mp (Bool.or_eq_true_iff.not.mp hno)
      obtain rfl := Bool.eq_false_iff.mpr hrefused
      cases h
      exact .claim (Bool.eq_false_iff.mpr hrunning)
  next =>
    split at h
    next => cases h
    next => cases h; exact .startStore
  next => cases h; exact .spawn
  next =>
    split at h
    next hw =>
      obtain ⟨hstage, rfl⟩ := hw
      cases h
      exact .poll hstage
    next => cases h
  next =>
    split at h
    next hstage => cases h; exact .loadManualStop hstage
    next => cases h
  next =>
    split at h
    next hstage => cases h; exact .loadStop hstage
    next => cases h
  next =>
    obtain ⟨ended, hended, heq⟩ := Option.map_eq_some_iff.mp h
    cases heq
    exact .finish hended
  next =>
    split at h
    next => cases h
    next => cases h; exact .tailStore
  next => cases h; exact .leave
  next => cases h

/-- A worker that is up learns of a stop request. -/
def Launch.notify (stops cancels : Bool) : Launch Point → Launch Point
  | .working worker => .working { worker with
      requested := worker.requested || stops
      cancelled := worker.cancelled || cancels }
  | launch => launch

/-- A caller and how many of the call's stores it has made. -/
inductive Caller
  | ready
  | storing (call : ForgeCall) (made : Nat)
  | gone
deriving DecidableEq

inductive ForgeAction (Point : Type)
  | launch (id : Nat) (a : LaunchAction Point)
  | call (id : Nat) (c : ForgeCall)
  | callStep (id : Nat)

def ForgeAction.launchesBelow (n : Nat) : ForgeAction Point → Bool
  | .launch id _ => id < n
  | _ => true

/-- The shared flags, every launch and every caller, and who holds the mutex of the slot. -/
structure ForgeState (Point : Type) where
  flags : ForgeFlags := {}
  launches : Nat → Launch Point := fun _ => .ready
  callers : Nat → Caller := fun _ => .ready
  slotHolder : Option Nat := none

namespace ForgeState

def notify (s : ForgeState Point) (stops cancels : Bool) : ForgeState Point :=
  { s with launches := fun id => (s.launches id).notify stops cancels }

def setCaller (s : ForgeState Point) (id : Nat) (caller : Caller) : ForgeState Point :=
  { s with callers := Function.update s.callers id caller }

/-- `request_active_forge_stop` looks at the slot and stores under the slot's mutex; with an empty
slot it requests nothing. -/
def call (s : ForgeState Point) (id : Nat) (c : ForgeCall) : Option (ForgeState Point) :=
  if s.callers id ≠ .ready then none
  else if c ≠ .requestActiveForgeStop then some (s.setCaller id (.storing c 0))
  else if s.slotHolder.isSome then none
  else if s.flags.activeForgeStop then
    some { s.setCaller id (.storing c 0) with slotHolder := some id }
  else some ((s.setCaller id .gone).notify true true)

def callStep (s : ForgeState Point) (id : Nat) : Option (ForgeState Point) :=
  match s.callers id with
  | .storing c made =>
    match c.stores[made]? with
    | some store =>
      some (({ s with flags := s.flags.after store }.setCaller id (.storing c (made + 1))).notify
        (store == FlagStore.stop true) c.cancels)
    | none =>
      some { s.setCaller id .gone with
        slotHolder := if s.slotHolder = some id then none else s.slotHolder }
  | _ => none

def step (s : ForgeState Point) : ForgeAction Point → Option (ForgeState Point)
  | .launch id a =>
    ((s.launches id).step s.flags s.slotHolder.isNone a).map fun (flags, launch) =>
      { s with flags, launches := Function.update s.launches id launch }
  | .call id c => s.call id c
  | .callStep id => s.callStep id

variable {s s' : ForgeState Point}

theorem step_launch {id : Nat} {a : LaunchAction Point} (h : s.step (.launch id a) = some s') :
    ∃ flags launch, (s.launches id).Moves s.flags a flags launch ∧
      s' = { s with flags, launches := Function.update s.launches id launch } := by
  obtain ⟨⟨flags, launch⟩, hstep, rfl⟩ := Option.map_eq_some_iff.mp h
  exact ⟨flags, launch, Launch.moves_of_step hstep, rfl⟩

/-- A call begins, or finds the slot empty and requests nothing. -/
theorem step_call {id : Nat} {c : ForgeCall} (h : s.step (.call id c) = some s') :
    s'.flags = s.flags ∧
      ((c = .requestActiveForgeStop → s.flags.activeForgeStop) ∧ s'.launches = s.launches ∨
        c = .requestActiveForgeStop ∧ s.flags.activeForgeStop = false ∧
          s'.launches = fun i => (s.launches i).notify true true) := by
  have h : s.call id c = some s' := h
  unfold call at h
  split at h
  next => cases h
  next =>
    split at h
    next hc => cases h; exact ⟨rfl, .inl ⟨fun heq => absurd heq hc, rfl⟩⟩
    next hc =>
      split at h
      next => cases h
      next =>
        split at h
        next hslot => cases h; exact ⟨rfl, .inl ⟨fun _ => hslot, rfl⟩⟩
        next hslot =>
          cases h
          exact ⟨rfl, .inr ⟨not_not.mp hc, Bool.eq_false_iff.mpr hslot, rfl⟩⟩

/-- A caller makes its next store, or returns. -/
theorem step_callStep {id : Nat} (h : s.step (.callStep id) = some s') :
    ∃ c made, s.callers id = .storing c made ∧
      ((∃ store, c.stores[made]? = some store ∧ s'.flags = s.flags.after store ∧
          s'.launches = fun i => (s.launches i).notify (store == .stop true) c.cancels) ∨
        c.stores[made]? = none ∧ s'.flags = s.flags ∧ s'.launches = s.launches) := by
  have h : s.callStep id = some s' := h
  unfold callStep at h
  split at h
  next c made hcaller =>
    refine ⟨c, made, hcaller, ?_⟩
    split at h
    next store hstore =>
      cases h
      exact .inl ⟨store, hstore, rfl, rfl⟩
    next hdone => cases h; exact .inr ⟨hdone, rfl, rfl⟩
  next => cases h

/-- The launches from the `n`-th on have not begun. -/
def FreshFrom (n : Nat) (s : ForgeState Point) : Prop := ∀ id, n ≤ id → s.launches id = .ready

theorem freshFrom_init (n : Nat) : FreshFrom n ({} : ForgeState Point) := fun _ _ => rfl

theorem FreshFrom.notify {n : Nat} {stops cancels : Bool} (h : s.FreshFrom n)
    (hlaunches : s'.launches = fun id => (s.launches id).notify stops cancels) :
    s'.FreshFrom n := by
  intro id hid
  rw [hlaunches]
  simp [h id hid, Launch.notify]

theorem FreshFrom.step {n : Nat} {a : ForgeAction Point} (h : s.FreshFrom n)
    (ha : a.launchesBelow n) (hs : s.step a = some s') : s'.FreshFrom n := by
  cases a with
  | launch id la =>
    obtain ⟨flags, launch, -, rfl⟩ := step_launch hs
    intro i hi
    have hne : i ≠ id := by
      rintro rfl
      exact Nat.not_le.mpr (of_decide_eq_true ha) hi
    simpa [hne] using h i hi
  | call id c =>
    obtain ⟨-, ⟨-, hsame⟩ | ⟨-, -, hlaunches⟩⟩ := step_call hs
    · intro i hi
      rw [hsame]
      exact h i hi
    · exact h.notify hlaunches
  | callStep id =>
    obtain ⟨c, made, -, ⟨store, -, -, hlaunches⟩ | ⟨-, -, hsame⟩⟩ := step_callStep hs
    · exact h.notify hlaunches
    · intro i hi
      rw [hsame]
      exact h i hi

end ForgeState

def forgeMachine (Point : Type) : Machine (ForgeState Point) (ForgeAction Point) :=
  Machine.ofStep {} ForgeState.step

/-- A guard that a test over the first `n` launches decides is met along a run that launches no
other. -/
theorem forge_guarded_of_foldlM {n : Nat} {ok : ForgeState Point → ForgeAction Point → Prop}
    {test : ForgeState Point → ForgeAction Point → Bool}
    (htest : ∀ s a, s.FreshFrom n → test s a → ok s a) {l : List (ForgeAction Point)}
    {s : ForgeState Point}
    (h : l.foldlM (fun s a => if a.launchesBelow n && test s a then s.step a else none)
      {} = some s) : ((forgeMachine Point).guarded ok).Run l s := by
  refine .of_foldlM_invariant (I := ForgeState.FreshFrom n) (fun s a s' hfresh hs => ?_) rfl
    (ForgeState.freshFrom_init n) h
  obtain ⟨ha, hs⟩ := Option.ite_none_right_eq_some.mp hs
  obtain ⟨hbelow, hok⟩ := Bool.and_eq_true_iff.mp ha
  exact ⟨⟨htest s a hfresh hok, hs⟩, hfresh.step hbelow hs⟩

end Nidavellir

import Nidavellir.ForgeHandle

namespace Nidavellir

open Runs

variable {Point : Type}

/-- The worker has read a manual Stop and has not seen that there is none. -/
def WorkerStage.mayPause : WorkerStage → Bool
  | .measuring => false
  | .manualStopRead => true
  | .pauseRead value => value

namespace ForgeState

variable {s s' : ForgeState Point} {a : ForgeAction Point}

/-- No run that was cancelled before its terminal phase has ended as a checkpoint to resume. -/
def CancelledNotResumable (s : ForgeState Point) : Prop :=
  ∀ id worker ended rest, s.launches id = .leaving worker ended rest → worker.cancelled →
    ended.NotResumable

/-- No worker is between a load of `manual_stop` that read a manual Stop and its end. -/
def NonePausing (s : ForgeState Point) : Prop :=
  ∀ id worker, s.launches id = .working worker → worker.stage.mayPause = false

/-- A cancelled worker loads `manual_stop` only while no operator's Stop is the last that wrote it,
and a cancellation comes only while no worker is pausing. -/
def CancelsInTime (s : ForgeState Point) : ForgeAction Point → Prop
  | .launch id .loadManualStop => ∀ worker, s.launches id = .working worker →
      worker.cancelled → s.flags.manualStop = false
  | .launch _ _ => True
  | .call _ c => c = .requestActiveForgeStop → s.flags.activeForgeStop = false → s.NonePausing
  | .callStep id => ∀ c made, s.callers id = .storing c made → c.cancels →
      made < c.stores.length → s.NonePausing

end ForgeState

/-- The invariant of one launch: a cancelled worker does not pause. -/
def Launch.Uncancelled : Launch Point → Prop
  | .working worker => worker.cancelled → worker.stage.mayPause = false
  | .leaving worker ended _ => worker.cancelled → ended.NotResumable
  | _ => True

theorem PowerSweepProgress.finished_notResumable (prog : PowerSweepProgress Point)
    (forgeComplete forgeAborted retainBootFlag resetOk : Bool) :
    (prog.finished forgeComplete forgeAborted retainBootFlag resetOk false).NotResumable := by
  have hno : ¬ (false && !forgeAborted && (resetOk && !retainBootFlag)) = true := by simp
  unfold PowerSweepProgress.finished
  simp only [if_neg hno]
  apply PowerSweepProgress.notResumable_of_phase
  · rw [Ne, f2TerminalPhase_eq_paused_iff]
    exact hno
  · rfl

theorem Worker.ends_notResumable {worker : Worker} {exit : WorkerExit Point}
    {ended : PowerSweepProgress Point} (h : worker.ends exit = some ended)
    (hstage : worker.stage.mayPause = false) : ended.NotResumable := by
  unfold Worker.ends at h
  split at h
  next interrupted _ =>
    cases h
    apply PowerSweepProgress.notResumable_of_phase
    · show (if interrupted = true then "interrupted" else "incomplete") ≠ "paused"
      cases interrupted <;> decide
    · rfl
  next resetOk pause hpause =>
    cases h
    obtain rfl : pause = false := by simpa [hpause, WorkerStage.mayPause] using hstage
    apply PowerSweepProgress.notResumable_of_phase
    · simp [PowerSweepProgress.preheatFailed]
    · simp [PowerSweepProgress.preheatFailed]
  next pause hpause =>
    cases h
    obtain rfl : pause = false := by simpa [hpause, WorkerStage.mayPause] using hstage
    exact PowerSweepProgress.finished_notResumable _ _ _ _ _
  next =>
    cases h
    apply PowerSweepProgress.notResumable_of_phase
    · show "interrupted" ≠ "paused"
      decide
    · rfl
  next => cases h

theorem Launch.Moves.uncancelled {launch launch' : Launch Point} {flags flags' : ForgeFlags}
    {a : LaunchAction Point} (hm : launch.Moves flags a flags' launch')
    (h : launch.Uncancelled)
    (hok : a = .loadManualStop → ∀ worker, launch = .working worker → worker.cancelled →
      flags.manualStop = false) : launch'.Uncancelled := by
  cases hm with
  | refuse hrefused => trivial
  | claim hrunning => trivial
  | startStore => trivial
  | spawn => exact fun hc => (by cases hc)
  | poll hstage => exact h
  | @loadManualStop worker hstage =>
    intro hc
    have hread := hok rfl worker rfl hc
    simp [hread, WorkerStage.mayPause]
  | @loadStop worker hstage =>
    intro hc
    have hpausing := h hc
    rw [hstage] at hpausing
    cases hpausing
  | finish hended => exact fun hc => Worker.ends_notResumable hended (h hc)
  | tailStore => exact h
  | leave => trivial

namespace ForgeState

variable {s s' : ForgeState Point} {a : ForgeAction Point}

def Uncancelled (s : ForgeState Point) : Prop := ∀ id, (s.launches id).Uncancelled

theorem Uncancelled.of_notify {stops cancels : Bool} (h : s.Uncancelled)
    (hlaunches : s'.launches = fun id => (s.launches id).notify stops cancels)
    (hok : cancels → s.NonePausing) : s'.Uncancelled := by
  intro id
  have hid := h id
  have hid' : s'.launches id = (s.launches id).notify stops cancels := by rw [hlaunches]
  rw [hid']
  cases hl : s.launches id with
  | working worker =>
    rw [hl] at hid
    intro hc
    rcases Bool.or_eq_true_iff.mp hc with hold | hnew
    · exact hid hold
    · exact hok hnew id worker hl
  | leaving worker ended rest =>
    rw [hl] at hid
    exact hid
  | ready => trivial
  | starting rest => trivial
  | gone => trivial

theorem Uncancelled.step (h : s.Uncancelled) (hok : s.CancelsInTime a)
    (hs : s.step a = some s') : s'.Uncancelled := by
  cases a with
  | launch id la =>
    obtain ⟨flags, launch, hm, rfl⟩ := step_launch hs
    intro j
    by_cases hj : j = id
    · subst hj
      have hload : la = .loadManualStop → ∀ worker, s.launches j = .working worker →
          worker.cancelled → s.flags.manualStop = false := by
        rintro rfl
        exact hok
      simpa using hm.uncancelled (h j) hload
    · simpa [hj] using h j
  | call id c =>
    obtain ⟨-, ⟨-, hsame⟩ | ⟨hc, hslot, hlaunches⟩⟩ := step_call hs
    · intro j
      rw [hsame]
      exact h j
    · exact h.of_notify hlaunches fun _ => hok hc hslot
  | callStep id =>
    obtain ⟨c, made, hstoring, ⟨store, hstore, -, hlaunches⟩ | ⟨-, -, hsame⟩⟩ := step_callStep hs
    · obtain ⟨hmade, -⟩ := List.getElem?_eq_some_iff.mp hstore
      exact h.of_notify hlaunches fun hc => hok c made hstoring hc hmade
    · intro j
      rw [hsame]
      exact h j

theorem step_callers (hs : s.step a = some s') :
    ∃ id, ∀ i, i ≠ id → s'.callers i = s.callers i := by
  cases a with
  | launch id la =>
    obtain ⟨flags, launch, -, rfl⟩ := step_launch hs
    exact ⟨0, fun i _ => rfl⟩
  | call id c =>
    refine ⟨id, fun i hi => ?_⟩
    have hs : s.call id c = some s' := hs
    unfold call at hs
    split at hs
    next => cases hs
    next =>
      split at hs
      next => cases hs; simp [setCaller, hi]
      next =>
        split at hs
        next => cases hs
        next => split at hs <;> cases hs <;> simp [notify, setCaller, hi]
  | callStep id =>
    refine ⟨id, fun i hi => ?_⟩
    have hs : s.callStep id = some s' := hs
    unfold callStep at hs
    split at hs
    next => split at hs <;> cases hs <;> simp [notify, setCaller, hi]
    next => cases hs

/-- There is always a caller that has not called yet. -/
theorem exists_ready {l : List (ForgeAction Point)} (h : (forgeMachine Point).Run l s) :
    ∃ id, s.callers id = .ready := by
  have hbound : ∃ n, ∀ id, n ≤ id → s.callers id = .ready := by
    refine h.invariant (I := fun s => ∃ n, ∀ id, n ≤ id → s.callers id = .ready) ?_ ?_
    · rintro s rfl
      exact ⟨0, fun id _ => rfl⟩
    · rintro s a s' ⟨n, hn⟩ hs
      obtain ⟨caller, hsame⟩ := step_callers hs
      refine ⟨max n (caller + 1), fun id hid => ?_⟩
      rw [hsame id (by omega)]
      exact hn id (by omega)
  obtain ⟨n, hn⟩ := hbound
  exact ⟨n, hn n (Nat.le_refl n)⟩

theorem leads_stop {id caller : Nat} {worker : Worker} (hready : s.callers caller = .ready)
    (hw : s.launches id = .working worker) :
    ∃ s', Leads step s s' ∧ s'.flags.stop = true ∧
      s'.launches id = .working { worker with requested := true } := by
  let s₁ := s.setCaller caller (.storing .stop 0)
  let s₂ := ({ s₁ with flags := s₁.flags.after (.manualStop true) }.setCaller caller
    (.storing .stop 1)).notify false false
  let s₃ := ({ s₂ with flags := s₂.flags.after (.stop true) }.setCaller caller
    (.storing .stop 2)).notify true false
  have hne : (FlagStore.manualStop true == .stop true) = false := rfl
  have h₁ : s.step (.call caller .stop) = some s₁ := by simp [step, call, hready, s₁]
  have h₂ : s₁.step (.callStep caller) = some s₂ := by
    simp [step, callStep, s₁, s₂, setCaller, ForgeCall.stores, ForgeCall.cancels, hne]
  have h₃ : s₂.step (.callStep caller) = some s₃ := by
    simp [step, callStep, s₂, s₃, setCaller, notify, ForgeCall.stores, ForgeCall.cancels]
  refine ⟨s₃, .head h₁ (.head h₂ (.head h₃ .refl)), rfl, ?_⟩
  simp [s₃, s₂, s₁, setCaller, notify, hw, Launch.notify]

/-- A checkpoint with an identity. -/
def checkpoint : PowerSweepProgress Point where
  mode := some "standard"
  learning := some "persistent"
  runId := some "f2-forge"
  resumeCompatibility := some ⟨"", "", "", "", "", ""⟩

/-- A worker that read the manual Stop ends as a pause, cancelled or not. -/
theorem leads_paused {id caller : Nat} {worker : Worker} (hready : s.callers caller = .ready)
    (hw : s.launches id = .working worker) (hpausing : worker.stage.mayPause)
    (hcancelled : worker.cancelled) :
    ∃ s', Leads step s s' ∧ ¬ s'.CancelledNotResumable := by
  have hfinish : ∀ {s : ForgeState Point} {worker : Worker}, s.launches id = .working worker →
      worker.stage = .pauseRead true → worker.cancelled →
      ∃ s', Leads step s s' ∧ ¬ s'.CancelledNotResumable := by
    intro s worker hw hstage hcancelled
    let ended : PowerSweepProgress Point := checkpoint.finished true false false true true
    let s₁ : ForgeState Point := { s with
      launches := Function.update s.launches id (.leaving worker ended tailStores) }
    have h₁ : s.step (.launch id (.finish (.finished checkpoint true false false true))) =
        some s₁ := by
      simp [step, hw, Launch.step, Worker.ends, hstage, s₁, ended]
    refine ⟨s₁, .head h₁ .refl, fun h => ?_⟩
    exact (h id worker ended tailStores (by simp [s₁]) hcancelled).1 rfl
  cases hstage : worker.stage with
  | measuring => simp [hstage, WorkerStage.mayPause] at hpausing
  | pauseRead value =>
    obtain rfl : value = true := by simpa [hstage, WorkerStage.mayPause] using hpausing
    exact hfinish hw hstage hcancelled
  | manualStopRead =>
    obtain ⟨s₁, hleads₁, hstop, hw₁⟩ := leads_stop hready hw
    let paused : Worker := { worker with stage := .pauseRead true, requested := true }
    let s₂ : ForgeState Point := { s₁ with
      launches := Function.update s₁.launches id (.working paused) }
    have h₂ : s₁.step (.launch id .loadStop) = some s₂ := by
      simp [step, hw₁, Launch.step, hstage, hstop, s₂, paused]
    have hpaused : s₂.launches id = .working paused := by simp [s₂]
    obtain ⟨s₃, hleads₃, hbad⟩ := hfinish hpaused rfl hcancelled
    exact ⟨s₃, hleads₁.trans (.head h₂ hleads₃), hbad⟩

/-- A step that cancels too late leaves a cancelled worker that may pause. -/
theorem exists_pausing (hs : s.step a = some s') (hno : ¬ s.CancelsInTime a) :
    ∃ id worker, s'.launches id = .working worker ∧ worker.stage.mayPause ∧
      worker.cancelled := by
  have hcancelled : ¬ s.NonePausing → ∀ {stops},
      s'.launches = (fun id => (s.launches id).notify stops true) →
      ∃ id worker, s'.launches id = .working worker ∧ worker.stage.mayPause ∧
        worker.cancelled := by
    intro hnot stops hlaunches
    obtain ⟨id, hnot⟩ := not_forall.mp hnot
    obtain ⟨worker, hnot⟩ := not_forall.mp hnot
    obtain ⟨hw, hpausing⟩ := Classical.not_imp.mp hnot
    refine ⟨id, { worker with requested := worker.requested || stops, cancelled := true }, ?_,
      (by simpa using hpausing), rfl⟩
    simp [hlaunches, hw, Launch.notify]
  cases a with
  | launch id la =>
    obtain ⟨flags, launch, hm, rfl⟩ := step_launch hs
    cases la with
    | loadManualStop =>
      obtain ⟨worker, hno⟩ := not_forall.mp hno
      obtain ⟨hw, hno⟩ := Classical.not_imp.mp hno
      obtain ⟨hc, hmanual⟩ := Classical.not_imp.mp hno
      have hmanual : s.flags.manualStop = true := by simpa using hmanual
      rw [hw] at hm
      cases hm with
      | loadManualStop hstage =>
        exact ⟨id, { worker with stage := .manualStopRead }, by simp [hmanual], rfl, hc⟩
    | start refused => exact absurd trivial hno
    | go => exact absurd trivial hno
    | poll seen => exact absurd trivial hno
    | loadStop => exact absurd trivial hno
    | finish exit => exact absurd trivial hno
  | call id c =>
    obtain ⟨hc, hno⟩ := Classical.not_imp.mp hno
    obtain ⟨hslot, hno⟩ := Classical.not_imp.mp hno
    obtain ⟨-, ⟨hset, -⟩ | ⟨-, -, hlaunches⟩⟩ := step_call hs
    · simp [hset hc] at hslot
    · exact hcancelled hno hlaunches
  | callStep id =>
    obtain ⟨c, hno⟩ := not_forall.mp hno
    obtain ⟨made, hno⟩ := not_forall.mp hno
    obtain ⟨hstoring, hno⟩ := Classical.not_imp.mp hno
    obtain ⟨hc, hno⟩ := Classical.not_imp.mp hno
    obtain ⟨hmade, hno⟩ := Classical.not_imp.mp hno
    obtain ⟨c', made', hstoring', hstep⟩ := step_callStep hs
    obtain ⟨rfl, rfl⟩ := Caller.storing.inj (hstoring.symm.trans hstoring')
    rcases hstep with ⟨store, -, -, hlaunches⟩ | ⟨hdone, -, -⟩
    · rw [hc] at hlaunches
      exact hcancelled hno hlaunches
    · have := List.getElem?_eq_none_iff.mp hdone
      omega

end ForgeState

theorem forge_uncancelled {l : List (ForgeAction Point)} {s : ForgeState Point}
    (h : ((forgeMachine Point).guarded ForgeState.CancelsInTime).Run l s) : s.Uncancelled := by
  refine h.invariant ?_ ?_
  · rintro s rfl id
    trivial
  · intro s a s' hs hnext
    obtain ⟨hok, hstep⟩ := hnext
    exact hs.step hok hstep

/-- In every run whose cancellations come in time, a cancelled run ends neither paused nor
resumable; after a cancellation that comes too late the run can end paused. -/
theorem forge_cancelled_notResumable_iff (Point : Type) :
    (∀ l s, ((forgeMachine Point).guarded ForgeState.CancelsInTime).Run l s →
      s.CancelledNotResumable) ∧
    ∀ l s a s', (forgeMachine Point).Run l s → s.step a = some s' → ¬ s.CancelsInTime a →
      ∃ l' s'', (forgeMachine Point).Run (l ++ [a] ++ l') s'' ∧
        ¬ s''.CancelledNotResumable := by
  constructor
  · intro l s h id worker ended rest hleaving hcancelled
    have huncancelled := forge_uncancelled h id
    rw [hleaving] at huncancelled
    exact huncancelled hcancelled
  · intro l s a s' hrun hs hno
    have hrun' : (forgeMachine Point).Run (l ++ [a]) s' := hrun.next hs
    obtain ⟨caller, hready⟩ := ForgeState.exists_ready hrun'
    obtain ⟨id, worker, hw, hpausing, hcancelled⟩ := ForgeState.exists_pausing hs hno
    obtain ⟨s'', hleads, hbad⟩ := ForgeState.leads_paused hready hw hpausing hcancelled
    obtain ⟨l', hrun''⟩ := hleads.run hrun'
    exact ⟨l', s'', hrun'', hbad⟩

/-- Each of the first `n` launches is a worker only where `test` allows it. -/
def ForgeState.workersPass (n : Nat) (s : ForgeState Point) (test : Worker → Bool) : Bool :=
  (List.range n).all fun id => match s.launches id with
    | .working worker => test worker
    | _ => true

theorem ForgeState.test_of_workersPass {n : Nat} {s : ForgeState Point} {test : Worker → Bool}
    (hfresh : s.FreshFrom n) (h : s.workersPass n test) {id : Nat} {worker : Worker}
    (hw : s.launches id = .working worker) : test worker := by
  have hid : id < n := by
    by_contra hid
    cases (hfresh id (Nat.not_lt.mp hid)).symm.trans hw
  have hpass := List.all_eq_true.mp h id (List.mem_range.mpr hid)
  simpa [hw] using hpass

/-- `CancelsInTime` tested over the first `n` launches. -/
def ForgeState.cancelsInTimeBelow (n : Nat) (s : ForgeState Point) : ForgeAction Point → Bool
  | .launch _ .loadManualStop =>
    s.workersPass n fun worker => !worker.cancelled || !s.flags.manualStop
  | .launch _ _ => true
  | .call _ c => c != .requestActiveForgeStop || s.flags.activeForgeStop ||
      s.workersPass n fun worker => !worker.stage.mayPause
  | .callStep id => match s.callers id with
    | .storing c _ => !c.cancels || s.workersPass n fun worker => !worker.stage.mayPause
    | _ => true

theorem ForgeState.cancelsInTime_of_below {n : Nat} {s : ForgeState Point}
    {a : ForgeAction Point} (hfresh : s.FreshFrom n) (h : s.cancelsInTimeBelow n a) :
    s.CancelsInTime a := by
  cases a with
  | launch id la =>
    cases la with
    | loadManualStop =>
      intro worker hw hcancelled
      simpa [hcancelled] using ForgeState.test_of_workersPass hfresh h hw
    | start refused => trivial
    | go => trivial
    | poll seen => trivial
    | loadStop => trivial
    | finish exit => trivial
  | call id c =>
    rintro rfl hslot id worker hw
    simp only [ForgeState.cancelsInTimeBelow, hslot, bne_self_eq_false, Bool.false_or] at h
    simpa using ForgeState.test_of_workersPass hfresh h hw
  | callStep id =>
    intro c made hstoring hcancels _ id worker hw
    simp only [ForgeState.cancelsInTimeBelow, hstoring, hcancels, Bool.not_true, Bool.false_or] at h
    simpa using ForgeState.test_of_workersPass hfresh h hw

/-- The operator stops, and the Sentinel cancels before the worker loads `manual_stop`. -/
def cancellationAfterStop : List (ForgeAction Unit) :=
  .launch 0 (.start false) :: List.replicate 5 (.launch 0 .go) ++
  [.call 0 .stop, .callStep 0, .callStep 0, .callStep 0, .launch 0 (.poll true),
    .call 1 .requestActiveForgeStop, .callStep 1, .callStep 1, .callStep 1,
    .launch 0 .loadManualStop,
    .launch 0 (.finish (.finished ForgeState.checkpoint false false false true))]

theorem forge_cancelled_in_time : ∃ (s : ForgeState Unit) (worker : Worker)
    (ended : PowerSweepProgress Unit),
    ((forgeMachine Unit).guarded ForgeState.CancelsInTime).Run cancellationAfterStop s ∧
      s.launches 0 = .leaving worker ended tailStores ∧ worker.cancelled = true ∧
      ended.resumeCompatibility.isSome ∧ ended.NotResumable := by
  have hrun : ∃ (s : ForgeState Unit) (worker : Worker) (ended : PowerSweepProgress Unit),
      cancellationAfterStop.foldlM (fun s a =>
        if a.launchesBelow 1 && s.cancelsInTimeBelow 1 a then s.step a else none) {} = some s ∧
      s.launches 0 = .leaving worker ended tailStores ∧ worker.cancelled = true ∧
      ended.resumeCompatibility.isSome := ⟨_, _, _, rfl, rfl, rfl, rfl⟩
  obtain ⟨s, worker, ended, hs, hleaving, hcancelled, hidentity⟩ := hrun
  have hguarded : ((forgeMachine Unit).guarded ForgeState.CancelsInTime).Run
      cancellationAfterStop s :=
    forge_guarded_of_foldlM (fun _ _ => ForgeState.cancelsInTime_of_below) hs
  exact ⟨s, worker, ended, hguarded, hleaving, hcancelled, hidentity,
    (forge_cancelled_notResumable_iff Unit).1 _ s hguarded 0 worker ended tailStores hleaving
      hcancelled⟩

/-- The Sentinel cancels, then the operator stops while the worker winds down. -/
def stopAfterCancellation : List (ForgeAction Unit) :=
  .launch 0 (.start false) :: List.replicate 5 (.launch 0 .go) ++
  [.call 0 .requestActiveForgeStop, .callStep 0, .callStep 0, .callStep 0, .call 1 .stop,
    .callStep 1, .callStep 1, .callStep 1, .launch 0 .loadManualStop, .launch 0 .loadStop,
    .launch 0 (.finish (.finished ForgeState.checkpoint false false false true))]

/-- The cancelled run ends paused, and a resume accepts its checkpoint. -/
theorem forge_cancelled_run_resumed :
    ¬ (∀ l s, (forgeMachine Unit).Run l s → s.CancelledNotResumable) ∧
    ∃ s worker ended, (forgeMachine Unit).Run stopAfterCancellation s ∧
      s.launches 0 = .leaving worker ended tailStores ∧ worker.cancelled = true ∧
      ended.phase = "paused" ∧ ended.resumeAvailable = true ∧
      validateResumeCheckpoint ended ⟨"", "", "", "", "", ""⟩ =
        .ok (.standard, .persistent) := by
  have hrun : ∃ s worker ended, (forgeMachine Unit).Run stopAfterCancellation s ∧
      s.launches 0 = .leaving worker ended tailStores ∧ worker.cancelled = true ∧
      ended.phase = "paused" ∧ ended.resumeAvailable = true ∧
      validateResumeCheckpoint ended ⟨"", "", "", "", "", ""⟩ = .ok (.standard, .persistent) :=
    ⟨_, _, _, Machine.run_ofStep_iff.mpr rfl, rfl, rfl, rfl, rfl, rfl⟩
  refine ⟨fun h => ?_, hrun⟩
  obtain ⟨s, worker, ended, hrun, hleaving, hcancelled, hphase, -⟩ := hrun
  exact (h _ s hrun 0 worker ended tailStores hleaving hcancelled).1 hphase

end Nidavellir

import Nidavellir.GpuLease

namespace Nidavellir

open Runs

namespace LeaseState

variable {s s' : LeaseState} {a : LeaseAction}

/-- Some GPU operation is running. -/
def Busy (s : LeaseState) : Prop := ∃ id op, s.workers id = .running op

/-- The effect starts an operation, writes or resets the hardware, or clears the boot flag. -/
def acts (s : LeaseState) : RequestEffect → Bool
  | .reads | .stops _ => false
  | .starts op => s.startable op
  | _ => true

/-- The operations that run have been told to stop. -/
def Stopped (s : LeaseState) : Prop :=
  ∀ id op, s.workers id = .running op → op.stoppable → (s.handles op).stop

/-- A request takes effect, or a survival timer of an earlier apply clears the boot flag, while an
operation is running; an emergency reset may, once it has stopped it. -/
def Intrudes (s : LeaseState) : LeaseAction → Prop
  | .act outcome _ => outcome ≠ .refused ∧ ∃ serving, s.serving = some serving ∧
      s.acts serving.request.effect ∧ s.Busy ∧
      ¬ (serving.request.effect = .emergencyReset ∧ s.Stopped)
  | .timer => s.Busy
  | _ => False

/-- A request behind the lease takes effect only when no worker that ran unpublished at its check
still runs, the start of a Detector Lab and the reset of the manual point only when nothing runs,
and so does a survival timer. -/
def NothingHidden (s : LeaseState) : LeaseAction → Prop
  | .act outcome _ => outcome ≠ .refused → ∀ serving, s.serving = some serving →
      s.acts serving.request.effect → serving.request.effect ≠ .emergencyReset →
      if gpuWriteRequiresIdle serving.request then
        ∀ id op, s.workers id = .running op → serving.hidden id = false
      else ¬ s.Busy
  | .timer => ¬ s.Busy
  | _ => True

/-- What a request knows from its checks until it takes effect. -/
structure Checked (s : LeaseState) (serving : Serving) : Prop where
  hidden : gpuWriteRequiresIdle serving.request →
    ∀ id op, s.workers id = .running op → serving.hidden id
  stopped : serving.request.effect = .emergencyReset → ∀ op, op.stoppable → (s.handles op).stop
  labIdle : (gpuWriteRequiresIdle serving.request ∨
    serving.request = .resetManualDiagnosticPoint) → (s.handles .detectorLab).running = false

/-- The session is not over its dwell. -/
def pending : LabStage → Bool
  | .starting | .calibrating | .dwelling _ => true
  | _ => false

/-- The Detector Lab's session agrees with its handle: a dwell whose point was reset is told to
stop. -/
structure LabSound (s : LeaseState) : Prop where
  running : pending s.lab → (s.handles .detectorLab).running
  stop : s.lab = .dwelling true → (s.handles .detectorLab).stop
  dwelt : s.lab ≠ .dwelt true
  validated : s.lab ≠ .validated true

structure Sound (s : LeaseState) : Prop where
  checked : ∀ serving, s.serving = some serving → s.Checked serving
  lab : s.LabSound
  leaving : ∀ id, s.workers id ≠ .leaving .detectorLab

theorem Checked.frame {serving : Serving} (h : s.Checked serving)
    (hworkers : ∀ id op, s'.workers id = .running op → s.workers id = .running op)
    (hstop : ∀ op, (s.handles op).stop → (s'.handles op).stop)
    (hlab : (s.handles .detectorLab).running = false →
      (s'.handles .detectorLab).running = false) : s'.Checked serving := by
  refine ⟨?_, ?_, ?_⟩
  · intro hidle id op hrunning
    exact h.hidden hidle id op (hworkers id op hrunning)
  · intro heffect op hop
    exact hstop op (h.stopped heffect op hop)
  · intro hchecked
    exact hlab (h.labIdle hchecked)

theorem LabSound.frame (h : s.LabSound) (hlab : s'.lab = s.lab)
    (hrunning : (s.handles .detectorLab).running → (s'.handles .detectorLab).running)
    (hstop : (s.handles .detectorLab).stop → (s'.handles .detectorLab).stop) : s'.LabSound := by
  refine ⟨?_, ?_, ?_, ?_⟩
  · intro hpending
    exact hrunning (h.running (hlab ▸ hpending))
  · intro hdwelling
    exact hstop (h.stop (hlab ▸ hdwelling))
  · rw [hlab]
    exact h.dwelt
  · rw [hlab]
    exact h.validated

theorem LabSound.of_quiet (hrunning : pending s.lab → (s.handles .detectorLab).running)
    (h : s.lab ≠ .dwelling true ∧ s.lab ≠ .dwelt true ∧ s.lab ≠ .validated true) :
    s.LabSound :=
  ⟨hrunning, fun hd => absurd hd h.1, h.2.1, h.2.2⟩

/-- The hardware is reset: harmless unless the lab is dwelling, and then the lab must stop. -/
theorem LabSound.reset (h : s.LabSound) (hlab : s'.lab = s.lab.reset)
    (hrunning : (s.handles .detectorLab).running → (s'.handles .detectorLab).running)
    (hstop : (s.handles .detectorLab).running → (s'.handles .detectorLab).stop) :
    s'.LabSound := by
  cases hs : s.lab with
  | dwelling reset =>
    have hlab : s'.lab = .dwelling true := by rw [hlab, hs]; rfl
    have hup := h.running (by rw [hs]; rfl)
    exact ⟨fun _ => hrunning hup, fun _ => hstop hup, by simp [hlab], by simp [hlab]⟩
  | _ =>
    have hlab : s'.lab = s.lab := by rw [hlab, hs]; rfl
    refine .of_quiet (fun hp => hrunning (h.running (hlab ▸ hp))) ⟨by simp [hlab, hs], ?_, ?_⟩
    · exact hlab ▸ h.dwelt
    · exact hlab ▸ h.validated

theorem stopAll_handles (s : LeaseState) (op : GpuOperation) :
    (s.stopAll.handles op).running = (s.handles op).running ∧
      ((s.handles op).stop → (s.stopAll.handles op).stop) ∧
      (op.stoppable → (s.stopAll.handles op).stop) := by
  unfold stopAll
  by_cases hop : op.stoppable
  · simp [hop]
  · simp [hop]

/-- With the lease free, whoever runs has not published it. -/
theorem hides_of_running {id : Nat} {op : GpuOperation} (hidle : s.gpuOperationRunning = false)
    (hw : s.workers id = .running op) : s.hides id := by
  simp only [gpuOperationRunning, Bool.or_eq_false_iff] at hidle
  obtain ⟨⟨⟨⟨⟨⟨⟨hvalidation, hreal⟩, hmem⟩, hall⟩, hbenchmark⟩, hpower⟩, -⟩, hlab⟩ := hidle
  unfold hides
  rw [hw]
  cases op with
  | gpuValidation => simp [hvalidation]
  | realSweep => simp [hreal]
  | memSweep => simp [hmem]
  | forgeAll => simp [hall]
  | benchmark => simp [hbenchmark]
  | powerSweep => simp [hpower]
  | detectorLab => simp [hlab]

theorem Checked.of_passes {r : IpcRequest} (hpasses : s.passes r) :
    s.stopAll.Checked ⟨r, s.hides⟩ ∧ (r.effect ≠ .emergencyReset → s.Checked ⟨r, s.hides⟩) := by
  unfold passes at hpasses
  simp only [Bool.and_eq_true, Bool.not_eq_true', Bool.and_eq_false_iff] at hpasses
  obtain ⟨hlease, hreset⟩ := hpasses
  have hfree : gpuWriteRequiresIdle r → s.gpuOperationRunning = false := by
    intro hidle
    rcases hlease with hno | hfree
    · simp [hno] at hidle
    · exact hfree
  have hhidden : gpuWriteRequiresIdle r → ∀ id op, s.workers id = .running op → s.hides id :=
    fun hidle id op hw => hides_of_running (hfree hidle) hw
  have hlab : (gpuWriteRequiresIdle r ∨ r = .resetManualDiagnosticPoint) →
      (s.handles .detectorLab).running = false := by
    rintro (hidle | rfl)
    · have hfree := hfree hidle
      simp only [gpuOperationRunning, Bool.or_eq_false_iff] at hfree
      exact hfree.2
    · rcases hreset with hno | hlab
      · cases hno
      · exact hlab
  refine ⟨⟨hhidden, ?_, ?_⟩, fun hne => ⟨hhidden, fun heq => absurd heq hne, hlab⟩⟩
  · intro _ op hop
    exact (s.stopAll_handles op).2.2 hop
  · intro hchecked
    rw [(s.stopAll_handles .detectorLab).1]
    exact hlab hchecked

theorem Sound.request {r : IpcRequest} (h : s.Sound) (hs : s.request r = some s') :
    s'.Sound := by
  unfold LeaseState.request at hs
  split at hs
  next => cases hs
  next hnone =>
    split at hs
    next hpasses =>
      obtain ⟨hstopped, hplain⟩ := Checked.of_passes hpasses
      dsimp only at hs
      split at hs
      next =>
        cases hs
        refine ⟨?_, ?_, h.leaving⟩
        · intro serving hserving
          obtain rfl := Option.some.inj hserving
          exact hstopped.frame (fun _ _ hw => hw) (fun _ hstop => hstop) id
        · obtain ⟨hrunning, hstop, -⟩ := s.stopAll_handles .detectorLab
          exact h.lab.frame rfl (fun hup => hrunning.trans hup) hstop
      next hne =>
        cases hs
        refine ⟨?_, h.lab.frame rfl id id, h.leaving⟩
        intro serving hserving
        obtain rfl := Option.some.inj hserving
        exact (hplain hne).frame (fun _ _ hw => hw) (fun _ hstop => hstop) id
    next =>
      cases hs
      exact h

/-- The effect writes or resets the hardware. -/
def writes : RequestEffect → Bool
  | .applies | .appliesManualPoint | .resetsManualPoint | .emergencyReset => true
  | _ => false

theorem checks_of_writes {r : IpcRequest} (h : writes r.effect) :
    r.effect = .emergencyReset ∨ gpuWriteRequiresIdle r ∨ r = .resetManualDiagnosticPoint := by
  cases r <;> first | exact .inl rfl | exact .inr (.inl rfl) | exact .inr (.inr rfl) | cases h

/-- A write comes only while no Detector Lab runs, or once it was told to stop. -/
theorem Checked.lab_stop {serving : Serving} (h : s.Checked serving)
    (hwrites : writes serving.request.effect) (hup : (s.handles .detectorLab).running) :
    (s.handles .detectorLab).stop := by
  rcases checks_of_writes hwrites with hemergency | hchecked
  · exact h.stopped hemergency .detectorLab rfl
  · have hidle := h.labIdle hchecked
    simp [hidle] at hup

/-- A start that goes through. -/
theorem effect_starts {op : GpuOperation} {outcome : RequestOutcome} {worker : Nat}
    (hs : s.effect (.starts op) outcome worker = some s') :
    s' = s ∨ s.startable op ∧ s.workers worker = .ready ∧ s' = s.started op worker := by
  cases outcome with
  | refused => exact .inl (Option.some.inj hs).symm
  | failed | done =>
    simp only [effect] at hs
    split at hs
    next hstartable =>
      split at hs
      next hready => exact .inr ⟨hstartable, hready, (Option.some.inj hs).symm⟩
      next => cases hs
    next => exact .inl (Option.some.inj hs).symm

theorem LabSound.setHandle {op : GpuOperation} {handle : OperationHandle} (h : s.LabSound)
    (hrunning : op = .detectorLab → (s.handles op).running → handle.running)
    (hstop : op = .detectorLab → (s.handles op).stop → handle.stop) :
    (s.setHandle op handle).LabSound := by
  by_cases hop : op = .detectorLab
  · subst hop
    exact h.frame rfl (by simpa [LeaseState.setHandle] using hrunning)
      (by simpa [LeaseState.setHandle] using hstop)
  · exact h.frame rfl (by simp [LeaseState.setHandle, Ne.symm hop])
      (by simp [LeaseState.setHandle, Ne.symm hop])

theorem LabSound.setWorker {worker : Nat} {next : OperationWorker} (h : s.LabSound) :
    (s.setWorker worker next).LabSound := h.frame rfl id id

theorem LabSound.started {op : GpuOperation} {worker : Nat} (h : s.LabSound) :
    (s.started op worker).LabSound := by
  by_cases hop : op = .detectorLab
  · subst hop
    exact .of_quiet (fun _ => by simp [LeaseState.started, LeaseState.setHandle,
      LeaseState.setWorker])
      (by simp [LeaseState.started])
  · exact h.frame (by simp [LeaseState.started, hop])
      (by simp [LeaseState.started, LeaseState.setHandle, LeaseState.setWorker, Ne.symm hop])
      (by simp [LeaseState.started, LeaseState.setHandle, LeaseState.setWorker, Ne.symm hop])

/-- An effect either starts or stops an operation, or leaves the Detector Lab's handle alone and at
most resets its point. -/
theorem effect_lab {e : RequestEffect} {outcome : RequestOutcome} {worker : Nat}
    (hs : s.effect e outcome worker = some s') :
    (∃ op, e = .starts op ∧ (s' = s ∨ s' = s.started op worker)) ∨
      (∃ op, e = .stops op ∧ s' = s.setHandle op { s.handles op with stop := true }) ∨
      (s'.lab = s.lab ∨ writes e ∧ s'.lab = s.lab.reset) ∧
        s'.handles .detectorLab = s.handles .detectorLab := by
  cases e with
  | starts op =>
    left
    rcases effect_starts hs with rfl | ⟨-, -, rfl⟩
    · exact ⟨op, rfl, .inl rfl⟩
    · exact ⟨op, rfl, .inr rfl⟩
  | stops op => exact .inr (.inl ⟨op, rfl, (Option.some.inj hs).symm⟩)
  | reads =>
    obtain rfl := Option.some.inj hs
    exact .inr (.inr ⟨.inl rfl, rfl⟩)
  | applies =>
    cases outcome <;> obtain rfl := Option.some.inj hs
    · exact .inr (.inr ⟨.inl rfl, rfl⟩)
    · exact .inr (.inr ⟨.inr ⟨rfl, rfl⟩, rfl⟩)
    · exact .inr (.inr ⟨.inr ⟨rfl, rfl⟩, rfl⟩)
  | appliesManualPoint =>
    cases outcome <;> obtain rfl := Option.some.inj hs
    · exact .inr (.inr ⟨.inl rfl, rfl⟩)
    · exact .inr (.inr ⟨.inr ⟨rfl, rfl⟩, rfl⟩)
    · exact .inr (.inr ⟨.inr ⟨rfl, rfl⟩, rfl⟩)
  | resetsManualPoint =>
    cases outcome <;> obtain rfl := Option.some.inj hs
    · exact .inr (.inr ⟨.inl rfl, rfl⟩)
    · exact .inr (.inr ⟨.inr ⟨rfl, rfl⟩, rfl⟩)
    · exact .inr (.inr ⟨.inr ⟨rfl, rfl⟩, rfl⟩)
  | emergencyReset =>
    cases outcome <;> obtain rfl := Option.some.inj hs
    · exact .inr (.inr ⟨.inl rfl, rfl⟩)
    · exact .inr (.inr ⟨.inr ⟨rfl, rfl⟩, rfl⟩)
    · exact .inr (.inr ⟨.inr ⟨rfl, rfl⟩, by simp [recovered, setHandle]⟩)

theorem LabSound.effect {e : RequestEffect} {outcome : RequestOutcome} {worker : Nat}
    (h : s.LabSound) (hwrites : writes e → (s.handles .detectorLab).running →
      (s.handles .detectorLab).stop)
    (hs : s.effect e outcome worker = some s') : s'.LabSound := by
  rcases effect_lab hs with ⟨op, -, rfl | rfl⟩ | ⟨op, -, rfl⟩ | ⟨hlab, hhandle⟩
  · exact h
  · exact h.started
  · exact h.setHandle (fun _ hup => hup) (fun _ _ => rfl)
  · rcases hlab with hlab | ⟨hw, hlab⟩
    · exact h.frame hlab (by rw [hhandle]; exact id) (by rw [hhandle]; exact id)
    · exact h.reset hlab (by rw [hhandle]; exact id) (by rw [hhandle]; exact hwrites hw)

theorem effect_serving {e : RequestEffect} {outcome : RequestOutcome} {worker : Nat}
    (hs : s.effect e outcome worker = some s') : s'.serving = s.serving := by
  cases e with
  | starts op =>
    rcases effect_starts hs with rfl | ⟨-, -, rfl⟩
    · rfl
    · rfl
  | stops op => obtain rfl := Option.some.inj hs; rfl
  | reads => obtain rfl := Option.some.inj hs; rfl
  | applies => cases outcome <;> obtain rfl := Option.some.inj hs <;> rfl
  | appliesManualPoint => cases outcome <;> obtain rfl := Option.some.inj hs <;> rfl
  | resetsManualPoint => cases outcome <;> obtain rfl := Option.some.inj hs <;> rfl
  | emergencyReset => cases outcome <;> obtain rfl := Option.some.inj hs <;> rfl

theorem effect_workers {e : RequestEffect} {outcome : RequestOutcome} {worker : Nat}
    (hs : s.effect e outcome worker = some s') :
    s'.workers = s.workers ∨
      ∃ op, s'.workers = (s.setWorker worker (.running op)).workers := by
  cases e with
  | starts op =>
    rcases effect_starts hs with rfl | ⟨-, -, rfl⟩
    · exact .inl rfl
    · exact .inr ⟨op, rfl⟩
  | stops op => obtain rfl := Option.some.inj hs; exact .inl rfl
  | reads => obtain rfl := Option.some.inj hs; exact .inl rfl
  | applies => cases outcome <;> obtain rfl := Option.some.inj hs <;> exact .inl rfl
  | appliesManualPoint => cases outcome <;> obtain rfl := Option.some.inj hs <;> exact .inl rfl
  | resetsManualPoint => cases outcome <;> obtain rfl := Option.some.inj hs <;> exact .inl rfl
  | emergencyReset => cases outcome <;> obtain rfl := Option.some.inj hs <;> exact .inl rfl

theorem setWorker_running {worker id : Nat} {next : OperationWorker} {op : GpuOperation}
    (hnext : ∀ op, next ≠ .running op) (hw : (s.setWorker worker next).workers id = .running op) :
    s.workers id = .running op := by
  by_cases hid : id = worker
  · subst hid
    exact absurd (by simpa [setWorker] using hw) (hnext op)
  · simpa [setWorker, hid] using hw

theorem setWorker_leaving {worker : Nat} {next : OperationWorker}
    (h : ∀ id, s.workers id ≠ .leaving .detectorLab) (hnext : next ≠ .leaving .detectorLab) :
    ∀ id, (s.setWorker worker next).workers id ≠ .leaving .detectorLab := by
  intro id
  by_cases hid : id = worker
  · simpa [setWorker, hid] using hnext
  · simpa [setWorker, hid] using h id

theorem setHandle_stop {op : GpuOperation} {handle : OperationHandle}
    (hkept : (s.handles op).stop → handle.stop) (op' : GpuOperation)
    (hstop : (s.handles op').stop) : ((s.setHandle op handle).handles op').stop := by
  by_cases hop : op' = op
  · subst hop
    simpa [setHandle] using hkept hstop
  · simpa [setHandle, hop] using hstop

theorem Sound.act {outcome : RequestOutcome} {worker : Nat} (h : s.Sound)
    (hs : s.step (.act outcome worker) = some s') : s'.Sound := by
  simp only [step] at hs
  split at hs
  next serving hserving =>
    have hchecked := h.checked serving hserving
    have hnone : s'.serving = none := effect_serving hs
    have hlab : LabSound { s with serving := none } := h.lab.frame rfl id id
    refine ⟨fun serving' hserving' => by simp [hnone] at hserving',
      hlab.effect (fun hwrites hup => hchecked.lab_stop hwrites hup) hs, ?_⟩
    intro id
    rcases effect_workers hs with hworkers | ⟨op, hworkers⟩
    · rw [hworkers]
      exact h.leaving id
    · rw [hworkers]
      exact setWorker_leaving (s := { s with serving := none }) h.leaving (by simp) id
  next => cases hs

/-- The steps of the workers and of the timers. -/
theorem Sound.frame (h : s.Sound) (hserving : s'.serving = s.serving)
    (hworkers : ∀ id op, s'.workers id = .running op → s.workers id = .running op)
    (hstop : ∀ op, (s.handles op).stop → (s'.handles op).stop)
    (hidle : (s.handles .detectorLab).running = false →
      (s'.handles .detectorLab).running = false)
    (hlab : s'.LabSound) (hleaving : ∀ id, s'.workers id ≠ .leaving .detectorLab) :
    s'.Sound := by
  refine ⟨?_, hlab, hleaving⟩
  intro serving hs
  rw [hserving] at hs
  exact (h.checked serving hs).frame hworkers hstop hidle

theorem Sound.publish {worker : Nat} (h : s.Sound) (hs : s.step (.publish worker) = some s') :
    s'.Sound := by
  simp only [step] at hs
  split at hs
  next op hrunning =>
    split at hs
    next => cases hs
    next hop =>
      cases hs
      exact h.frame rfl (fun _ _ hw => hw) (setHandle_stop id) (by simp [setHandle, Ne.symm hop])
        (h.lab.setHandle (fun _ hup => hup) (fun _ hstop => hstop)) h.leaving
  next => cases hs

theorem Sound.unpublish {worker : Nat} (h : s.Sound)
    (hs : s.step (.unpublish worker) = some s') : s'.Sound := by
  simp only [step] at hs
  split at hs
  next op hrunning =>
    split at hs
    next hop =>
      subst hop
      cases hs
      refine h.frame rfl (fun _ _ hw => setWorker_running (by simp) hw) (setHandle_stop id)
        (fun _ => by simp [setHandle, setWorker]) ?_
        (setWorker_leaving (s := s.setHandle _ _) h.leaving (by simp))
      have hended : s.lab.ended = .stopped ∨ s.lab.ended = s.lab ∧ pending s.lab = false := by
        cases s.lab <;> simp [LabStage.ended, pending]
      rcases hended with hended | ⟨hended, hpending⟩
      · exact .of_quiet (by simp [hended, pending]) (by simp [hended])
      · refine .of_quiet (by simp [hended, hpending]) ?_
        simp only [hended]
        refine ⟨?_, h.lab.dwelt, h.lab.validated⟩
        intro hdwelling
        simp [hdwelling, pending] at hpending
    next hop =>
      cases hs
      have hlab : LabSound (s.setHandle op { s.handles op with published := false }) :=
        h.lab.setHandle (fun _ hup => hup) (fun _ hstop => hstop)
      exact h.frame rfl (fun _ _ hw => setWorker_running (by simp) hw) (setHandle_stop id)
        (fun hidle => by simpa [setHandle, setWorker, Ne.symm hop] using hidle) hlab.setWorker
        (setWorker_leaving (s := s.setHandle _ _) h.leaving (by simpa using hop))
  next => cases hs

theorem Sound.release {worker : Nat} (h : s.Sound) (hs : s.step (.release worker) = some s') :
    s'.Sound := by
  simp only [step] at hs
  split at hs
  next op hleaving =>
    cases hs
    have hop : op ≠ .detectorLab := by
      rintro rfl
      exact h.leaving worker hleaving
    exact h.frame rfl (fun _ _ hw => setWorker_running (by simp) hw) (setHandle_stop id)
      (fun hidle => by simpa [setHandle, setWorker, hop.symm] using hidle)
      (h.lab.setHandle (fun heq => absurd heq hop) (fun heq => absurd heq hop)).setWorker
      (setWorker_leaving (s := s.setHandle _ _) h.leaving (by simp))
  next => cases hs

/-- The lab's own steps move its session, and only once it dwelt does it count as validated. -/
theorem Sound.lab_step {lab : LabStage} {manual : ManualPoint} (h : s.Sound)
    (hpending : pending lab → pending s.lab)
    (hlab : lab ≠ .dwelling true ∧ lab ≠ .dwelt true ∧ lab ≠ .validated true) :
    Sound { s with lab, manual } :=
  h.frame rfl (fun _ _ hw => hw) (fun _ hstop => hstop) id
    (.of_quiet (fun hp => h.lab.running (hpending hp)) hlab) h.leaving

theorem Sound.labSteps (h : s.Sound) (hs : s.step .labCalibrate = some s' ∨
    s.step .labReapply = some s' ∨ s.step .labDwellEnd = some s' ∨ s.step .labStop = some s' ∨
    ∃ stable, s.step (.labResult stable) = some s') : s'.Sound := by
  rcases hs with hs | hs | hs | hs | ⟨stable, hs⟩
  · simp only [step] at hs
    split at hs
    next hl =>
      cases hs
      exact h.lab_step (by simp [hl, pending]) (by simp)
    next => cases hs
  · simp only [step] at hs
    split at hs
    next hl =>
      cases hs
      exact h.lab_step (by simp [hl, pending]) (by simp)
    next => cases hs
  · simp only [step] at hs
    split at hs
    next reset hl =>
      split at hs
      next =>
        cases hs
        exact h.lab_step (by simp [pending]) (by simp)
      next hstop =>
        cases hs
        have hreset : reset ≠ true := by
          rintro rfl
          exact hstop (h.lab.stop hl)
        exact h.lab_step (by simp [pending]) (by simpa using hreset)
    next => cases hs
  · simp only [step] at hs
    split at hs
    next =>
      cases hs
      exact h.lab_step (by simp [pending]) (by simp)
    next =>
      cases hs
      exact h.lab_step (by simp [pending]) (by simp)
    next => cases hs
  · simp only [step] at hs
    split at hs
    next reset hl =>
      have hreset : reset ≠ true := by
        rintro rfl
        exact h.lab.dwelt hl
      split at hs
      next =>
        cases hs
        exact h.lab_step (by simp [pending]) (by simpa using hreset)
      next =>
        cases hs
        exact h.lab_step (by simp [pending]) (by simp)
    next => cases hs

theorem Sound.step (h : s.Sound) (hs : s.step a = some s') : s'.Sound := by
  cases a with
  | request r => exact h.request hs
  | act outcome worker => exact h.act hs
  | publish worker => exact h.publish hs
  | unpublish worker => exact h.unpublish hs
  | release worker => exact h.release hs
  | labCalibrate => exact h.labSteps (.inl hs)
  | labReapply => exact h.labSteps (.inr (.inl hs))
  | labDwellEnd => exact h.labSteps (.inr (.inr (.inl hs)))
  | labStop => exact h.labSteps (.inr (.inr (.inr (.inl hs))))
  | labResult stable => exact h.labSteps (.inr (.inr (.inr (.inr ⟨stable, hs⟩))))
  | timer =>
    simp only [LeaseState.step] at hs
    split at hs
    next =>
      cases hs
      exact h.frame rfl (fun _ _ hw => hw) (fun _ hstop => hstop) id (h.lab.frame rfl id id)
        h.leaving
    next => cases hs

/-- A step intrudes exactly when something that runs was hidden from the lease, or is not asked. -/
theorem Sound.intrudes_iff (h : s.Sound) : s.Intrudes a ↔ ¬ s.NothingHidden a := by
  cases a with
  | act outcome worker =>
    constructor
    · rintro ⟨houtcome, serving, hserving, hacts, hbusy, hstopped⟩ hok
      have hchecked := h.checked serving hserving
      have hne : serving.request.effect ≠ .emergencyReset := by
        intro hemergency
        exact hstopped ⟨hemergency, fun id op _ hop => hchecked.stopped hemergency op hop⟩
      have hok := hok houtcome serving hserving hacts hne
      split at hok
      next hidle =>
        obtain ⟨id, op, hw⟩ := hbusy
        have hhidden := hchecked.hidden hidle id op hw
        rw [hok id op hw] at hhidden
        cases hhidden
      next => exact hok hbusy
    · intro hno
      obtain ⟨houtcome, hno⟩ := Classical.not_imp.mp hno
      obtain ⟨serving, hno⟩ := not_forall.mp hno
      obtain ⟨hserving, hno⟩ := Classical.not_imp.mp hno
      obtain ⟨hacts, hno⟩ := Classical.not_imp.mp hno
      obtain ⟨hne, hno⟩ := Classical.not_imp.mp hno
      refine ⟨houtcome, serving, hserving, hacts, ?_, fun hstopped => hne hstopped.1⟩
      split at hno
      next =>
        obtain ⟨id, hno⟩ := not_forall.mp hno
        obtain ⟨op, hno⟩ := not_forall.mp hno
        exact ⟨id, op, (Classical.not_imp.mp hno).1⟩
      next => exact not_not.mp hno
  | timer => exact not_not.symm
  | _ => exact iff_of_false id (fun hno => hno trivial)

end LeaseState

theorem lease_sound {l : List LeaseAction} {s : LeaseState} (h : leaseMachine.Run l s) :
    s.Sound := by
  refine h.invariant ?_ ?_
  · rintro s rfl
    exact ⟨fun _ hs => (by cases hs), .of_quiet (by simp [LeaseState.pending]) (by simp),
      fun id => (by simp)⟩
  · intro s a s' hs hstep
    exact hs.step hstep

/-- Over every run, a step leaves a running operation alone exactly when no request takes effect
beside a worker that the lease did not see or was not asked about; and no dwell counts as validated
after a request reset its point. -/
theorem lease_holds_iff (l : List LeaseAction) (s : LeaseState) (h : leaseMachine.Run l s) :
    s.lab ≠ .validated true ∧
      ∀ a s', s.step a = some s' → (¬ s.Intrudes a ↔ s.NothingHidden a) := by
  have hsound := lease_sound h
  exact ⟨hsound.lab.validated, fun a s' _ => by rw [hsound.intrudes_iff, not_not]⟩

/-- The whole statement, at the state after a Forge run that published its end. -/
theorem lease_holds_after_forge :
    ∃ s, leaseMachine.Run [.request .startPowerSweep, .act .done 0, .publish 0, .unpublish 0] s ∧
      s.lab ≠ .validated true ∧
      ∀ a s', s.step a = some s' → (¬ s.Intrudes a ↔ s.NothingHidden a) :=
  have hrun : leaseMachine.Run [.request .startPowerSweep, .act .done 0, .publish 0,
      .unpublish 0] _ := Machine.run_ofStep_iff.mpr rfl
  ⟨_, hrun, lease_holds_iff _ _ hrun⟩

/-- The manual point is reset in the middle of a Forge run. -/
def resetDuringForge : List LeaseAction :=
  [.request .startPowerSweep, .act .done 0, .publish 0, .request .resetManualDiagnosticPoint]

/-- A memory sweep is started before the core sweep has published that it runs. -/
def startBeforePublished : List LeaseAction :=
  [.request .startRealSweep, .act .done 0, .request .startMemSweep]

/-- A core sweep is started after an emergency reset, beside the Forge's old worker. -/
def startAfterReset : List LeaseAction :=
  [.request .startPowerSweep, .act .done 0, .publish 0, .request .resetGpuTuning, .act .done 0,
    .request .startRealSweep]

/-- Each of the three runs can go on to an intrusion. -/
theorem lease_broken :
    ¬ (∀ l s a s', leaseMachine.Run l s → s.step a = some s' → ¬ s.Intrudes a) ∧
    ∀ l ∈ [resetDuringForge, startBeforePublished, startAfterReset],
      ∃ s s', leaseMachine.Run l s ∧ s.step (.act .done 1) = some s' ∧
        s.Intrudes (.act .done 1) := by
  have hreset : ∃ s s', leaseMachine.Run resetDuringForge s ∧
      s.step (.act .done 1) = some s' ∧ s.Intrudes (.act .done 1) :=
    ⟨_, _, Machine.run_ofStep_iff.mpr rfl, rfl, by decide, _, rfl, rfl, ⟨0, .powerSweep, rfl⟩,
      fun hemergency => nomatch hemergency.1⟩
  have hstart : ∃ s s', leaseMachine.Run startBeforePublished s ∧
      s.step (.act .done 1) = some s' ∧ s.Intrudes (.act .done 1) :=
    ⟨_, _, Machine.run_ofStep_iff.mpr rfl, rfl, by decide, _, rfl, rfl, ⟨0, .realSweep, rfl⟩,
      fun hemergency => nomatch hemergency.1⟩
  have hafter : ∃ s s', leaseMachine.Run startAfterReset s ∧
      s.step (.act .done 1) = some s' ∧ s.Intrudes (.act .done 1) :=
    ⟨_, _, Machine.run_ofStep_iff.mpr rfl, rfl, by decide, _, rfl, rfl, ⟨0, .powerSweep, rfl⟩,
      fun hemergency => nomatch hemergency.1⟩
  refine ⟨fun h => ?_, ?_⟩
  · obtain ⟨s, s', hrun, hstep, hintrudes⟩ := hreset
    exact h _ s _ s' hrun hstep hintrudes
  · intro l hl
    simp only [List.mem_cons, List.not_mem_nil, or_false] at hl
    rcases hl with rfl | rfl | rfl
    · exact hreset
    · exact hstart
    · exact hafter

end Nidavellir

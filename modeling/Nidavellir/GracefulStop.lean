import Nidavellir.StartupDamage
import Nidavellir.StartupFlag

namespace Nidavellir

open Runs SafeLoopStore

/-- Windows stops the service, leaving a marker of the clean shutdown, or the console closes. -/
inductive StopKind
  | service (marker : FileResult)
  | console

/-- How the hardware reset and the file operations of a graceful stop ended. -/
structure GracefulStop where
  kind : StopKind
  clockError : Option String := none
  vfError : Option String := none
  applied : FileResult := .done
  bootFlag : FileResult := .done

/-- Either stop resets the manual point, whether or not one is active. -/
def GracefulStop.run (self : GracefulStop) (dir : DataDir) : DataDir :=
  let dir := (resetAndDisarm self.clockError self.vfError self.applied self.bootFlag dir).2
  match self.kind with
  | .service marker => writeCleanShutdown marker dir
  | .console => dir

/-- `ends` is the end of the operation that armed the boot flag last, `exit` that of the process. -/
inductive ServiceEvent
  | step (e : StartupEvent)
  | ends
  | gracefulStop (stop : GracefulStop)
  | exit

/-- The service over its lives. `busy` says that the operation which armed the boot flag last is
still running. -/
structure ServiceState where
  startup : StartupState
  busy : Bool := false

/-- The persisted profile is replaced, reset or forgotten, or a start finds its pair crashed. -/
def ServiceEvent.replaces : ServiceEvent → Bool
  | .step (.persist _ _ _) | .step (.forget _) | .step (.reset _ _ _ _)
  | .step (.disarm _ _ _ _) => true
  | .step (.reconcile crashSeen _ _) => crashSeen
  | _ => false

namespace ServiceState

def step (s : ServiceState) : ServiceEvent → Option ServiceState
  | .step e =>
    (s.startup.step e).map fun startup =>
      { startup := startup
        busy := !startup.down &&
          (decide (startup.history.arms ≠ s.startup.history.arms) || s.busy) }
  | .ends => some { s with busy := false }
  | .gracefulStop stop =>
    if s.startup.down then none
    else some { s with startup := { s.startup with dir := stop.run s.startup.dir } }
  | .exit => some { startup := { s.startup with down := true, applying := [] } }

/-- The stop left the persisted profile alone, and the flag of an operation that still runs. -/
def Spared (s s' : ServiceState) : Prop :=
  s'.startup.dir.applied = s.startup.dir.applied ∧
    (s.busy = true → s'.startup.dir.bootFlag = s.startup.dir.bootFlag)

/-- The stop cannot reset the hardware, or it finds neither a profile nor the flag of an operation
that still runs, as far as it can remove them. -/
def Spares (s : ServiceState) (stop : GracefulStop) : Prop :=
  stop.clockError.isSome = true ∨ stop.vfError.isSome = true ∨
    (s.startup.dir.applied.present = true → stop.applied.isDone = false) ∧
      (s.busy = true → s.startup.dir.bootFlag.present = true → stop.bootFlag.isDone = false)

def sparing (s : ServiceState) : ServiceEvent → Prop
  | .gracefulStop stop => s.Spares stop
  | _ => True

end ServiceState

def service (dir : DataDir) : Machine ServiceState ServiceEvent :=
  Machine.ofStep { startup := { dir := dir } } ServiceState.step

theorem GracefulStop.run_files (self : GracefulStop) (dir : DataDir) :
    ((self.clockError.isSome = true ∨ self.vfError.isSome = true) ∧
      (self.run dir).applied = dir.applied ∧ (self.run dir).bootFlag = dir.bootFlag) ∨
    (self.clockError.isSome = false ∧ self.vfError.isSome = false ∧
      (self.run dir).applied = self.applied.remove dir.applied ∧
      (self.run dir).bootFlag = self.bootFlag.remove dir.bootFlag) := by
  have hmarker : (self.run dir).applied =
        (resetAndDisarm self.clockError self.vfError self.applied self.bootFlag dir).2.applied ∧
      (self.run dir).bootFlag =
        (resetAndDisarm self.clockError self.vfError self.applied self.bootFlag
          dir).2.bootFlag := by
    unfold GracefulStop.run
    cases self.kind with
    | service marker => exact ⟨rfl, rfl⟩
    | console => exact ⟨rfl, rfl⟩
  rw [hmarker.1, hmarker.2]
  unfold resetAndDisarm
  split
  next herror =>
    rw [Bool.or_eq_true] at herror
    exact .inl ⟨herror, rfl, rfl⟩
  next hnone =>
    rw [Bool.not_eq_true, Bool.or_eq_false_iff] at hnone
    exact .inr ⟨hnone.1, hnone.2, rfl, rfl⟩

structure CleanStart (dir : DataDir) (results : RecoveryResults) : Prop where
  uncrashed : crashFlag dir = none
  cleared : results.clearBootFlag.isDone = true
  safe : (loadRecord dir).safeMode = false
  acknowledged : (loadRecord dir).pendingForgeIncident = none

/-- What a start without a crash in the event log goes on to re-apply. -/
def DataDir.startProfile (dir : DataDir) (bugcheck : CrashClass) (results : RecoveryResults)
    (record applied disarm : FileResult) : Option AppliedProfile :=
  (reapplyOnBoot none disarm
    (startupReconcile false record applied (runStartupRecovery bugcheck results dir).2).2).1

theorem CleanStart.startProfile {dir : DataDir} {results : RecoveryResults}
    (h : CleanStart dir results) (bugcheck : CrashClass) (record applied disarm : FileResult) :
    dir.startProfile bugcheck results record applied disarm = loadApplied dir := by
  obtain ⟨hsafe, hpending⟩ := recover_clean_holds (loadRecord dir)
  have hflag : clearedFlag results dir = .absent := by
    unfold clearedFlag
    rcases results.clearBootFlag.remove_cases
      (if (readBootFlag dir).isSome then results.disarm.remove dir.bootFlag else dir.bootFlag)
      with hgone | hkept
    · exact hgone.2
    · exact absurd (h.cleared.symm.trans hkept.1) (by simp)
  rw [DataDir.startProfile, startupReconcile_uncrashed, runStartupRecovery_clean h.uncrashed]
  set left := saveRecord (recover (loadRecord dir) none .unknown).1 results.saveRecord
    { clearCleanShutdown results.clearCleanShutdown dir with bootFlag := clearedFlag results dir }
    with hleft
  have harmed : isBootFlagArmed left = false := by
    show (clearedFlag results dir).present = false
    rw [hflag]
    rfl
  have hrecord : (loadRecord left).safeMode = false ∧
      (loadRecord left).pendingForgeIncident = none := by
    rw [hleft, loadRecord_saveRecord]
    split
    next => exact ⟨hsafe.trans h.safe, hpending.trans h.acknowledged⟩
    next =>
      split
      next => exact ⟨rfl, rfl⟩
      next => exact ⟨h.safe, h.acknowledged⟩
  unfold reapplyOnBoot
  simp [harmed, hrecord.1, hrecord.2]
  rfl

namespace ServiceState

variable {s s' : ServiceState} {e : ServiceEvent} {stop : GracefulStop}

theorem spared_iff (hs : s.step (.gracefulStop stop) = some s') :
    s.Spared s' ↔ s.Spares stop := by
  simp only [step] at hs
  split at hs
  next => cases hs
  next =>
    obtain rfl := Option.some.inj hs
    unfold Spared Spares
    rcases stop.run_files s.startup.dir with
      ⟨herror, happlied, hflag⟩ | ⟨hclock, hvf, happlied, hflag⟩
    · refine iff_of_true ⟨happlied, fun _ => hflag⟩ ?_
      exact herror.elim Or.inl fun hvf => .inr (.inl hvf)
    · simp only [happlied, hflag, hclock, hvf, FileResult.remove_eq_self_iff, Bool.false_eq_true,
        false_or]

theorem startup_act_applied {t t' : StartupState} {e : StartupEvent}
    (hkeep : (ServiceEvent.step e).replaces = false) (ht : t.act e = some t') :
    t'.dir.applied = t.dir.applied := by
  cases e with
  | persist operator profile result => cases hkeep
  | forget result => cases hkeep
  | reset operator clockError gpuError results => cases hkeep
  | disarm clockError vfError applied bootFlag => cases hkeep
  | reconcile crashSeen record applied =>
    obtain rfl := Option.some.inj ht
    obtain rfl : crashSeen = false := hkeep
    show (startupReconcile false record applied t.dir).2.applied = t.dir.applied
    rw [startupReconcile_uncrashed]
  | reapply rebootRequired disarm timestamp arm =>
    obtain rfl := Option.some.inj ht
    have hdir : (reapplyOnBoot rebootRequired disarm t.dir).2.applied = t.dir.applied := by
      rcases reapplyOnBoot_dir rebootRequired disarm t.dir with hsame | ⟨-, -, hskipped⟩
      · rw [hsame]
      · rw [hskipped]
        rfl
    unfold StartupState.reapplied
    split
    next hre =>
      rw [hre] at hdir
      exact hdir
    next hre =>
      rw [hre] at hdir
      exact hdir
  | apply operator profile timestamp arm =>
    obtain rfl := Option.some.inj ht
    rfl
  | arm flag result =>
    obtain rfl := Option.some.inj ht
    rfl
  | clear result =>
    obtain rfl := Option.some.inj ht
    rfl
  | stop marker =>
    obtain rfl := Option.some.inj ht
    rfl
  | update call result => cases ht
  | crash => cases ht
  | recovery bugcheck results => cases ht

theorem startup_step_applied {t t' : StartupState} {e : StartupEvent}
    (hkeep : (ServiceEvent.step e).replaces = false) (ht : t.step e = some t') :
    t'.dir.applied = t.dir.applied := by
  rcases StartupState.step_cases ht with ⟨-, t₁, hact, rfl⟩ | ⟨call, result, -, -, rfl⟩ |
    ⟨-, rfl⟩ | ⟨bugcheck, results, -, rfl⟩
  · rw [StartupState.released_dir]
    exact startup_act_applied hkeep hact
  · rfl
  · rfl
  · unfold StartupState.recovered
    split
    next => split <;> exact runStartupRecovery_keeps_applied bugcheck results t.dir
    next => exact runStartupRecovery_keeps_applied bugcheck results t.dir

theorem step_applied (hok : s.sparing e) (hkeep : e.replaces = false) (hs : s.step e = some s') :
    s'.startup.dir.applied = s.startup.dir.applied := by
  cases e with
  | step e =>
    obtain ⟨t', ht, rfl⟩ := Option.map_eq_some_iff.mp hs
    exact startup_step_applied hkeep ht
  | ends =>
    obtain rfl := Option.some.inj hs
    rfl
  | gracefulStop stop => exact ((spared_iff hs).mpr hok).1
  | exit =>
    obtain rfl := Option.some.inj hs
    rfl

end ServiceState

/-- A stop spares the persisted profile and the flag of a running operation exactly when it cannot
reset the hardware or finds neither; and after stops that all do, a profile that nothing replaced is
what the next clean start re-applies. -/
theorem gracefulStop_keeps_profile (dir : DataDir) :
    (∀ (s : ServiceState) stop s', s.step (.gracefulStop stop) = some s' →
      (s.Spared s' ↔ s.Spares stop)) ∧
    ∀ l l' s', ((service dir).guarded ServiceState.sparing).Run (l ++ l') s' →
      (∀ e ∈ l', e.replaces = false) →
      ∃ s, ((service dir).guarded ServiceState.sparing).Run l s ∧
        s'.startup.dir.applied = s.startup.dir.applied ∧
        ∀ profile results, s.startup.dir.applied = .holds profile →
          CleanStart s'.startup.dir results → ∀ bugcheck record applied disarm,
            s'.startup.dir.startProfile bugcheck results record applied disarm =
              some profile := by
  refine ⟨fun s stop s' hs => ServiceState.spared_iff hs, fun l l' s' hrun hkeep => ?_⟩
  obtain ⟨s, hs, happlied⟩ : ∃ s, ((service dir).guarded ServiceState.sparing).Run l s ∧
      s'.startup.dir.applied = s.startup.dir.applied := by
    refine hrun.mono_of (p := fun e => e.replaces = false)
      (r := fun s s' => s'.startup.dir.applied = s.startup.dir.applied) (fun _ => rfl) ?_ ?_ hkeep
    · intro s₁ s₂ s₃ h₁ h₂
      exact h₂.trans h₁
    · intro s e s' hkeep hs
      exact ServiceState.step_applied hs.1 hkeep hs.2
  refine ⟨s, hs, happlied, fun profile results hprofile hclean bugcheck record applied disarm => ?_⟩
  rw [hclean.startProfile, loadApplied, StoredFile.read_eq_some_iff, happlied, hprofile]

def survivedApply (profile : AppliedProfile) : List ServiceEvent :=
  [.step (.apply true profile "2026-07-18T21:50:00Z" .done), .step (.persist true profile .done),
    .step (.clear .done), .ends]

instance : (s : ServiceState) → (e : ServiceEvent) → Decidable (s.sparing e)
  | _, .gracefulStop _ => inferInstanceAs (Decidable (_ ∨ _ ∨ _ ∧ _))
  | _, .step _ | _, .ends | _, .exit => inferInstanceAs (Decidable True)

def ServiceState.sparingStep (s : ServiceState) (e : ServiceEvent) : Option ServiceState :=
  if s.sparing e then s.step e else none

theorem ServiceState.step_of_sparingStep {s s' : ServiceState} {e : ServiceEvent}
    (hs : s.sparingStep e = some s') : s.sparing e ∧ s.step e = some s' := by
  unfold sparingStep at hs
  split at hs
  next hok => exact ⟨hok, hs⟩
  next => cases hs

/-- A profile outlives a stop that fails to reset the clock. -/
theorem gracefulStop_keeps_profile_sample : ∃ s',
    ((service {}).guarded ServiceState.sparing).Run
      (survivedApply (anchoredProfile 1800 875) ++
        [.gracefulStop { kind := .console, clockError := some "NVML init" }, .exit]) s' ∧
      s'.startup.dir.startProfile .unknown {} .done .done .done =
        some (anchoredProfile 1800 875) := by
  obtain ⟨s', hrun, hclean⟩ : ∃ s', ((service {}).guarded ServiceState.sparing).Run
      (survivedApply (anchoredProfile 1800 875) ++
        [.gracefulStop { kind := .console, clockError := some "NVML init" }, .exit]) s' ∧
      CleanStart s'.startup.dir {} :=
    ⟨_, Machine.Run.of_foldlM (fun _ _ _ => ServiceState.step_of_sparingStep) rfl rfl,
      ⟨rfl, rfl, rfl, rfl⟩⟩
  have hkeep : ∀ e ∈ [.gracefulStop { kind := .console, clockError := some "NVML init" }, .exit],
      ServiceEvent.replaces e = false := by simp [ServiceEvent.replaces]
  obtain ⟨s, hs, -, hstart⟩ := (gracefulStop_keeps_profile {}).2 _ _ s' hrun hkeep
  have hprofile : s.startup.dir.applied = .holds (anchoredProfile 1800 875) := by
    obtain rfl := Option.some.inj (Machine.run_ofStep_iff.mp hs.of_guarded)
    rfl
  exact ⟨s', hrun, hstart _ {} hprofile hclean _ _ _ _⟩

/-- A stop forgets a profile that survived its window, and the next clean start stays at stock. -/
theorem gracefulStop_forgets_profile :
    (∃ s stop s', (service {}).Run (survivedApply (anchoredProfile 1800 875)) s ∧
      s.step (.gracefulStop stop) = some s' ∧ ¬ s.Spared s' ∧ s.busy = false ∧
      CleanStart s'.startup.dir {} ∧
      s'.startup.dir.startProfile .unknown {} .done .done .done = none) ∧
    ∃ l s stop s', (service {}).Run l s ∧ s.step (.gracefulStop stop) = some s' ∧
      ¬ s.Spared s' ∧ s.busy = true ∧ s.startup.dir.bootFlag.present = true ∧
      s'.startup.dir.bootFlag = .absent := by
  constructor
  · refine ⟨_, { kind := .service .done }, _, Machine.run_ofStep_iff.mpr rfl, rfl, ?_, rfl,
      ⟨rfl, rfl, rfl, rfl⟩, rfl⟩
    rintro ⟨happlied, -⟩
    cases happlied
  · refine ⟨[.step (.arm ⟨.fromAxes [("gpu_freq_mhz", 1800), ("gpu_vf_bin_mv", 875)],
      supervisedF2ForgePhase, "2026-07-18T21:50:00Z"⟩ .done)], _, { kind := .service .done }, _,
      Machine.run_ofStep_iff.mpr rfl, rfl, ?_, rfl, rfl, rfl⟩
    rintro ⟨-, hflag⟩
    cases hflag rfl

end Nidavellir

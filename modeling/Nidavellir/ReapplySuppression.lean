import Nidavellir.SuppressionForgets

namespace Nidavellir

open Runs SafeLoopStore

namespace StartupState

variable {s s' : StartupState} {e : StartupEvent}

theorem Suppressed.reapplied (h : s.Suppressed) {rebootRequired : Option String}
    {disarm : FileResult} {timestamp : String} {arm : FileResult}
    (hok : s.suppresses (.reapply rebootRequired disarm timestamp arm)) :
    (s.reapplied rebootRequired disarm timestamp arm).Suppressed := by
  unfold StartupState.reapplied
  split
  next profile dir hre =>
    have hsome : (reapplyOnBoot rebootRequired disarm s.dir).1 = some profile := by rw [hre]
    obtain ⟨harmed, -, -, hdir⟩ := reapplyOnBoot_eq_some hsome
    obtain rfl : dir = s.dir := by rw [hre] at hdir; exact hdir
    have hunexposed : s.Unexposed := by
      intro pair hpair hexp
      obtain ⟨owner, -, -, hread⟩ := h.covered pair hpair hexp
      rw [readBootFlag, StoredFile.read_of_absent harmed] at hread
      simp at hread
    exact h.applied timestamp (fun _ pair hpair => h.reapply hsome hpair)
      (fun _ pair hpair => Or.inr (hunexposed pair hpair)) (fun _ => hunexposed)
  next dir hre =>
    rcases reapplyOnBoot_dir rebootRequired disarm s.dir with hsame | hskipped
    · obtain rfl : dir = s.dir := by rw [hre] at hsame; exact hsame
      exact h
    · obtain ⟨hreset, harmed, hskipped⟩ := hskipped
      obtain rfl : dir = clearBootFlag disarm s.dir := by
        rw [hre] at hskipped
        exact congrArg Prod.snd hskipped
      exact h.clear fun hdone => hok hreset harmed hdone

theorem Suppressed.act (h : s.Suppressed) (hok : s.suppresses e) (hs : s.act e = some s') :
    s'.Suppressed := by
  cases e with
  | apply operator profile timestamp result =>
    obtain rfl := Option.some.inj hs
    obtain ⟨hother, hdone, htorn⟩ := hok
    exact h.applied timestamp hother hdone htorn
  | persist operator profile result =>
    simp only [StartupState.act] at hs
    split at hs
    next happlying =>
      obtain rfl := Option.some.inj hs
      exact h.persisted result happlying
    next => simp at hs
  | arm flag result =>
    obtain rfl := Option.some.inj hs
    exact h.armed flag (fun hdone crashed hcrashed => Or.inr (hok (Or.inl hdone) crashed hcrashed))
      fun htorn => hok (Or.inr htorn)
  | clear result =>
    obtain rfl := Option.some.inj hs
    exact h.clear hok
  | forget result =>
    obtain rfl := Option.some.inj hs
    exact h.forget result
  | reset operator clockError gpuError results =>
    obtain rfl := Option.some.inj hs
    exact h.wasReset hok
  | disarm clockError vfError applied bootFlag =>
    obtain rfl := Option.some.inj hs
    exact h.disarm hok
  | stop marker =>
    obtain rfl := Option.some.inj hs
    exact h.frame _ (fun _ _ hexp => hexp) (Or.inl rfl)
  | reconcile crashSeen record applied =>
    obtain rfl := Option.some.inj hs
    exact h.reconcile hok
  | reapply rebootRequired disarm timestamp arm =>
    obtain rfl := Option.some.inj hs
    exact h.reapplied hok
  | update call result => simp [StartupState.act] at hs
  | crash => simp [StartupState.act] at hs
  | recovery bugcheck results => simp [StartupState.act] at hs

theorem Suppressed.released (h : s.Suppressed) (e : StartupEvent) : (s.released e).Suppressed := by
  unfold StartupState.released
  split
  next => exact ⟨h.covered, h.applying, h.idle, h.owner_lt, h.left_lt⟩
  next => exact h

theorem Suppressed.step (h : s.Suppressed) (hok : s.suppresses e) (hs : s.step e = some s') :
    s'.Suppressed := by
  rcases step_cases hs with hact | hupdate | hcrash | hrecovery
  · obtain ⟨-, s₁, hact, rfl⟩ := hact
    exact (h.act hok hact).released e
  · obtain ⟨call, result, rfl, hcall, rfl⟩ := hupdate
    exact h.update hcall hok
  · obtain ⟨rfl, rfl⟩ := hcrash
    exact h.afterCrash
  · obtain ⟨bugcheck, results, rfl, rfl⟩ := hrecovery
    exact h.recovered hok

end StartupState

/-- Over every run whose steps meet the condition, no boot writes a pair that crashed under an
apply and that the operator neither applied since nor reset. -/
theorem reapply_never_crashed (dir : DataDir) (events : List StartupEvent) (s : StartupState)
    (h : ((startup dir).guarded StartupState.suppresses).Run events s)
    (rebootRequired : Option String) (disarm : FileResult) (profile : AppliedProfile)
    (pair : UndervoltApply)
    (hre : (reapplyOnBoot rebootRequired disarm s.dir).1 = some profile)
    (hpair : profile.undervolt = some pair) : pair ∉ s.crashedPairs := by
  have hinv : s.Suppressed := by
    refine h.invariant (I := StartupState.Suppressed) ?_ ?_
    · intro s hs
      obtain rfl := hs
      exact ⟨by simp, by simp, by simp, by simp, by simp⟩
    · intro s e s' hs hnext
      obtain ⟨hok, hstep⟩ := hnext
      exact hs.step hok hstep
  exact hinv.reapply hre hpair

/-- The machine crashes within the survival window of an apply, and the next boot accounts it. -/
def crashedInWindow : List StartupEvent :=
  [] ++ [.apply true (anchoredProfile 1845 856) "" .done] ++
    [.persist true (anchoredProfile 1845 856) .done] ++ [.crash] ++ [.recovery .ocInstability {}]

/-- Where the reconciliation forgets the crashed pair, later boots write only the pair that the
operator applies after it. -/
theorem reapply_never_crashed_after_reconcile :
    ∃ s, ((startup {}).guarded StartupState.suppresses).Run
        (crashedInWindow ++ [.reconcile true .done .done] ++ [.reapply none .done "" .done] ++
          [.apply true (anchoredProfile 1845 862) "" .done] ++
          [.persist true (anchoredProfile 1845 862) .done] ++ [.clear .done] ++
          [.recovery .unknown {}]) s ∧
      s.crashedPairs = [⟨1845, 856⟩] ∧
      (reapplyOnBoot none .done s.dir).1 = some (anchoredProfile 1845 862) ∧
      ⟨1845, 862⟩ ∉ s.crashedPairs := by
  have hrun : ∃ s, ((startup {}).guarded StartupState.suppresses).Run
        (crashedInWindow ++ [.reconcile true .done .done] ++ [.reapply none .done "" .done] ++
          [.apply true (anchoredProfile 1845 862) "" .done] ++
          [.persist true (anchoredProfile 1845 862) .done] ++ [.clear .done] ++
          [.recovery .unknown {}]) s ∧
      s.crashedPairs = [⟨1845, 856⟩] ∧
      (reapplyOnBoot none .done s.dir).1 = some (anchoredProfile 1845 862) := by
    refine ⟨_, .next (.next (.next (.next (.next (.next (.next (.next (.next (.next (.start rfl)
      ⟨?_, rfl⟩) ⟨trivial, rfl⟩) ⟨trivial, rfl⟩) ⟨?_, rfl⟩) ⟨?_, rfl⟩) ⟨?_, rfl⟩) ⟨?_, rfl⟩)
      ⟨trivial, rfl⟩) ⟨?_, rfl⟩) ⟨?_, rfl⟩, rfl, rfl⟩
    · exact ⟨fun hother => absurd hother.symm Bool.false_ne_true,
        fun _ pair hpair => absurd hpair List.not_mem_nil,
        fun htorn => absurd htorn Bool.false_ne_true⟩
    · exact ⟨fun hnone => absurd hnone (Option.some_ne_none _),
        fun htorn => absurd htorn Bool.false_ne_true⟩
    · intro htorn
      exact absurd htorn Bool.false_ne_true
    · intro _ _ _ pair _ hexp
      exact Option.some_ne_none _ hexp.1.symm
    · refine ⟨fun hother => absurd hother.symm Bool.false_ne_true, ?_,
        fun htorn => absurd htorn Bool.false_ne_true⟩
      intro _ pair _
      exact Or.inr fun hexp => Option.some_ne_none _ hexp.1.symm
    · intro _ pair hpair hexp
      obtain rfl := List.mem_singleton.mp hpair
      have happlied : some (⟨1845, 862⟩ : UndervoltApply) = some ⟨1845, 856⟩ := hexp.1
      simp at happlied
    · exact ⟨fun _ harmed => absurd harmed Bool.false_ne_true,
        fun htorn => absurd htorn Bool.false_ne_true⟩
  obtain ⟨s, hrun, hcrashed, hre⟩ := hrun
  exact ⟨s, hrun, hcrashed, hre, reapply_never_crashed {} _ s hrun none .done _ _ hre rfl⟩

/-- The flag suppresses the crashed pair for one boot; the boot after it writes the pair again. -/
theorem reapply_writes_crashed_pair :
    ¬ ∀ (dir : DataDir) events s, (startup dir).Run events s →
      ∀ rebootRequired disarm profile pair,
        (reapplyOnBoot rebootRequired disarm s.dir).1 = some profile →
        profile.undervolt = some pair → pair ∉ s.crashedPairs := by
  intro h
  have hrun : ∃ s, (startup {}).Run (crashedInWindow ++ [.reapply none .done "" .done] ++
        [.recovery .unknown {}]) s ∧
      (reapplyOnBoot none .done s.dir).1 = some (anchoredProfile 1845 856) ∧
        ⟨1845, 856⟩ ∈ s.crashedPairs :=
    ⟨_, .next (.next (.next (.next (.next (.next (.start rfl) rfl) rfl) rfl) rfl) rfl) rfl, rfl,
      List.mem_singleton_self _⟩
  obtain ⟨s, hrun, hre, hcrashed⟩ := hrun
  exact h {} _ s hrun none .done _ _ hre rfl hcrashed

end Nidavellir

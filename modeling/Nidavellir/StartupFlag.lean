import Nidavellir.StartupRuns

namespace Nidavellir

open SafeLoopStore

namespace StartupState

variable {s s' : StartupState} {e : StartupEvent}

/-- The flag file was left alone, or no longer holds a flag. -/
structure KeepsFlag (s s' : StartupState) : Prop where
  history : s'.history = s.history
  down : s'.down = s.down
  bootFlag : s'.dir.bootFlag = s.dir.bootFlag ∨ s'.dir.bootFlag.read = none

/-- A flag was armed. -/
structure Arms (s s' : StartupState) : Prop where
  history : ∃ pair, s'.history = s.history.arm pair
  down : s'.down = s.down
  bootFlag : s'.dir.bootFlag.read.isSome

theorem armed_done (s : StartupState) (pair : Option UndervoltApply) (flag : BootFlag)
    {result : FileResult} (h : result.isDone = true) :
    s.armed pair flag result =
      { s with dir := armBootFlag flag result s.dir, history := s.history.arm pair } := by
  simp [armed, h]

theorem armed_failed (s : StartupState) (pair : Option UndervoltApply) (flag : BootFlag)
    {result : FileResult} (h : result.isDone = false) :
    s.armed pair flag result = { s with dir := armBootFlag flag result s.dir } := by
  simp [armed, h]

theorem armed_flag (s : StartupState) (pair : Option UndervoltApply) (flag : BootFlag)
    (result : FileResult) :
    KeepsFlag s (s.armed pair flag result) ∨ Arms s (s.armed pair flag result) := by
  rcases result.write_cases flag s.dir.bootFlag with h | h | h
  · rw [s.armed_done pair flag h.1]
    refine Or.inr ⟨⟨pair, rfl⟩, rfl, ?_⟩
    rw [armBootFlag, h.2]
    rfl
  · rw [s.armed_failed pair flag h.1]
    refine Or.inl ⟨rfl, rfl, Or.inr ?_⟩
    rw [armBootFlag, h.2.2]
    rfl
  · rw [s.armed_failed pair flag h.1]
    exact Or.inl ⟨rfl, rfl, Or.inl h.2.2⟩

theorem applied_flag (s : StartupState) (operator : Bool) (profile : AppliedProfile)
    (timestamp : String) (result : FileResult) :
    KeepsFlag s (s.applied operator profile timestamp result) ∨
      Arms s (s.applied operator profile timestamp result) := by
  rcases s.armed_flag profile.undervolt (profile.bootFlag timestamp) result with h | h
  · exact Or.inl ⟨h.history, h.down, h.bootFlag⟩
  · exact Or.inr ⟨h.history, h.down, h.bootFlag⟩

theorem reapplied_flag (s : StartupState) (rebootRequired : Option String)
    (disarm : FileResult) (timestamp : String) (arm : FileResult) :
    KeepsFlag s (s.reapplied rebootRequired disarm timestamp arm) ∨
      Arms s (s.reapplied rebootRequired disarm timestamp arm) := by
  have hdir := reapplyOnBoot_dir rebootRequired disarm s.dir
  unfold reapplied
  split
  next profile dir hre =>
    rw [hre] at hdir
    rcases hdir with hsame | hnone
    · obtain rfl : dir = s.dir := hsame
      exact applied_flag s false profile timestamp arm
    · simp at hnone
  next dir hre =>
    rw [hre] at hdir
    rcases hdir with hsame | hcleared
    · exact Or.inl ⟨rfl, rfl, Or.inl (congrArg DataDir.bootFlag hsame)⟩
    · obtain rfl : dir = clearBootFlag disarm s.dir := congrArg Prod.snd hcleared.2.2
      exact Or.inl ⟨rfl, rfl, disarm.read_remove s.dir.bootFlag⟩

theorem reset_bootFlag (clockError gpuError : Option String) (results : ResetResults)
    (dir : DataDir) :
    (reset clockError gpuError results dir).2.bootFlag = dir.bootFlag ∨
      (reset clockError gpuError results dir).2.bootFlag.read = none := by
  rcases reset_cases clockError gpuError results dir with hstopped | hdone
  · exact Or.inl (congrArg DataDir.bootFlag hstopped.2)
  · rw [hdone.2.2.1]
    exact results.bootFlag.read_remove dir.bootFlag

theorem resetAndDisarm_bootFlag (clockError vfError : Option String)
    (applied bootFlag : FileResult) (dir : DataDir) :
    (resetAndDisarm clockError vfError applied bootFlag dir).2.bootFlag = dir.bootFlag ∨
      (resetAndDisarm clockError vfError applied bootFlag dir).2.bootFlag.read = none := by
  rcases resetAndDisarm_cases clockError vfError applied bootFlag dir with hsame | hdone
  · exact Or.inl (congrArg DataDir.bootFlag hsame)
  · rw [hdone.2.2]
    exact bootFlag.read_remove dir.bootFlag

theorem startupReconcile_bootFlag (crashSeen : Bool) (record applied : FileResult)
    (dir : DataDir) :
    (startupReconcile crashSeen record applied dir).2.bootFlag = dir.bootFlag := by
  unfold startupReconcile
  split
  next => rfl
  next uv huv =>
    split
    next => exact (persistFieldFailure_files uv.targetMhz uv.anchorMv record dir).1
    next => rfl

/-- What a running process does to the flag. -/
theorem act_flag (h : s.act e = some s') : KeepsFlag s s' ∨ Arms s s' := by
  cases e with
  | apply operator profile timestamp result =>
    obtain rfl := Option.some.inj h
    exact s.applied_flag operator profile timestamp result
  | persist operator profile result =>
    simp only [act] at h
    split at h
    next =>
      obtain rfl := Option.some.inj h
      exact Or.inl ⟨rfl, rfl, Or.inl rfl⟩
    next => simp at h
  | arm flag result =>
    obtain rfl := Option.some.inj h
    exact s.armed_flag none flag result
  | clear result =>
    obtain rfl := Option.some.inj h
    exact Or.inl ⟨rfl, rfl, result.read_remove s.dir.bootFlag⟩
  | forget result =>
    obtain rfl := Option.some.inj h
    exact Or.inl ⟨rfl, rfl, Or.inl rfl⟩
  | reset operator clockError gpuError results =>
    obtain rfl := Option.some.inj h
    exact Or.inl ⟨rfl, rfl, reset_bootFlag clockError gpuError results s.dir⟩
  | disarm clockError vfError applied bootFlag =>
    obtain rfl := Option.some.inj h
    exact Or.inl ⟨rfl, rfl, resetAndDisarm_bootFlag clockError vfError applied bootFlag s.dir⟩
  | stop marker =>
    obtain rfl := Option.some.inj h
    exact Or.inl ⟨rfl, rfl, Or.inl rfl⟩
  | reconcile crashSeen record applied =>
    obtain rfl := Option.some.inj h
    exact Or.inl ⟨rfl, rfl, Or.inl (startupReconcile_bootFlag crashSeen record applied s.dir)⟩
  | reapply rebootRequired disarm timestamp arm =>
    obtain rfl := Option.some.inj h
    exact s.reapplied_flag rebootRequired disarm timestamp arm
  | update call result => simp [act] at h
  | crash => simp [act] at h
  | recovery bugcheck results => simp [act] at h

/-- The clear of a re-apply leaves no flag. -/
theorem reapplied_removesFlag (s : StartupState) {disarm : FileResult} (h : disarm.isDone = true)
    (timestamp : String) (arm : FileResult) :
    (s.reapplied none disarm timestamp arm).history.retained = false ∨
      readBootFlag (s.reapplied none disarm timestamp arm).dir = none := by
  cases harmed : isBootFlagArmed s.dir with
  | true =>
    right
    have hskipped : reapplyOnBoot none disarm s.dir = (none, clearBootFlag disarm s.dir) := by
      simp [reapplyOnBoot, harmed]
    rcases disarm.remove_cases s.dir.bootFlag with ⟨-, hgone⟩ | ⟨hfailed, -⟩
    · simp [reapplied, hskipped, readBootFlag, clearBootFlag, hgone, StoredFile.read]
    · simp [hfailed] at h
  | false =>
    have hnone : s.dir.bootFlag.read = none := StoredFile.read_of_absent harmed
    have hdir : (reapplyOnBoot none disarm s.dir).2 = s.dir := by
      rcases reapplyOnBoot_dir none disarm s.dir with hsame | ⟨-, harmed', -⟩
      · exact hsame
      · simp [harmed] at harmed'
    unfold reapplied
    split
    next profile dir hre =>
      obtain rfl : dir = s.dir := by rw [← hdir, hre]
      rcases applied_flag s false profile timestamp arm with hkeep | harms
      · right
        rcases hkeep.bootFlag with hsame | hgone
        · exact (congrArg StoredFile.read hsame).trans hnone
        · exact hgone
      · obtain ⟨pair, hhistory⟩ := harms.history
        exact .inl (by rw [hhistory]; rfl)
    next dir hre =>
      obtain rfl : dir = s.dir := by rw [← hdir, hre]
      exact .inr hnone

/-- After a step that removes a retained flag there is none, or a new one. -/
theorem act_removesFlag (h : s.act e = some s') (he : e.removesFlag = true) :
    s'.history.retained = false ∨ readBootFlag s'.dir = none := by
  have hremoved : ∀ {result : FileResult} {file : StoredFile BootFlag}, result.isDone = true →
      (result.remove file).read = none := by
    intro result file hdone
    rcases result.remove_cases file with ⟨-, hgone⟩ | ⟨hfailed, -⟩
    · rw [hgone]
      rfl
    · simp [hdone] at hfailed
  cases e with
  | clear result =>
    obtain rfl := Option.some.inj h
    exact .inr (hremoved he)
  | reset operator clockError gpuError results =>
    obtain rfl := Option.some.inj h
    simp only [StartupEvent.removesFlag, Bool.and_eq_true, Option.isNone_iff_eq_none] at he
    obtain ⟨⟨rfl, rfl⟩, hdone⟩ := he
    exact .inr (hremoved hdone)
  | disarm clockError vfError applied bootFlag =>
    obtain rfl := Option.some.inj h
    simp only [StartupEvent.removesFlag, Bool.and_eq_true, Option.isNone_iff_eq_none] at he
    obtain ⟨⟨rfl, rfl⟩, hdone⟩ := he
    exact .inr (hremoved hdone)
  | reapply rebootRequired disarm timestamp arm =>
    obtain rfl := Option.some.inj h
    simp only [StartupEvent.removesFlag, Bool.and_eq_true, Option.isNone_iff_eq_none] at he
    obtain ⟨rfl, hdone⟩ := he
    exact s.reapplied_removesFlag hdone timestamp arm
  | _ => cases he

/-- The four kinds of steps. -/
theorem step_cases (h : s.step e = some s') :
    s.down = false ∧ (∃ s₁, s.act e = some s₁ ∧ s' = s₁.released e) ∨
      (∃ call result, e = .update call result ∧ call.keepsLatch = true ∧
        s' = { s with dir := saveRecord ((loadRecord s.dir).after call) result s.dir }) ∨
      e = .crash ∧ s' = s.afterCrash ∨
      ∃ bugcheck results, e = .recovery bugcheck results ∧
        s' = s.recovered bugcheck results := by
  cases e with
  | crash => exact Or.inr (Or.inr (Or.inl ⟨rfl, (Option.some.inj h).symm⟩))
  | recovery bugcheck results =>
    exact Or.inr (Or.inr (Or.inr ⟨bugcheck, results, rfl, (Option.some.inj h).symm⟩))
  | update call result =>
    simp only [step] at h
    split at h
    next hcall =>
      exact Or.inr (Or.inl ⟨call, result, rfl, hcall, (Option.some.inj h).symm⟩)
    next => simp at h
  | _ =>
    simp only [step] at h
    split at h
    next => simp at h
    next hdown =>
      obtain ⟨s₁, hact, rfl⟩ := Option.map_eq_some_iff.mp h
      exact Or.inl ⟨by simpa using hdown, s₁, hact, rfl⟩

/-- A recovery that finds a crash and saves the record. -/
theorem recovered_saved {flag : BootFlag} {arm : Arm} (hflag : crashFlag s.dir = some flag)
    (howner : s.history.owner = some arm) (bugcheck : CrashClass) {results : RecoveryResults}
    (hsaved : results.saveRecord.isDone = true) :
    s.recovered bugcheck results =
      { s with
        dir := (runStartupRecovery bugcheck results s.dir).2
        down := false
        history :=
          { s.history with
            retained := true
            accountings :=
              s.history.accountings ++ [⟨arm, flag, bugcheck, loadRecord s.dir,
                (recover (loadRecord s.dir) (some flag) bugcheck).1⟩] }
        crashedPairs :=
          if arm ∈ s.history.left then arm.pair.toList ++ s.crashedPairs
          else s.crashedPairs } := by
  unfold recovered
  rw [hflag, howner]
  simp only [hsaved, if_true, runStartupRecovery_armed hflag]

/-- Any other recovery. -/
theorem recovered_other
    (h : crashFlag s.dir = none ∨ s.history.owner = none) (bugcheck : CrashClass)
    (results : RecoveryResults) :
    s.recovered bugcheck results =
      { s with dir := (runStartupRecovery bugcheck results s.dir).2, down := false } := by
  unfold recovered
  rcases h with hflag | howner
  · rw [hflag]
  · rw [howner]
    cases crashFlag s.dir <;> rfl

theorem recovered_unsaved (bugcheck : CrashClass) {results : RecoveryResults}
    (h : results.saveRecord.isDone = false) :
    s.recovered bugcheck results =
      { s with dir := (runStartupRecovery bugcheck results s.dir).2, down := false } := by
  unfold recovered
  split
  next => simp [h]
  next => rfl

end StartupState

end Nidavellir

import Nidavellir.Startup

namespace Nidavellir

open SafeLoopStore

/-- The flag that startup recovery takes for a crash. -/
def crashFlag (dir : DataDir) : Option BootFlag :=
  if isCleanShutdownPresent dir then none else readBootFlag dir

theorem crashFlag_eq_some_iff {dir : DataDir} {flag : BootFlag} :
    crashFlag dir = some flag ↔
      dir.bootFlag = .holds flag ∧ isCleanShutdownPresent dir = false := by
  unfold crashFlag
  split
  next h => simp [h]
  next h => simp [readBootFlag, h]

theorem retainBootFlag_armed (flag : BootFlag) (bugcheck : CrashClass)
    (record : SafeLoopRecord) :
    retainBootFlagUntilReapply (decideRecovery (some flag) bugcheck record) = true := by
  rw [decideRecovery_armed]
  split <;> rfl

theorem retainBootFlag_clean (bugcheck : CrashClass) (record : SafeLoopRecord) :
    retainBootFlagUntilReapply (decideRecovery none bugcheck record) = false := by
  unfold decideRecovery
  dsimp only
  split
  next => rfl
  next => split <;> rfl

/-- An accounted crash: the record learns it, the flag stays. -/
theorem runStartupRecovery_armed {dir : DataDir} {flag : BootFlag}
    (h : crashFlag dir = some flag) (bugcheck : CrashClass) (results : RecoveryResults) :
    runStartupRecovery bugcheck results dir =
      ((recover (loadRecord dir) (some flag) bugcheck).1,
        saveRecord (recover (loadRecord dir) (some flag) bugcheck).1 results.saveRecord
          (clearCleanShutdown results.clearCleanShutdown dir)) := by
  obtain ⟨hflag, hmarker⟩ := crashFlag_eq_some_iff.mp h
  have hread : readBootFlag dir = some flag := by simp [readBootFlag, hflag]
  unfold runStartupRecovery
  simp [hread, hmarker, retainBootFlag_armed, recover]

/-- What a recovery that finds no crash leaves of the flag file. -/
def clearedFlag (results : RecoveryResults) (dir : DataDir) : StoredFile BootFlag :=
  results.clearBootFlag.remove
    (if (readBootFlag dir).isSome then results.disarm.remove dir.bootFlag else dir.bootFlag)

theorem clearedFlag_cases (results : RecoveryResults) (dir : DataDir) :
    clearedFlag results dir = .absent ∨ clearedFlag results dir = dir.bootFlag := by
  unfold clearedFlag
  split
  next =>
    rcases results.disarm.remove_cases dir.bootFlag with hgone | hsame
    · rw [hgone.2, FileResult.remove_absent]
      exact Or.inl rfl
    · rw [hsame.2]
      exact (results.clearBootFlag.remove_cases dir.bootFlag).imp And.right And.right
  next => exact (results.clearBootFlag.remove_cases dir.bootFlag).imp And.right And.right

/-- No crash: the flag is cleared, whatever the file holds. -/
theorem runStartupRecovery_clean {dir : DataDir} (h : crashFlag dir = none)
    (bugcheck : CrashClass) (results : RecoveryResults) :
    runStartupRecovery bugcheck results dir =
      ((recover (loadRecord dir) none .unknown).1,
        saveRecord (recover (loadRecord dir) none .unknown).1 results.saveRecord
          { clearCleanShutdown results.clearCleanShutdown dir with
            bootFlag := clearedFlag results dir }) := by
  cases hr : readBootFlag dir with
  | none =>
    unfold runStartupRecovery clearedFlag
    simp [hr, retainBootFlag_clean, recover, clearBootFlag, clearCleanShutdown]
  | some flag =>
    have hmarker : isCleanShutdownPresent dir = true := by
      cases hm : isCleanShutdownPresent dir with
      | true => rfl
      | false => simp [crashFlag, hm, hr] at h
    unfold runStartupRecovery clearedFlag
    simp [hr, hmarker, retainBootFlag_clean, recover, clearBootFlag, clearCleanShutdown]

theorem runStartupRecovery_keeps_applied (bugcheck : CrashClass) (results : RecoveryResults)
    (dir : DataDir) : (runStartupRecovery bugcheck results dir).2.applied = dir.applied := by
  cases hflag : crashFlag dir with
  | none =>
    rw [runStartupRecovery_clean hflag]
    rfl
  | some flag =>
    rw [runStartupRecovery_armed hflag]
    rfl

theorem startupReconcile_uncrashed (record applied : FileResult) (dir : DataDir) :
    startupReconcile false record applied dir = (false, dir) := by
  unfold startupReconcile
  split
  next => rfl
  next => rfl

/-- The re-apply leaves the directory alone, but for a flag it skips. -/
theorem reapplyOnBoot_dir (rebootRequired : Option String) (disarm : FileResult)
    (dir : DataDir) :
    (reapplyOnBoot rebootRequired disarm dir).2 = dir ∨
      rebootRequired = none ∧ isBootFlagArmed dir = true ∧
        reapplyOnBoot rebootRequired disarm dir = (none, clearBootFlag disarm dir) := by
  unfold reapplyOnBoot
  split
  next => exact Or.inl rfl
  next hreset =>
    split
    next harmed => exact Or.inr ⟨by simpa using hreset, harmed, rfl⟩
    next =>
      dsimp only
      split
      next => exact Or.inl rfl
      next => split <;> exact Or.inl rfl

/-- The guards and the loaded profile of a re-apply that goes on. -/
theorem reapplyOnBoot_eq_some {rebootRequired : Option String} {disarm : FileResult}
    {dir : DataDir} {profile : AppliedProfile}
    (h : (reapplyOnBoot rebootRequired disarm dir).1 = some profile) :
    isBootFlagArmed dir = false ∧ (loadRecord dir).safeMode = false ∧
      loadApplied dir = some profile ∧ (reapplyOnBoot rebootRequired disarm dir).2 = dir := by
  unfold reapplyOnBoot at h ⊢
  split at h
  next => simp at h
  next hreset =>
    split at h
    next => simp at h
    next harmed =>
      dsimp only at h
      split at h
      next => simp at h
      next hsafe =>
        split at h
        next => simp at h
        next hpending =>
          refine ⟨by simpa using harmed, by simpa using hsafe, h, ?_⟩
          simp [hreset, harmed, hsafe, hpending]

theorem reapplyOnBoot_eq_none_iff (rebootRequired : Option String) (disarm : FileResult)
    (dir : DataDir) :
    (reapplyOnBoot rebootRequired disarm dir).1 = none ↔
      rebootRequired.isSome ∨ isBootFlagArmed dir = true ∨ (loadRecord dir).safeMode = true ∨
        (loadRecord dir).pendingForgeIncident.isSome ∨ loadApplied dir = none := by
  unfold reapplyOnBoot
  split
  next hreset => simp [hreset]
  next hreset =>
    split
    next harmed => simp [harmed]
    next harmed =>
      dsimp only
      split
      next hsafe => simp [hsafe]
      next hsafe =>
        split
        next hpending => simp [hpending]
        next hpending => simp [hreset, harmed, hsafe, hpending]

theorem loadRecord_saveRecord (record : SafeLoopRecord) (result : FileResult) (dir : DataDir) :
    loadRecord (saveRecord record result dir) =
      if result.isDone then record else if result.isTorn then {} else loadRecord dir := by
  unfold loadRecord saveRecord
  rcases result.write_cases record dir.record with hw | hw | hw
  · simp [hw.1, hw.2, StoredFile.read]
  · simp [hw.1, hw.2.1, hw.2.2, StoredFile.read]
  · simp [hw.1, hw.2.1, hw.2.2]

/-- A reset either stops at the hardware and leaves every file, or clears all three files it is
about and reports success where the writes of the record and of the flag succeed. -/
theorem reset_cases (clockError gpuError : Option String) (results : ResetResults)
    (dir : DataDir) :
    ((reset clockError gpuError results dir).1.isOk = false ∧
      (reset clockError gpuError results dir).2 = dir) ∨
    (clockError = none ∧ gpuError = none ∧
      (reset clockError gpuError results dir).2 =
        clearBootFlag results.bootFlag (saveRecord (loadRecord dir).clearRecoveryLatch
          results.record (clearApplied results.applied dir)) ∧
      (results.record.isDone = true → results.bootFlag.isDone = true →
        (reset clockError gpuError results dir).1.isOk = true)) := by
  by_cases hstopped : clockError.isSome || gpuError.isSome
  · left
    simp [reset, hstopped, Except.isOk, Except.toBool]
  · obtain ⟨rfl, rfl⟩ : clockError = none ∧ gpuError = none := by simpa using hstopped
    refine Or.inr ⟨rfl, rfl, rfl, ?_⟩
    intro hrecord hflag
    cases hr : results.record with
    | failed => simp [hr, FileResult.isDone] at hrecord
    | done =>
      cases hf : results.bootFlag with
      | failed => simp [hf, FileResult.isDone] at hflag
      | done =>
        have hok : (reset none none results dir).1 = .ok () := by
          simp [reset, hr, hf, FileResult.error]
        rw [hok]
        rfl

theorem resetAndDisarm_cases (clockError vfError : Option String)
    (applied bootFlag : FileResult) (dir : DataDir) :
    (resetAndDisarm clockError vfError applied bootFlag dir).2 = dir ∨
      clockError = none ∧ vfError = none ∧
        (resetAndDisarm clockError vfError applied bootFlag dir).2 =
          clearBootFlag bootFlag (clearApplied applied dir) := by
  unfold resetAndDisarm
  split
  next => exact Or.inl rfl
  next hnone =>
    obtain ⟨hclock, hvf⟩ : clockError = none ∧ vfError = none := by simpa using hnone
    exact Or.inr ⟨hclock, hvf, rfl⟩

theorem persistFieldFailure_files (targetMhz failedMv : Nat) (result : FileResult)
    (dir : DataDir) :
    (persistFieldFailure targetMhz failedMv result dir).bootFlag = dir.bootFlag ∧
      (persistFieldFailure targetMhz failedMv result dir).applied = dir.applied := by
  unfold persistFieldFailure
  dsimp only
  split
  next => exact ⟨rfl, rfl⟩
  next => exact ⟨rfl, rfl⟩

end Nidavellir

import Nidavellir.Suppression

namespace Nidavellir

open SafeLoopStore

namespace StartupState

variable {s : StartupState}

theorem Suppressed.clear (h : s.Suppressed) {result : FileResult}
    (hok : s.suppresses (.clear result)) :
    { s with dir := clearBootFlag result s.dir }.Suppressed := by
  refine h.frame _ (fun _ _ hexp => hexp) ?_
  rcases result.remove_cases s.dir.bootFlag with hgone | hsame
  · exact Or.inr ⟨by rw [clearBootFlag, hgone.2]; rfl, hok hgone.1⟩
  · exact Or.inl hsame.2

theorem Suppressed.forget (h : s.Suppressed) (result : FileResult) :
    { s with dir := clearApplied result s.dir }.Suppressed := by
  refine h.frame _ ?_ (Or.inl rfl)
  intro pair hpair hexp
  have hload : (result.remove s.dir.applied).read.bind (·.undervolt) = some pair := hexp.1
  rcases result.remove_cases s.dir.applied with hgone | hsame
  · rw [hgone.2] at hload
    simp [StoredFile.read] at hload
  · rw [hsame.2] at hload
    exact ⟨hload, hexp.2⟩

theorem Suppressed.update (h : s.Suppressed) {call : SafeLoopCall} {result : FileResult}
    (hcall : call.keepsLatch = true) (hok : s.suppresses (.update call result)) :
    { s with dir := saveRecord ((loadRecord s.dir).after call) result s.dir }.Suppressed := by
  refine h.frame _ (exposes_of_saveRecord s _ ?_ hok rfl rfl) (Or.inl rfl)
  intro hsafe
  rw [after_safeMode hcall]
  exact hsafe

/-- Once the persisted profile is gone, nothing is exposed. -/
theorem Suppressed.forgotten (h : s.Suppressed) {dir : DataDir} (happlied : dir.applied = .absent)
    (hflag : dir.bootFlag = s.dir.bootFlag ∨ dir.bootFlag.read = none) :
    { s with dir := dir }.Suppressed := by
  have hnone : { s with dir := dir }.Unexposed := by
    intro pair hpair hexp
    have hload : dir.applied.read.bind (·.undervolt) = some pair := hexp.1
    rw [happlied] at hload
    simp [StoredFile.read] at hload
  exact h.frame _ (fun pair hpair hexp => absurd hexp (hnone pair hpair))
    (hflag.imp_right fun hread => ⟨hread, hnone⟩)

theorem Suppressed.disarm (h : s.Suppressed) {clockError vfError : Option String}
    {applied bootFlag : FileResult}
    (hok : s.suppresses (.disarm clockError vfError applied bootFlag)) :
    { s with
      dir := (resetAndDisarm clockError vfError applied bootFlag s.dir).2 }.Suppressed := by
  rcases resetAndDisarm_cases clockError vfError applied bootFlag s.dir with hsame | hdone
  · rw [hsame]
    exact h
  · obtain ⟨hclock, hvf, hdir⟩ := hdone
    rw [hdir]
    have hforget := h.forget applied
    rcases applied.remove_cases s.dir.applied with hgone | hkept
    · exact h.forgotten hgone.2 (bootFlag.read_remove s.dir.bootFlag)
    · refine hforget.clear ?_
      intro hcleared pair hpair hexp
      rcases hok hclock hvf hcleared with hdone | hunexposed
      · rw [hkept.1] at hdone
        simp at hdone
      · have hload : (applied.remove s.dir.applied).read.bind (·.undervolt) = some pair := hexp.1
        rw [hkept.2] at hload
        exact hunexposed pair hpair ⟨hload, hexp.2⟩

theorem Suppressed.wasReset (h : s.Suppressed) {operator : Bool}
    {clockError gpuError : Option String} {results : ResetResults}
    (hok : s.suppresses (.reset operator clockError gpuError results)) :
    (s.wasReset operator clockError gpuError results).Suppressed := by
  rcases reset_cases clockError gpuError results s.dir with hstopped | hdone
  · have hsame : s.wasReset operator clockError gpuError results = s := by
      simp [StartupState.wasReset, hstopped.1, hstopped.2]
    rw [hsame]
    exact h
  · obtain ⟨hclock, hgpu, hdir, hisOk⟩ := hdone
    have hflag := results.bootFlag.read_remove s.dir.bootFlag
    have hidle : ∀ arm, s.history.owner = some arm → arm ∈ s.history.left →
        (results.bootFlag.remove s.dir.bootFlag).read.isSome → s.applying = [] := by
      intro arm howner hleft hread
      rcases hflag with hsame | hgone
      · exact h.idle arm howner hleft (by rwa [hsame] at hread)
      · simp [hgone] at hread
    cases hforgiven : operator && (reset clockError gpuError results s.dir).1.isOk with
    | true =>
      have hreset : s.wasReset operator clockError gpuError results =
          { s with dir := (reset clockError gpuError results s.dir).2, crashedPairs := [] } := by
        simp [StartupState.wasReset, hforgiven]
      rw [hreset, hdir]
      exact ⟨by simp, by simp, hidle, h.owner_lt, h.left_lt⟩
    | false =>
      have hreset : s.wasReset operator clockError gpuError results =
          { s with dir := (reset clockError gpuError results s.dir).2 } := by
        simp [StartupState.wasReset, hforgiven]
      rw [hreset, hdir]
      rcases hok hclock hgpu with hoperator | hdone | hunpersisted
      · rw [hoperator.1, hisOk hoperator.2.1 hoperator.2.2] at hforgiven
        simp at hforgiven
      · rcases results.applied.remove_cases s.dir.applied with hgone | hkept
        · exact h.forgotten hgone.2 hflag
        · rw [hkept.1] at hdone
          simp at hdone
      · have hnone : ∀ pair ∈ s.crashedPairs, ¬ { s with
            dir := clearBootFlag results.bootFlag (saveRecord
              (loadRecord s.dir).clearRecoveryLatch results.record
              (clearApplied results.applied s.dir)) }.exposes pair := by
          intro pair hpair hexp
          have hload : (results.applied.remove s.dir.applied).read.bind (·.undervolt) =
              some pair := hexp.1
          rcases results.applied.remove_cases s.dir.applied with hgone | hkept
          · rw [hgone.2] at hload
            simp [StoredFile.read] at hload
          · rw [hkept.2] at hload
            exact hunpersisted pair hpair hload
        exact h.frame _ (fun pair hpair hexp => absurd hexp (hnone pair hpair))
          (hflag.imp_right fun hread => ⟨hread, hnone⟩)

theorem Suppressed.persistFieldFailure (h : s.Suppressed) (targetMhz failedMv : Nat)
    {result : FileResult} (htorn : result.isTorn = true → s.Unpersisted) :
    { s with
      dir := Nidavellir.persistFieldFailure targetMhz failedMv result s.dir }.Suppressed := by
  unfold Nidavellir.persistFieldFailure
  dsimp only
  split
  next => exact h
  next =>
    refine h.frame _ (exposes_of_saveRecord s _ ?_ htorn rfl rfl) (Or.inl rfl)
    intro hsafe
    exact hsafe

theorem Suppressed.reconcile (h : s.Suppressed) {crashSeen : Bool} {record applied : FileResult}
    (hok : s.suppresses (.reconcile crashSeen record applied)) :
    { s with dir := (startupReconcile crashSeen record applied s.dir).2 }.Suppressed := by
  unfold startupReconcile
  split
  next => exact h
  next uv huv =>
    split
    next =>
      have hfiles := persistFieldFailure_files uv.targetMhz uv.anchorMv record s.dir
      rcases applied.remove_cases
        (Nidavellir.persistFieldFailure uv.targetMhz uv.anchorMv record s.dir).applied
        with hgone | hkept
      · exact h.forgotten hgone.2 (Or.inl hfiles.1)
      · refine (h.persistFieldFailure uv.targetMhz uv.anchorMv ?_).forget applied
        intro htorn
        rcases hok htorn with hdone | hunpersisted
        · rw [hkept.1] at hdone
          simp at hdone
        · exact hunpersisted
    next => exact h

end StartupState

end Nidavellir

import Nidavellir.StartupFlag

namespace Nidavellir

open SafeLoopStore

namespace StartupState

/-- The profile on disk is an undervolt of this pair. -/
def persists (s : StartupState) (pair : UndervoltApply) : Prop :=
  (loadApplied s.dir).bind (·.undervolt) = some pair

/-- Only the flag keeps a boot from writing the pair. -/
def exposes (s : StartupState) (pair : UndervoltApply) : Prop :=
  s.persists pair ∧ (loadRecord s.dir).safeMode = false

def Unpersisted (s : StartupState) : Prop := ∀ pair ∈ s.crashedPairs, ¬ s.persists pair

def Unexposed (s : StartupState) : Prop := ∀ pair ∈ s.crashedPairs, ¬ s.exposes pair

/-- A step that removes or replaces the flag comes while no crashed pair is persisted outside Safe
Mode, the sentinel falls back to no crashed pair, and no write of the record is torn while a crashed
pair is persisted. -/
def suppresses (s : StartupState) : StartupEvent → Prop
  | .apply operator profile _ result =>
    (operator = false → ∀ pair, profile.undervolt = some pair → pair ∉ s.crashedPairs) ∧
      (result.isDone = true →
        ∀ pair ∈ s.crashedPairs, profile.undervolt = some pair ∨ ¬ s.exposes pair) ∧
      (result.isTorn = true → s.Unexposed)
  | .arm _ result => result.isDone = true ∨ result.isTorn = true → s.Unexposed
  | .clear result => result.isDone = true → s.Unexposed
  | .reset operator clockError gpuError results =>
    clockError = none → gpuError = none →
      (operator = true ∧ results.record.isDone = true ∧ results.bootFlag.isDone = true) ∨
        results.applied.isDone = true ∨ s.Unpersisted
  | .disarm clockError vfError applied bootFlag =>
    clockError = none → vfError = none → bootFlag.isDone = true →
      applied.isDone = true ∨ s.Unexposed
  | .update _ result => result.isTorn = true → s.Unpersisted
  | .recovery _ results =>
    (crashFlag s.dir = none → isBootFlagArmed s.dir = true → s.Unexposed) ∧
      (results.saveRecord.isTorn = true → s.Unpersisted)
  | .reconcile _ record applied => record.isTorn = true → applied.isDone = true ∨ s.Unpersisted
  | .reapply rebootRequired disarm _ _ =>
    rebootRequired = none → isBootFlagArmed s.dir = true → disarm.isDone = true → s.Unexposed
  | .persist _ _ _ | .forget _ | .stop _ | .crash => True

/-- The flag on disk is that of an apply of the pair. -/
def covers (s : StartupState) (pair : UndervoltApply) : Prop :=
  ∃ arm, s.history.owner = some arm ∧ arm.pair = some pair ∧ (readBootFlag s.dir).isSome

/-- A crashed pair that is persisted outside Safe Mode is covered by its flag, and nobody but the
operator is about to persist one. -/
structure Suppressed (s : StartupState) : Prop where
  covered : ∀ pair ∈ s.crashedPairs, s.exposes pair → s.covers pair
  applying : ∀ pair, (false, some pair) ∈ s.applying → pair ∉ s.crashedPairs
  idle : ∀ arm, s.history.owner = some arm → arm ∈ s.history.left →
    (readBootFlag s.dir).isSome → s.applying = []
  owner_lt : ∀ arm, s.history.owner = some arm → arm.serial < s.history.arms
  left_lt : ∀ arm ∈ s.history.left, arm.serial < s.history.arms

variable {s : StartupState}

theorem recover_safeMode {record : SafeLoopRecord} (h : record.safeMode = true)
    (bootFlag : Option BootFlag) (bugcheck : CrashClass) :
    (recover record bootFlag bugcheck).1.safeMode = true := by
  unfold recover applyRecovery
  split <;> first | exact h | rfl

theorem after_safeMode {record : SafeLoopRecord} {call : SafeLoopCall}
    (hcall : call.keepsLatch = true) : (record.after call).safeMode = record.safeMode := by
  cases call with
  | boot bootFlag bugcheck => simp [SafeLoopCall.keepsLatch] at hcall
  | clearRecoveryLatch => simp [SafeLoopCall.keepsLatch] at hcall
  | markValidated point => rfl
  | recordForgeIncident incident => exact record.recordForgeIncident_safeMode incident
  | acknowledgeForgeIncident => exact record.acknowledgeForgeIncident_safeMode

/-- A write of the record that is not torn keeps Safe Mode where the new record does. -/
theorem safeMode_saveRecord {dir : DataDir} {record : SafeLoopRecord} {result : FileResult}
    (hrecord : (loadRecord dir).safeMode = true → record.safeMode = true)
    (htorn : result.isTorn = false) (h : (loadRecord dir).safeMode = true) :
    (loadRecord (saveRecord record result dir)).safeMode = true := by
  unfold loadRecord saveRecord
  rcases result.write_cases record dir.record with hdone | hcut | hsame
  · rw [hdone.2]
    exact hrecord h
  · rw [hcut.2.1] at htorn
    simp at htorn
  · rw [hsame.2.2]
    exact h

/-- What changes only the directory: nothing is newly exposed, and the flag goes only while nothing
is exposed. -/
theorem Suppressed.frame (h : s.Suppressed) (dir : DataDir)
    (hexposes : ∀ pair ∈ s.crashedPairs, { s with dir := dir }.exposes pair → s.exposes pair)
    (hflag : dir.bootFlag = s.dir.bootFlag ∨
      dir.bootFlag.read = none ∧ { s with dir := dir }.Unexposed) :
    { s with dir := dir }.Suppressed := by
  refine ⟨?_, h.applying, ?_, h.owner_lt, h.left_lt⟩
  · intro pair hpair hexp
    rcases hflag with hsame | hgone
    · obtain ⟨arm, howner, harm, hread⟩ := h.covered pair hpair (hexposes pair hpair hexp)
      refine ⟨arm, howner, harm, ?_⟩
      rwa [readBootFlag, hsame]
    · exact absurd hexp (hgone.2 pair hpair)
  · intro arm howner hleft hread
    rcases hflag with hsame | hgone
    · exact h.idle arm howner hleft (by rwa [readBootFlag, ← hsame])
    · simp [readBootFlag, hgone.1] at hread

/-- While the invariant holds, a boot writes no crashed pair. -/
theorem Suppressed.reapply (h : s.Suppressed) {rebootRequired : Option String}
    {disarm : FileResult} {profile : AppliedProfile}
    (hre : (reapplyOnBoot rebootRequired disarm s.dir).1 = some profile) {pair : UndervoltApply}
    (hpair : profile.undervolt = some pair) : pair ∉ s.crashedPairs := by
  obtain ⟨harmed, hsafe, happlied, -⟩ := reapplyOnBoot_eq_some hre
  intro hcrashed
  have hexp : s.exposes pair := ⟨by simp [persists, happlied, hpair], hsafe⟩
  obtain ⟨arm, -, -, hread⟩ := h.covered pair hcrashed hexp
  rw [readBootFlag, StoredFile.read_of_absent harmed] at hread
  simp at hread

end StartupState

namespace StartupState

variable {s : StartupState}

/-- Arming: the flag on disk is that of the new arm, or gone where the write was torn. -/
theorem Suppressed.armed (h : s.Suppressed) {pair : Option UndervoltApply} (flag : BootFlag)
    {result : FileResult}
    (hdone : result.isDone = true →
      ∀ crashed ∈ s.crashedPairs, pair = some crashed ∨ ¬ s.exposes crashed)
    (htorn : result.isTorn = true → s.Unexposed) :
    (s.armed pair flag result).Suppressed := by
  rcases result.write_cases flag s.dir.bootFlag with hw | hw | hw
  · rw [s.armed_done pair flag hw.1]
    refine ⟨?_, h.applying, ?_, ?_, ?_⟩
    · intro crashed hcrashed hexp
      rcases hdone hw.1 crashed hcrashed with hown | hnot
      · refine ⟨⟨s.history.arms, pair⟩, rfl, hown, ?_⟩
        rw [readBootFlag, armBootFlag, hw.2]
        rfl
      · exact absurd hexp hnot
    · intro arm howner hleft
      obtain rfl := Option.some.inj howner
      exact absurd (h.left_lt _ hleft) (Nat.lt_irrefl _)
    · intro arm howner
      obtain rfl := Option.some.inj howner
      exact Nat.lt_succ_self _
    · intro arm hleft
      exact Nat.lt_succ_of_lt (h.left_lt arm hleft)
  · rw [s.armed_failed pair flag hw.1]
    refine h.frame _ (fun _ _ hexp => hexp) (Or.inr ⟨?_, htorn hw.2.1⟩)
    rw [armBootFlag, hw.2.2]
    rfl
  · rw [s.armed_failed pair flag hw.1]
    exact h.frame _ (fun _ _ hexp => hexp) (Or.inl hw.2.2)

theorem Suppressed.applied (h : s.Suppressed) {operator : Bool} {profile : AppliedProfile}
    (timestamp : String) {result : FileResult}
    (hother : operator = false → ∀ pair, profile.undervolt = some pair → pair ∉ s.crashedPairs)
    (hdone : result.isDone = true →
      ∀ pair ∈ s.crashedPairs, profile.undervolt = some pair ∨ ¬ s.exposes pair)
    (htorn : result.isTorn = true → s.Unexposed) :
    (s.applied operator profile timestamp result).Suppressed := by
  have harmed := h.armed (profile.bootFlag timestamp) hdone htorn
  refine ⟨harmed.covered, ?_, ?_, harmed.owner_lt, harmed.left_lt⟩
  · intro pair hpair
    simp only [StartupState.applied] at hpair
    split at hpair
    next =>
      rcases List.mem_cons.mp hpair with hnew | hold
      · obtain ⟨hoperator, hundervolt⟩ := Prod.mk.inj hnew
        exact hother hoperator.symm pair hundervolt.symm
      · exact h.applying pair hold
    next => exact h.applying pair hpair
  · intro arm howner hleft hread
    have hidle := harmed.idle arm howner hleft hread
    cases hr : result.isDone with
    | true =>
      -- the flag is that of the new arm, which no crash has left behind
      have hnew : s.history.arm profile.undervolt = (s.armed profile.undervolt
          (profile.bootFlag timestamp) result).history := by
        rw [s.armed_done _ _ hr]
      have howner' : (s.history.arm profile.undervolt).owner = some arm := hnew ▸ howner
      obtain rfl := Option.some.inj howner'
      have hleft' : _ ∈ (s.history.arm profile.undervolt).left := hnew ▸ hleft
      exact absurd (h.left_lt _ hleft') (Nat.lt_irrefl _)
    | false =>
      rw [StartupState.applied, hr]
      exact hidle

theorem Suppressed.persisted (h : s.Suppressed) {operator : Bool} {profile : AppliedProfile}
    (result : FileResult) (happlying : (operator, profile.undervolt) ∈ s.applying) :
    (s.persisted operator profile result).Suppressed := by
  have hcrashed : ∀ pair ∈ (s.persisted operator profile result).crashedPairs,
      pair ∈ s.crashedPairs ∧ profile.undervolt ≠ some pair := by
    intro pair hpair
    cases operator with
    | true =>
      obtain ⟨hmem, hne⟩ := List.mem_filter.mp hpair
      exact ⟨hmem, by simpa using hne⟩
    | false =>
      refine ⟨hpair, ?_⟩
      intro hundervolt
      exact h.applying pair (hundervolt ▸ happlying) hpair
  refine ⟨?_, ?_, h.idle, h.owner_lt, h.left_lt⟩
  · intro pair hpair hexp
    obtain ⟨hmem, hne⟩ := hcrashed pair hpair
    obtain ⟨hpersists, hsafe⟩ := hexp
    have hload : (result.write profile s.dir.applied).read.bind (·.undervolt) = some pair :=
      hpersists
    rcases result.write_cases profile s.dir.applied with hw | hw | hw
    · rw [hw.2] at hload
      exact absurd hload hne
    · rw [hw.2.2] at hload
      simp [StoredFile.read] at hload
    · rw [hw.2.2] at hload
      exact h.covered pair hmem ⟨hload, hsafe⟩
  · intro pair hpair hmem
    exact h.applying pair hpair (hcrashed pair hmem).1

theorem Suppressed.afterCrash (h : s.Suppressed) : s.afterCrash.Suppressed := by
  refine ⟨h.covered, fun pair hpair => ?_, fun arm _ _ _ => rfl, h.owner_lt, ?_⟩
  · simp [StartupState.afterCrash] at hpair
  · intro arm hleft
    simp only [StartupState.afterCrash] at hleft
    split at hleft
    next =>
      rcases List.mem_append.mp hleft with hnew | hold
      · exact h.owner_lt arm (Option.mem_toList.mp hnew)
      · exact h.left_lt arm hold
    next => exact h.left_lt arm hleft

/-- Where the persisted profile stays and the record keeps its Safe Mode, nothing is newly
exposed. -/
theorem exposes_of_saveRecord (s : StartupState) (dir : DataDir) {record : SafeLoopRecord}
    {result : FileResult}
    (hsafe : (loadRecord s.dir).safeMode = true → record.safeMode = true)
    (htorn : result.isTorn = true → s.Unpersisted)
    (hrecord : dir.record = result.write record s.dir.record)
    (happlied : dir.applied = s.dir.applied) :
    ∀ pair ∈ s.crashedPairs, { s with dir := dir }.exposes pair → s.exposes pair := by
  intro pair hpair hexp
  obtain ⟨hpersists, hunsafe⟩ := hexp
  have hold : s.persists pair := by
    have hload : loadApplied dir = loadApplied s.dir := by rw [loadApplied, happlied, loadApplied]
    rwa [StartupState.persists, ← hload]
  refine ⟨hold, ?_⟩
  have hnot : result.isTorn = false := by
    cases ht : result.isTorn with
    | true => exact absurd hold (htorn ht pair hpair)
    | false => rfl
  have hload : loadRecord dir = loadRecord (saveRecord record result s.dir) := by
    simp only [loadRecord, saveRecord, hrecord]
  by_contra hmode
  have hkept := safeMode_saveRecord hsafe hnot (by simpa using hmode)
  rw [← hload, hunsafe] at hkept
  simp at hkept

theorem Suppressed.up (h : s.Suppressed) : { s with down := false }.Suppressed :=
  ⟨h.covered, h.applying, h.idle, h.owner_lt, h.left_lt⟩

theorem Suppressed.recovered_clean (h : s.Suppressed) (hflag : crashFlag s.dir = none)
    {bugcheck : CrashClass} {results : RecoveryResults}
    (hok : s.suppresses (.recovery bugcheck results)) :
    (s.recovered bugcheck results).Suppressed := by
  obtain ⟨hgone, htorn⟩ := hok
  have hexposes := exposes_of_saveRecord s
    (saveRecord (recover (loadRecord s.dir) none .unknown).1 results.saveRecord
      { clearCleanShutdown results.clearCleanShutdown s.dir with
        bootFlag := clearedFlag results s.dir })
    (fun hsafe => recover_safeMode hsafe none .unknown) htorn rfl rfl
  have hfile : clearedFlag results s.dir = s.dir.bootFlag ∨
      (clearedFlag results s.dir).read = none ∧ s.Unexposed := by
    rcases clearedFlag_cases results s.dir with habsent | hsame
    · cases harmed : isBootFlagArmed s.dir with
      | true => exact Or.inr ⟨by rw [habsent]; rfl, hgone hflag harmed⟩
      | false => exact Or.inl (habsent.trans (StoredFile.eq_absent harmed).symm)
    · exact Or.inl hsame
  have hframe := h.frame _ hexposes (hfile.imp_right fun hread =>
    ⟨hread.1, fun pair hpair hexp => hread.2 pair hpair (hexposes pair hpair hexp)⟩)
  rw [recovered_other (Or.inl hflag), runStartupRecovery_clean hflag]
  exact hframe.up

/-- The pair of a flag that a crash left behind joins the crashed pairs: the flag, still there,
covers it, and the crash has ended every apply. -/
theorem Suppressed.accounted (h : s.Suppressed) {arm : Arm}
    (howner : s.history.owner = some arm) (hread : (readBootFlag s.dir).isSome)
    (accountings : List Accounting) :
    { s with
      history := { s.history with retained := true, accountings := accountings }
      crashedPairs :=
        if arm ∈ s.history.left then arm.pair.toList ++ s.crashedPairs
        else s.crashedPairs }.Suppressed := by
  have hnew : ∀ pair, pair ∈ (if arm ∈ s.history.left then
      arm.pair.toList ++ s.crashedPairs else s.crashedPairs) →
      (arm.pair = some pair ∧ s.applying = []) ∨ pair ∈ s.crashedPairs := by
    intro pair hpair
    split at hpair
    next hleft =>
      rcases List.mem_append.mp hpair with hcrashed | hold
      · exact Or.inl ⟨Option.mem_toList.mp hcrashed, h.idle arm howner hleft hread⟩
      · exact Or.inr hold
    next => exact Or.inr hpair
  refine ⟨?_, ?_, h.idle, h.owner_lt, h.left_lt⟩
  · intro pair hpair hexp
    rcases hnew pair hpair with hcrashed | hold
    · exact ⟨arm, howner, hcrashed.1, hread⟩
    · exact h.covered pair hold hexp
  · intro pair happlying hpair
    rcases hnew pair hpair with hcrashed | hold
    · have hnone : (false, some pair) ∈ s.applying := happlying
      rw [hcrashed.2] at hnone
      simp at hnone
    · exact h.applying pair happlying hold

theorem Suppressed.recovered (h : s.Suppressed) {bugcheck : CrashClass}
    {results : RecoveryResults} (hok : s.suppresses (.recovery bugcheck results)) :
    (s.recovered bugcheck results).Suppressed := by
  cases hflag : crashFlag s.dir with
  | none => exact h.recovered_clean hflag hok
  | some flag =>
    have hrun := runStartupRecovery_armed hflag bugcheck results
    have hup := (h.frame (runStartupRecovery bugcheck results s.dir).2
      (exposes_of_saveRecord s _ (fun hsafe => recover_safeMode hsafe (some flag) bugcheck) hok.2
        (by rw [hrun]; rfl) (by rw [hrun]; rfl)) (Or.inl (by rw [hrun]; rfl))).up
    cases howner : s.history.owner with
    | none =>
      rw [recovered_other (Or.inr howner)]
      exact hup
    | some arm =>
      cases hsaved : results.saveRecord.isDone with
      | false =>
        rw [recovered_unsaved bugcheck hsaved]
        exact hup
      | true =>
        have hread : (readBootFlag (runStartupRecovery bugcheck results s.dir).2).isSome := by
          have hholds := (crashFlag_eq_some_iff.mp hflag).1
          rw [hrun]
          show s.dir.bootFlag.read.isSome
          rw [hholds]
          rfl
        rw [recovered_saved hflag howner bugcheck hsaved]
        exact hup.accounted howner hread _

end StartupState

end Nidavellir

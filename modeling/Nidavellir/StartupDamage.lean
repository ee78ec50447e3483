import Nidavellir.DataFiles
import Nidavellir.StartupRecovery

namespace Nidavellir

open SafeLoopStore

/-- Why a start that finds a flag file and no marker does not re-apply: the flag parses or stays
where it is, a driver reset belongs to this Windows boot, no profile can be read, or the record is
in Safe Mode or awaits the operator and its save is not torn. -/
def DataDir.startSkips (dir : DataDir) (results : RecoveryResults)
    (rebootRequired : Option String) : Prop :=
  (readBootFlag dir).isSome ∨ results.clearBootFlag.isDone = false ∨ rebootRequired.isSome ∨
    loadApplied dir = none ∨
    ((loadRecord dir).safeMode = true ∨ (loadRecord dir).pendingForgeIncident.isSome) ∧
      results.saveRecord.isTorn = false

theorem recover_clean_holds (record : SafeLoopRecord) :
    (recover record none .unknown).1.safeMode = record.safeMode ∧
      (recover record none .unknown).1.pendingForgeIncident = record.pendingForgeIncident := by
  unfold recover decideRecovery
  dsimp only
  split
  next hsafe => exact ⟨hsafe.symm, rfl⟩
  next => split <;> exact ⟨rfl, rfl⟩

/-- With a flag file and no marker, a start re-applies exactly where nothing holds it back. -/
theorem reapply_after_recovery_iff {dir : DataDir} (hflag : isBootFlagArmed dir = true)
    (hmarker : isCleanShutdownPresent dir = false) (bugcheck : CrashClass)
    (results : RecoveryResults) (rebootRequired : Option String) (disarm : FileResult) :
    (reapplyOnBoot rebootRequired disarm (runStartupRecovery bugcheck results dir).2).1 = none ↔
      dir.startSkips results rebootRequired := by
  rw [reapplyOnBoot_eq_none_iff]
  cases hread : readBootFlag dir with
  | some flag =>
    have hcrash : crashFlag dir = some flag := by simp [crashFlag, hmarker, hread]
    rw [runStartupRecovery_armed hcrash]
    refine iff_of_true (Or.inr (Or.inl hflag)) (Or.inl ?_)
    rw [hread]
    rfl
  | none =>
    have hcrash : crashFlag dir = none := by simp [crashFlag, hmarker, hread]
    have hnoflag : (readBootFlag dir).isSome = false := by rw [hread]; rfl
    have hcleared : clearedFlag results dir = results.clearBootFlag.remove dir.bootFlag := by
      rw [clearedFlag, hnoflag]
      rfl
    rw [runStartupRecovery_clean hcrash]
    generalize hdir : saveRecord (recover (loadRecord dir) none .unknown).1 results.saveRecord
      { clearCleanShutdown results.clearCleanShutdown dir with
        bootFlag := clearedFlag results dir } = left
    have harmed : isBootFlagArmed left = true ↔ results.clearBootFlag.isDone = false := by
      have hfile : left.bootFlag = results.clearBootFlag.remove dir.bootFlag := by
        rw [← hdir, ← hcleared]
        rfl
      rw [isBootFlagArmed, hfile]
      rcases results.clearBootFlag.remove_cases dir.bootFlag with hgone | hkept
      · simp [hgone.1, hgone.2, StoredFile.present]
      · rw [hkept.2, hkept.1]
        exact iff_of_true hflag rfl
    have happlied : loadApplied left = loadApplied dir := by
      rw [← hdir]
      rfl
    obtain ⟨hsafe, hpending⟩ := recover_clean_holds (loadRecord dir)
    have hload := loadRecord_saveRecord (recover (loadRecord dir) none .unknown).1
      results.saveRecord { clearCleanShutdown results.clearCleanShutdown dir with
        bootFlag := clearedFlag results dir }
    rw [hdir] at hload
    have hrecord : ((loadRecord left).safeMode = true ∨
        (loadRecord left).pendingForgeIncident.isSome) ↔
        ((loadRecord dir).safeMode = true ∨ (loadRecord dir).pendingForgeIncident.isSome) ∧
          results.saveRecord.isTorn = false := by
      rw [hload]
      cases hresult : results.saveRecord with
      | done => simp [FileResult.isDone, FileResult.isTorn, hsafe, hpending]
      | failed error torn =>
        cases torn with
        | true => simp [FileResult.isDone, FileResult.isTorn]
        | false =>
          simp only [FileResult.isDone, FileResult.isTorn, Bool.false_eq_true, if_false, and_true]
          rfl
    rw [DataDir.startSkips, hnoflag, harmed, happlied, ← hrecord]
    constructor
    · intro hskips
      rcases hskips with hreset | hkept | hsafe | hpending | hnone
      · exact Or.inr (Or.inr (Or.inl hreset))
      · exact Or.inr (Or.inl hkept)
      · exact Or.inr (Or.inr (Or.inr (Or.inr (Or.inl hsafe))))
      · exact Or.inr (Or.inr (Or.inr (Or.inr (Or.inr hpending))))
      · exact Or.inr (Or.inr (Or.inr (Or.inl hnone)))
    · intro hskips
      rcases hskips with hflag | hkept | hreset | hnone | hheld
      · simp at hflag
      · exact Or.inr (Or.inl hkept)
      · exact Or.inl hreset
      · exact Or.inr (Or.inr (Or.inr (Or.inr hnone)))
      · rcases hheld with hsafe | hpending
        · exact Or.inr (Or.inr (Or.inl hsafe))
        · exact Or.inr (Or.inr (Or.inr (Or.inl hpending)))

/-- With a flag file and no marker, a start re-applies unless something holds it back, and a
record with Safe Mode or a blacklist outlasts a cut save only where the save had not begun or
went through. -/
theorem startup_failsClosed_iff {json : StoreJson} {ok : SafeLoopRecord → Prop}
    (hjson : json.record.Saves ok) :
    (∀ (files : DataFiles) (bugcheck : CrashClass) (results : RecoveryResults)
      (rebootRequired : Option String) (disarm : FileResult),
      files.bootFlag.isSome → files.cleanShutdown = none →
      ((reapplyOnBoot rebootRequired disarm
          (runStartupRecovery bugcheck results (files.dir json)).2).1 = none ↔
        (files.dir json).startSkips results rebootRequired)) ∧
    ∀ (files : DataFiles) (saved record : SafeLoopRecord) (written : Option ByteArray)
      (rest : ByteArray), ok saved → ok record →
      (saved.safeMode = true ∨ saved.blacklist ≠ []) →
      (∀ bytes, written = some bytes →
        bytes ++ rest = Utf8.encode (json.record.toString record)) →
      (loadRecord ({ files with record := some (cutSave json saved written) }.dir json) ≠ {} ↔
        written = none ∨ rest = .empty ∧ record ≠ {}) := by
  refine ⟨?_, ?_⟩
  · intro files bugcheck results rebootRequired disarm hflag hmarker
    have harmed : isBootFlagArmed (files.dir json) = true := by
      simp [isBootFlagArmed, DataFiles.dir, hflag]
    have hclean : isCleanShutdownPresent (files.dir json) = false := by
      simp [isCleanShutdownPresent, DataFiles.dir, hmarker]
    exact reapply_after_recovery_iff harmed hclean bugcheck results rebootRequired disarm
  · intro files saved record written rest hsaved hrecord hset hwritten
    exact load_cutSave_iff hjson hsaved hrecord hset written rest hwritten files

def exactJson {α : Type} (text : List Char) (a : α) : SerdeJson α where
  toString _ := text
  fromStr data := if data = text then some a else none

theorem exactJson_saves {α : Type} {text body : List Char} {a : α} (h : text = '{' :: body) :
    (exactJson text a).Saves (· = a) := by
  refine ⟨?_, ?_, ?_⟩
  · intro a' _
    exact ⟨body, h⟩
  · intro a' ha'
    obtain rfl := ha'
    exact if_pos rfl
  · intro a' q _ _ hne
    exact if_neg hne

def prettyObject (members : List (String × String)) : List Char :=
  '{' :: '\n' ::
    [',', '\n'].intercalate (members.map fun m =>
      ' ' :: ' ' :: '"' :: m.1.toList ++ '"' :: ':' :: ' ' :: m.2.toList) ++ ['\n', '}']

def safeModeRecord : SafeLoopRecord where
  state := .safeMode
  consecutiveCrashes := 3
  safeMode := true

def safeModeText : List Char :=
  prettyObject [("state", "\"safe_mode\""), ("consecutive_crashes", "3"),
    ("last_validated", "null"), ("blacklist", "[]"), ("safe_mode", "true"), ("crash_log", "[]"),
    ("pending_forge_incident", "null"), ("forge_incidents", "[]")]

def memoryProfile : AppliedProfile where
  label := "Memory +500"
  core := none
  memOffsetMhz := some 500
  appliedAt := none
  undervolt := none

def memoryText : List Char :=
  prettyObject [("label", "\"Memory +500\""), ("core", "null"), ("mem_offset_mhz", "500"),
    ("applied_at", "null"), ("undervolt", "null")]

/-- `serde_json` where no text is a boot flag. -/
def damagedJson : StoreJson where
  bootFlag := ⟨fun _ => [], fun _ => none⟩
  record := exactJson safeModeText safeModeRecord
  applied := exactJson memoryText memoryProfile

/-- An empty flag file beside a readable profile. -/
def damagedFiles (record : Option ByteArray) : DataFiles where
  bootFlag := some (Utf8.encode [])
  record := record
  cleanShutdown := none
  applied := some (Utf8.encode memoryText)

theorem damagedJson_saves : damagedJson.record.Saves (· = safeModeRecord) :=
  exactJson_saves rfl

/-- A record in Safe Mode holds the start back from a damaged flag, and outlasts a save that had
not begun. -/
theorem startup_failsClosed_in_safeMode :
    (reapplyOnBoot none .done (runStartupRecovery .unknown {}
      ((damagedFiles (some (Utf8.encode safeModeText))).dir damagedJson)).2).1 = none ∧
    loadRecord ({ damagedFiles none with
      record := some (cutSave damagedJson safeModeRecord none) }.dir damagedJson) ≠ {} := by
  have hclosed := startup_failsClosed_iff damagedJson_saves
  refine ⟨?_, ?_⟩
  · rw [hclosed.1 _ .unknown {} none .done rfl rfl]
    have hload := load_saved damagedJson_saves rfl (damagedFiles none)
    have hsafe : (loadRecord ((damagedFiles (some (Utf8.encode safeModeText))).dir
        damagedJson)).safeMode = true := by
      have hrecord := congrArg SafeLoopRecord.safeMode hload
      exact hrecord
    exact Or.inr (Or.inr (Or.inr (Or.inr ⟨Or.inl hsafe, rfl⟩)))
  · rw [hclosed.2 (damagedFiles none) safeModeRecord safeModeRecord none .empty rfl rfl
      (Or.inl rfl) (by simp)]
    exact Or.inl rfl

theorem startup_reapplies_behind_empty_flag :
    ¬ ∀ (json : StoreJson) (ok : SafeLoopRecord → Prop), json.record.Saves ok →
      (∀ (files : DataFiles) (bugcheck : CrashClass) (results : RecoveryResults)
        (rebootRequired : Option String) (disarm : FileResult),
        files.bootFlag.isSome → files.cleanShutdown = none →
        (reapplyOnBoot rebootRequired disarm
          (runStartupRecovery bugcheck results (files.dir json)).2).1 = none) ∧
      ∀ (files : DataFiles) (saved record : SafeLoopRecord) (written : Option ByteArray)
        (rest : ByteArray), ok saved → ok record →
        (saved.safeMode = true ∨ saved.blacklist ≠ []) →
        (∀ bytes, written = some bytes →
          bytes ++ rest = Utf8.encode (json.record.toString record)) →
        loadRecord ({ files with record := some (cutSave json saved written) }.dir json) ≠ {} := by
  intro h
  have hnone := (h damagedJson _ damagedJson_saves).1 (damagedFiles none) .unknown {} none .done
    rfl rfl
  have hflag : readBootFlag ((damagedFiles none).dir damagedJson) = none := by
    unfold readBootFlag DataFiles.dir damagedFiles
    rw [StoredFile.read_ofBytes_encode]
    rfl
  have happlied : loadApplied ((damagedFiles none).dir damagedJson) = some memoryProfile := by
    have htrim : trimBom memoryText = memoryText := trimBom_append_brace [] _
    unfold loadApplied DataFiles.dir damagedFiles
    rw [StoredFile.read_ofBytes_encode, htrim]
    simp [damagedJson, exactJson]
  have harmed : isBootFlagArmed ((damagedFiles none).dir damagedJson) = true := by
    simp [isBootFlagArmed, DataFiles.dir, damagedFiles]
  have hskips := (reapply_after_recovery_iff harmed rfl .unknown {} none .done).mp hnone
  rcases hskips with hparses | hkept | hreset | hnoprofile | hheld
  · rw [hflag] at hparses
    simp at hparses
  · simp [FileResult.isDone] at hkept
  · simp at hreset
  · rw [happlied] at hnoprofile
    simp at hnoprofile
  · have hdefault : loadRecord ((damagedFiles none).dir damagedJson) = {} := rfl
    rw [hdefault] at hheld
    simp at hheld

end Nidavellir

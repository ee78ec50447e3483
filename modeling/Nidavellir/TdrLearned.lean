import Nidavellir.HardFailureMemory

namespace Nidavellir

open SafeLoopStore

/-- The incident has the id or the run of the new one. -/
def ForgeIncident.sameEpisode (known incident : ForgeIncident) : Bool :=
  known.id == incident.id || (known.runId.isSome && known.runId == incident.runId)

def SafeLoopRecord.holdsDuplicate (self : SafeLoopRecord) (incident : ForgeIncident) : Bool :=
  self.forgeIncidents.any (·.sameEpisode incident)

def SafeLoopRecord.acknowledgedEpisode (self : SafeLoopRecord) (incident : ForgeIncident) : Bool :=
  self.forgeIncidents.any fun known => known.sameEpisode incident && known.acknowledged

theorem SafeLoopRecord.recordForgeIncident_duplicate {record : SafeLoopRecord}
    {incident : ForgeIncident} (h : record.holdsDuplicate incident = true) :
    record.recordForgeIncident incident = (record, false) := if_pos h

theorem SafeLoopRecord.recordForgeIncident_new {record : SafeLoopRecord} {incident : ForgeIncident}
    (h : record.holdsDuplicate incident = false) :
    (record.recordForgeIncident incident).2 = true ∧
      (record.recordForgeIncident incident).1.pendingForgeIncident = some incident := by
  simp only [recordForgeIncident]
  split
  next hduplicate => exact absurd (hduplicate.symm.trans h) (by decide)
  next => exact ⟨rfl, rfl⟩

namespace ForgeTdr

/-- The record that the handoff saves where its incident is new: the armed intent is blacklisted. -/
def blacklisted (flag : BootFlag) (record : SafeLoopRecord) : SafeLoopRecord :=
  if record.isBlacklisted flag.intent then record
  else record.blacklisting (.around flag.intent defaultBlacklistRadius)

/-- What a driver reset with an armed pair leaves on disk: the pair refused, an incident pending
unless its episode was acknowledged, and the region that was computed with it. -/
structure Learned (tdr : ForgeTdr) (dir : DataDir) (flag : BootFlag) (pair : Nat × Nat) :
    Prop where
  refused : fieldPairBlacklisted (loadRecord (tdr.run dir)) pair.1 pair.2
  latched : (loadRecord dir).acknowledgedEpisode (tdr.incident dir) = false →
    (loadRecord (tdr.run dir)).pendingForgeIncident.isSome
  region : (loadRecord dir).isBlacklisted flag.intent = false →
    .around flag.intent defaultBlacklistRadius ∈ (loadRecord (tdr.run dir)).blacklist

/-- The record before the reset already holds all that the reset teaches. -/
structure Known (tdr : ForgeTdr) (dir : DataDir) (flag : BootFlag) (pair : Nat × Nat) : Prop where
  listed : (loadRecord dir).isBlacklisted flag.intent
  refused : fieldPairBlacklisted (loadRecord dir) pair.1 pair.2
  latched : (loadRecord dir).acknowledgedEpisode (tdr.incident dir) = false →
    (loadRecord dir).pendingForgeIncident.isSome

/-- The incident is new and reaches the disk, and no region of another pair swallows the intent. -/
structure Fresh (tdr : ForgeTdr) (dir : DataDir) (flag : BootFlag) (pair : Nat × Nat) : Prop where
  new : (loadRecord dir).holdsDuplicate (tdr.incident dir) = false
  saved : tdr.record.isDone = true
  unswallowed : (loadRecord dir).isBlacklisted flag.intent →
    fieldPairBlacklisted (loadRecord dir) pair.1 pair.2

/-- The file stays as it is. -/
def Unsaved (tdr : ForgeTdr) (dir : DataDir) : Prop :=
  (loadRecord dir).holdsDuplicate (tdr.incident dir) = true ∨
    tdr.record.isDone = false ∧ tdr.record.isTorn = false

variable {tdr : ForgeTdr} {dir : DataDir} {flag : BootFlag} {pair : Nat × Nat}

theorem blacklisted_incidents (flag : BootFlag) (record : SafeLoopRecord) :
    (blacklisted flag record).forgeIncidents = record.forgeIncidents := by
  unfold blacklisted
  split <;> rfl

theorem holdsDuplicate_blacklisted (flag : BootFlag) (record : SafeLoopRecord)
    (incident : ForgeIncident) :
    (blacklisted flag record).holdsDuplicate incident = record.holdsDuplicate incident := by
  rw [SafeLoopRecord.holdsDuplicate, blacklisted_incidents, SafeLoopRecord.holdsDuplicate]

theorem run_eq (hflag : ForgeTdr.flag dir = some flag) :
    tdr.run dir =
      if ((blacklisted flag (loadRecord dir)).recordForgeIncident (tdr.incident dir)).2 then
        saveRecord
          ((blacklisted flag (loadRecord dir)).recordForgeIncident (tdr.incident dir)).1
          tdr.record dir
      else dir := by
  unfold run
  rw [hflag]
  rfl

theorem run_duplicate (hflag : ForgeTdr.flag dir = some flag)
    (h : (loadRecord dir).holdsDuplicate (tdr.incident dir) = true) : tdr.run dir = dir := by
  rw [run_eq hflag, SafeLoopRecord.recordForgeIncident_duplicate
    ((holdsDuplicate_blacklisted flag _ _).trans h)]
  rfl

/-- A new incident that is saved leaves the new record on disk. -/
theorem run_new (hflag : ForgeTdr.flag dir = some flag)
    (h : (loadRecord dir).holdsDuplicate (tdr.incident dir) = false) :
    tdr.run dir = saveRecord
      ((blacklisted flag (loadRecord dir)).recordForgeIncident (tdr.incident dir)).1
      tdr.record dir := by
  have hrecorded := (SafeLoopRecord.recordForgeIncident_new
    ((holdsDuplicate_blacklisted flag _ _).trans h)).1
  rw [run_eq hflag, if_pos hrecorded]

/-- The pair of an armed flag is the pair of the region around its intent. -/
theorem fieldPair_of_flag (hflag : ForgeTdr.flag dir = some flag)
    (hpair : ForgeTdr.pair dir = some pair) (r : Int) :
    (BlacklistRegion.around flag.intent r).fieldPair =
      some ((pair.1 : Int), (pair.2 : Int)) := by
  have haxis {axis : String} {n : Nat} (h : flag.axis axis = some n) :
      flag.intent.axes.lookup axis = some (n : Int) := by
    obtain ⟨value, hvalue, hrange⟩ := Option.bind_eq_some_iff.mp h
    split at hrange
    next hbounds =>
      have hnat : (value.toNat : Int) = value := Int.toNat_of_nonneg hbounds.1
      rw [hvalue, ← Option.some.inj hrange, hnat]
    next => cases hrange
  obtain ⟨target, htarget, hrest⟩ := Option.bind_eq_some_iff.mp hpair
  obtain ⟨anchor, hanchor, hsome⟩ := Option.bind_eq_some_iff.mp hrest
  obtain rfl := Option.some.inj hsome
  rw [targetMhz, hflag] at htarget
  rw [anchorMv, hflag] at hanchor
  rw [BlacklistRegion.fieldPair, BlacklistRegion.around, haxis htarget, haxis hanchor]
  rfl

theorem blacklisted_refuses_iff (hflag : ForgeTdr.flag dir = some flag)
    (hpair : ForgeTdr.pair dir = some pair) {record : SafeLoopRecord} :
    fieldPairBlacklisted (blacklisted flag record) pair.1 pair.2 ↔
      (record.isBlacklisted flag.intent → fieldPairBlacklisted record pair.1 pair.2) := by
  unfold blacklisted
  split
  next hlisted => exact ⟨fun h _ => h, fun h => h hlisted⟩
  next hlisted =>
    have hregion := fieldPair_of_flag hflag hpair defaultBlacklistRadius
    have hmem : ((pair.1 : Int), (pair.2 : Int)) ∈ fieldPairs
        (record.blacklisting (.around flag.intent defaultBlacklistRadius)) := by
      simp [fieldPairs_blacklisting, hregion]
    obtain ⟨floor, hfloor, hle⟩ := floorEnvelope_ge_of_mem hmem
    exact iff_of_true (fieldPairBlacklisted_iff.mpr (.inr ⟨floor, hfloor, hle⟩))
      fun h => absurd h hlisted

theorem mem_blacklisted {record : SafeLoopRecord} (h : record.isBlacklisted flag.intent = false) :
    .around flag.intent defaultBlacklistRadius ∈ (blacklisted flag record).blacklist := by
  rw [blacklisted, if_neg (Bool.eq_false_iff.mp h)]
  exact List.mem_append_right _ (List.mem_singleton_self _)

/-- An unreadable record refuses nothing. -/
theorem fieldPairBlacklisted_empty (pair : Nat × Nat) :
    ¬ fieldPairBlacklisted {} pair.1 pair.2 := by
  rw [fieldPairBlacklisted_iff]
  rintro (hlisted | ⟨floor, hfloor, -⟩)
  · cases hlisted
  · cases hfloor

/-- Where the file stays, nothing new is learned. -/
theorem learned_iff_known (hsame : loadRecord (tdr.run dir) = loadRecord dir) :
    Learned tdr dir flag pair ↔ Known tdr dir flag pair := by
  constructor
  · intro h
    refine ⟨?_, hsame ▸ h.refused, hsame ▸ h.latched⟩
    by_contra hlisted
    have hmem := h.region (Bool.eq_false_iff.mpr hlisted)
    rw [hsame] at hmem
    exact hlisted (List.any_eq_true.mpr ⟨_, hmem, BlacklistRegion.contains_around_self _ 1⟩)
  · intro h
    refine ⟨hsame ▸ h.refused, hsame ▸ h.latched, fun hunlisted => ?_⟩
    exact absurd (hunlisted.symm.trans h.listed) (by decide)

/-- A driver reset with an armed pair is learned exactly where its incident is new and saved and no
other region swallows the intent, or where the file stays and held all of it before. -/
theorem learned_iff (tdr : ForgeTdr) (dir : DataDir) (flag : BootFlag) (pair : Nat × Nat)
    (hflag : ForgeTdr.flag dir = some flag) (hpair : ForgeTdr.pair dir = some pair) :
    Learned tdr dir flag pair ↔
      Fresh tdr dir flag pair ∨ Unsaved tdr dir ∧ Known tdr dir flag pair := by
  cases hduplicate : (loadRecord dir).holdsDuplicate (tdr.incident dir) with
  | true =>
    have hsame := run_duplicate hflag hduplicate
    rw [learned_iff_known (by rw [hsame])]
    constructor
    · exact fun h => .inr ⟨.inl hduplicate, h⟩
    · rintro (h | h)
      · exact absurd (h.new.symm.trans hduplicate) (by decide)
      · exact h.2
  | false =>
    have hrun := run_new hflag hduplicate
    have hnew := holdsDuplicate_blacklisted flag (loadRecord dir) (tdr.incident dir)
    have hpending := (SafeLoopRecord.recordForgeIncident_new (hnew.trans hduplicate)).2
    have hkept := SafeLoopRecord.recordForgeIncident_blacklist
      (blacklisted flag (loadRecord dir)) (tdr.incident dir)
    rcases tdr.record.write_cases
      ((blacklisted flag (loadRecord dir)).recordForgeIncident (tdr.incident dir)).1 dir.record with
      ⟨hdone, hwrite⟩ | ⟨hfailed, htorn, hwrite⟩ | ⟨hfailed, hwhole, hwrite⟩
    · have hload : loadRecord (tdr.run dir) =
          ((blacklisted flag (loadRecord dir)).recordForgeIncident (tdr.incident dir)).1 := by
        rw [hrun, loadRecord, saveRecord, hwrite]
        rfl
      have hrefused : fieldPairBlacklisted (loadRecord (tdr.run dir)) pair.1 pair.2 ↔
          ((loadRecord dir).isBlacklisted flag.intent →
            fieldPairBlacklisted (loadRecord dir) pair.1 pair.2) := by
        rw [hload, fieldPairBlacklisted_congr hkept]
        exact blacklisted_refuses_iff hflag hpair
      constructor
      · exact fun h => .inl ⟨hduplicate, hdone, hrefused.mp h.refused⟩
      · intro h
        have hunswallowed : (loadRecord dir).isBlacklisted flag.intent →
            fieldPairBlacklisted (loadRecord dir) pair.1 pair.2 := by
          rcases h with h | ⟨-, h⟩
          · exact h.unswallowed
          · exact fun _ => h.refused
        refine ⟨hrefused.mpr hunswallowed, fun _ => ?_, fun hunlisted => ?_⟩
        · rw [hload, hpending]
          rfl
        · rw [hload, hkept]
          exact mem_blacklisted hunlisted
    · have hload : loadRecord (tdr.run dir) = {} := by
        rw [hrun, loadRecord, saveRecord, hwrite]
        rfl
      constructor
      · intro h
        have hrefused := h.refused
        rw [hload] at hrefused
        exact absurd hrefused (fieldPairBlacklisted_empty pair)
      · rintro (h | ⟨h | h, -⟩)
        · exact absurd (h.saved.symm.trans hfailed) (by decide)
        · exact absurd (h.symm.trans hduplicate) (by decide)
        · exact absurd (h.2.symm.trans htorn) (by decide)
    · have hload : loadRecord (tdr.run dir) = loadRecord dir := by
        rw [hrun, loadRecord, saveRecord, hwrite]
        rfl
      rw [learned_iff_known hload]
      constructor
      · exact fun h => .inr ⟨.inr ⟨hfailed, hwhole⟩, h⟩
      · rintro (h | h)
        · exact absurd (h.saved.symm.trans hfailed) (by decide)
        · exact h.2

/-- A reset of the run "forge-1". -/
def ofRun (id : String) : ForgeTdr where
  file := some ("gpu-a", some "forge-1")
  currentGpuKey := "gpu-a"
  eventTimestamp := "2026-07-15T00:00:00Z"
  timestamp := "2026-07-15T00:00:01Z"
  id := id
  record := .done
  append := .done

def armed1845 : BootFlag :=
  (ArmedOperation.f2Probe 1845 candidate1845).bootFlag "2026-07-15T00:00:00Z"

/-- The first reset of a run is learned. -/
theorem learned_first :
    Learned (ofRun "incident-1") (armBootFlag armed1845 .done {}) armed1845 (1845, 856) :=
  (learned_iff (ofRun "incident-1") (armBootFlag armed1845 .done {}) armed1845 (1845, 856) rfl
    (by decide)).mpr (.inl ⟨by decide, rfl, by decide⟩)

/-- A run whose first reset came while no candidate was armed loses the region of its second. -/
theorem second_reset_not_learned :
    ¬ ∀ (tdr : ForgeTdr) (dir : DataDir) (flag : BootFlag) (pair : Nat × Nat),
      ForgeTdr.flag dir = some flag → ForgeTdr.pair dir = some pair →
        Learned tdr dir flag pair := by
  intro h
  have hrefused := (h (ofRun "incident-2")
    (armBootFlag armed1845 .done ((ofRun "incident-1").run {})) armed1845 (1845, 856) rfl
    (by decide)).refused
  revert hrefused
  decide

end ForgeTdr

end Nidavellir

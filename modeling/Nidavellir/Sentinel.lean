import Nidavellir.StartupRecovery
import Nidavellir.F2Observation
import Mathlib.Data.List.Destutter

namespace Nidavellir

open SafeLoopStore

def sentinelCooldownS : Nat := 60

def sentinelTdrBumpBins : Nat := 3

def sentinelSilentBumpBins : Nat := 2

def sentinelMaxBumpsPerSession : Nat := 2

def crossLayerDedupS : Nat := 90

def f2SaneMvMin : Nat := 600

def f2SaneMvMax : Nat := 1150

def f2SaneMhzMin : Nat := 500

def f2SaneMhzMax : Nat := 3500

def isF2SanePoint (voltageMv freqMhz : Nat) : Bool :=
  (f2SaneMvMin ≤ voltageMv && voltageMv ≤ f2SaneMvMax) &&
    (f2SaneMhzMin ≤ freqMhz && freqMhz ≤ f2SaneMhzMax)

inductive SentinelAction
  | ignore
  | forgeOwns
  | bump (targetMhz newAnchorMv : Nat)
  | stock (targetMhz failedAnchorMv : Nat)
deriving DecidableEq, Repr

def sentinelDecide (applied : Option (Nat × Nat)) (bootFlagArmed : Bool)
    (bumpsThisSession : Nat) (binsAbove : List Nat) (bumpBins : Nat) : SentinelAction :=
  match applied with
  | none => .ignore
  | some (targetMhz, anchorMv) =>
    if bootFlagArmed then .forgeOwns
    else if bumpsThisSession ≥ sentinelMaxBumpsPerSession then .stock targetMhz anchorMv
    else
      match binsAbove[bumpBins - 1]? <|> binsAbove.getLast? with
      | some newAnchorMv => .bump targetMhz newAnchorMv
      | none => .stock targetMhz anchorMv

/-- `curve` is the live base curve: index, voltage and clock. -/
def binsAboveAnchor (curve : List (Nat × Nat × Nat)) (anchorMv : Nat) : List Nat :=
  let bins := ((curve.filter fun (_, mv, f) => isF2SanePoint mv f).map fun (_, mv, _) => mv).filter
    (anchorMv < ·)
  (bins.insertionSort (· ≤ ·)).destutter (· ≠ ·)

def AppliedProfile.pair (self : AppliedProfile) : Option (Nat × Nat) :=
  self.undervolt.map fun uv => (uv.targetMhz, uv.anchorMv)

/-- The pair that `load_applied` gives the sentinel. -/
def appliedPair (dir : DataDir) : Option (Nat × Nat) := (loadApplied dir).bind (·.pair)

def sameEpisode (lastAction now : Nat) : Bool :=
  lastAction != 0 && decide (now - lastAction < crossLayerDedupS)

/-- The exchange is retried until it succeeds, so it is one step on the stamp. -/
def claimActionEpoch (lastAction now : Nat) : Bool × Nat :=
  if sameEpisode lastAction now then (false, lastAction) else (true, now)

/-- The first half of `handle_failure`, up to the decision; `none` skips the same episode. -/
def decideFailure (dir : DataDir) (lastAction now bumpsThisSession : Nat)
    (curve : List (Nat × Nat × Nat)) (bumpBins : Nat) : Option SentinelAction :=
  if sameEpisode lastAction now then none
  else
    let applied := appliedPair dir
    some (sentinelDecide applied (isBootFlagArmed dir) bumpsThisSession
      (applied.elim [] fun pair => binsAboveAnchor curve pair.2) bumpBins)

/-- The event that `append_condemnation` writes for a failure in the field. -/
def fieldTdrCondemnation (timestamp gpuKey : String) (targetMhz failedMv : Nat) (note : String) :
    CondemnationEvent where
  timestamp := timestamp
  gpuKey := some gpuKey
  severity := .rigid
  kind := "field-tdr"
  targetMhz := targetMhz
  vfBinMv := failedMv
  runId := none
  qualificationContractVersion := some f2QualificationContractVersion
  note := some note
  rehabilitated := false

/-- The ledger half of `persist_field_failure`; `persistFieldFailure` is the half of the record. An
append that fails is only logged. -/
def appendFieldFailure (timestamp gpuKey : String) (targetMhz failedMv : Nat) (note : String)
    (result : FileResult) (ledger : List CondemnationEvent) : List CondemnationEvent :=
  if (condemnedPairs ledger gpuKey).rigid.contains (targetMhz, failedMv) then ledger
  else if result.isDone then
    ledger ++ [fieldTdrCondemnation timestamp gpuKey targetMhz failedMv note]
  else ledger

/-- The note of the ledger entry, with and without a fallback. -/
def failureNote (kind : String) : Option Nat → String
  | some newAnchorMv => s!"in-game {kind}; sentinel auto-fallback to {newAnchorMv} mV"
  | none => s!"{kind} after a prior bump this session; ladder exhausted, stock"

def fallbackLabel (priorLabel kind : String) (failedMv newAnchorMv strike : Nat) : String :=
  let baseLabel := ((priorLabel.splitOn " · sentinela").headD "").trimAsciiEnd
  s!"{baseLabel} · sentinela {kind}: {failedMv}→{newAnchorMv} mV (strike {strike}/3)"

/-- The profile that the fallback persists: the clock, the memory offset and the base label of the
profile that failed, at the new anchor. -/
def fallbackProfile (prior : Option AppliedProfile) (kind : String)
    (failed : Nat × Nat) (newAnchorMv bumpsThisSession : Nat) (appliedAt : Option String) :
    AppliedProfile where
  label := fallbackLabel (prior.elim "" (·.label)) kind failed.2 newAnchorMv (bumpsThisSession + 1)
  core := some ⟨failed.1, newAnchorMv⟩
  memOffsetMhz := prior.bind (·.memOffsetMhz)
  appliedAt := appliedAt
  undervolt := some ⟨failed.1, newAnchorMv⟩

/-- The reset that follows the persisted failure, with the clear of the profile that the ladder's
end and a failed reset make. -/
def resetAfterFailure (bump : Bool) (clockError gpuError : Option String) (results : ResetResults)
    (clear : FileResult) (dir : DataDir) : Bool × DataDir :=
  match reset clockError gpuError results dir with
  | (.ok (), dir) => if bump then (true, dir) else (false, clearApplied clear dir)
  | (.error _, dir) => (false, clearApplied clear dir)

/-- The failure of a pair as `persist_field_failure` leaves it behind. -/
def FieldRecorded (gpuKey : String) (dir : DataDir) (ledger : List CondemnationEvent)
    (pair : Nat × Nat) : Prop :=
  BlacklistRegion.around (pairIntent pair.1 pair.2) defaultBlacklistRadius ∈
      (loadRecord dir).blacklist ∧
    pair ∈ (condemnedPairs ledger gpuKey).rigid

/-- The intent of the boot flag is the pair's. -/
def ArmedFor (dir : DataDir) (pair : Nat × Nat) : Prop :=
  ∃ flag, readBootFlag dir = some flag ∧
    flag.intent.setting "gpu_freq_mhz" = pair.1 ∧ flag.intent.setting "gpu_voltage_mv" = pair.2

section

variable {dir : DataDir} {ledger : List CondemnationEvent} {gpuKey : String} {pair : Nat × Nat}
  {applied : Option (Nat × Nat)} {armed : Bool} {bumps bumpBins : Nat} {bins : List Nat}

theorem sameEpisode_iff {lastAction now : Nat} :
    sameEpisode lastAction now ↔ lastAction ≠ 0 ∧ now < lastAction + crossLayerDedupS := by
  unfold sameEpisode crossLayerDedupS
  simp only [Bool.and_eq_true, bne_iff_ne, decide_eq_true_eq]
  omega

theorem sentinelDecide_eq_ignore_iff :
    sentinelDecide applied armed bumps bins bumpBins = .ignore ↔ applied = none := by
  unfold sentinelDecide
  cases applied with
  | none => simp
  | some pair =>
    dsimp only
    split
    next => simp
    next =>
      split
      next => simp
      next => split <;> simp

theorem sentinelDecide_eq_forgeOwns
    (h : sentinelDecide applied armed bumps bins bumpBins = .forgeOwns) : armed = true := by
  unfold sentinelDecide at h
  cases applied with
  | none => simp at h
  | some pair =>
    dsimp only at h
    split at h
    next harmed => exact harmed
    next =>
      split at h
      next => simp at h
      next => split at h <;> simp at h

theorem sentinelDecide_eq_bump {targetMhz newAnchorMv : Nat}
    (h : sentinelDecide applied armed bumps bins bumpBins = .bump targetMhz newAnchorMv) :
    armed = false ∧ bumps < sentinelMaxBumpsPerSession ∧ newAnchorMv ∈ bins ∧
      ∃ anchorMv, applied = some (targetMhz, anchorMv) := by
  unfold sentinelDecide at h
  cases applied with
  | none => simp at h
  | some pair =>
    dsimp only at h
    split at h
    next => simp at h
    next harmed =>
      split at h
      next => simp at h
      next hbumps =>
        split at h
        next newAnchor hbin =>
          obtain ⟨rfl, rfl⟩ := SentinelAction.bump.inj h
          refine ⟨by simpa using harmed, by omega, ?_, pair.2, rfl⟩
          cases hget : bins[bumpBins - 1]? with
          | some mv =>
            obtain rfl : mv = newAnchor := by simpa [hget] using hbin
            exact List.mem_of_getElem? hget
          | none =>
            have hlast : bins.getLast? = some newAnchor := by simpa [hget] using hbin
            exact List.mem_of_getLast? hlast
        next => simp at h

theorem sentinelDecide_eq_stock {targetMhz failedAnchorMv : Nat}
    (h : sentinelDecide applied armed bumps bins bumpBins = .stock targetMhz failedAnchorMv) :
    applied = some (targetMhz, failedAnchorMv) := by
  unfold sentinelDecide at h
  cases applied with
  | none => simp at h
  | some pair =>
    dsimp only at h
    split at h
    next => simp at h
    next =>
      split at h
      next =>
        obtain ⟨rfl, rfl⟩ := SentinelAction.stock.inj h
        rfl
      next =>
        split at h
        next => simp at h
        next =>
          obtain ⟨rfl, rfl⟩ := SentinelAction.stock.inj h
          rfl

theorem lt_of_mem_binsAboveAnchor {curve : List (Nat × Nat × Nat)} {anchorMv mv : Nat}
    (h : mv ∈ binsAboveAnchor curve anchorMv) : anchorMv < mv := by
  have hsub := List.destutter_sublist (· ≠ ·)
    ((((curve.filter fun (_, mv, f) => isF2SanePoint mv f).map fun (_, mv, _) => mv).filter
      (anchorMv < ·)).insertionSort (· ≤ ·))
  have hmem := (List.mem_insertionSort _).mp (hsub.subset h)
  simpa using (List.mem_filter.mp hmem).2

end

section Files

variable {dir dir' : DataDir} {ledger ledger' : List CondemnationEvent} {gpuKey : String}
  {pair : Nat × Nat} {results : ResetResults}

theorem ArmedFor.armed (h : ArmedFor dir pair) : isBootFlagArmed dir := by
  obtain ⟨flag, hflag, -⟩ := h
  have hfile : dir.bootFlag = .holds flag := StoredFile.read_eq_some_iff.mp hflag
  rw [isBootFlagArmed, hfile]
  rfl

theorem armedFor_armBootFlag {profile : AppliedProfile} (h : profile.pair = some pair)
    (timestamp : String) :
    ArmedFor (armBootFlag (profile.bootFlag timestamp) .done dir) pair := by
  obtain ⟨uv, huv, rfl⟩ := Option.map_eq_some_iff.mp h
  refine ⟨profile.bootFlag timestamp, rfl, ?_⟩
  rw [AppliedProfile.bootFlag, huv]
  cases hmem : profile.memOffsetMhz <;> simp [undervoltIntent, TuningPoint.fromAxes]

theorem appliedPair_congr (h : dir'.applied = dir.applied) :
    appliedPair dir' = appliedPair dir := by
  rw [appliedPair, appliedPair, loadApplied, loadApplied, h]

theorem FieldRecorded.mono (h : FieldRecorded gpuKey dir ledger pair)
    (hrecord : (loadRecord dir).blacklist ⊆ (loadRecord dir').blacklist)
    (hledger : (condemnedPairs ledger gpuKey).rigid ⊆ (condemnedPairs ledger' gpuKey).rigid) :
    FieldRecorded gpuKey dir' ledger' pair :=
  ⟨hrecord h.1, hledger h.2⟩

theorem FieldRecorded.congr (h : FieldRecorded gpuKey dir ledger pair)
    (hrecord : dir'.record = dir.record) : FieldRecorded gpuKey dir' ledger pair := by
  rw [FieldRecorded, loadRecord, hrecord]
  exact h

theorem loadRecord_saveRecord_done (record : SafeLoopRecord) :
    loadRecord (saveRecord record .done dir) = record := rfl

/-- The saved record knows the pair's region and forgets none. -/
theorem persistFieldFailure_blacklist (dir : DataDir) (targetMhz failedMv : Nat) :
    BlacklistRegion.around (pairIntent targetMhz failedMv) defaultBlacklistRadius ∈
        (loadRecord (persistFieldFailure targetMhz failedMv .done dir)).blacklist ∧
      (loadRecord dir).blacklist ⊆
        (loadRecord (persistFieldFailure targetMhz failedMv .done dir)).blacklist := by
  unfold persistFieldFailure
  dsimp only
  split
  next hknown => exact ⟨by simpa [pairIntent] using hknown, List.Subset.refl _⟩
  next =>
    rw [loadRecord_saveRecord_done]
    refine ⟨List.mem_append_right _ (List.mem_singleton.mpr rfl), ?_⟩
    exact List.subset_append_left _ _

theorem fieldTdrCondemnation_push (timestamp note : String) :
    condemnedPairs (ledger ++ [fieldTdrCondemnation timestamp gpuKey pair.1 pair.2 note]) gpuKey =
      (condemnedPairs ledger gpuKey).push
        (fieldTdrCondemnation timestamp gpuKey pair.1 pair.2 note) := by
  have hcondemns : condemns gpuKey (fieldTdrCondemnation timestamp gpuKey pair.1 pair.2 note) := by
    simp [condemns, CondemnationEvent.foreign, fieldTdrCondemnation]
  rw [condemnedPairs_append rfl, if_pos hcondemns]

/-- The failed pair joins the Rigid pairs, and nothing else changes. -/
theorem appendFieldFailure_pairs (ledger : List CondemnationEvent) (gpuKey : String)
    (pair : Nat × Nat) (timestamp note : String) :
    (∀ other, other ∈ (condemnedPairs
        (appendFieldFailure timestamp gpuKey pair.1 pair.2 note .done ledger) gpuKey).rigid ↔
      other ∈ (condemnedPairs ledger gpuKey).rigid ∨ other = pair) ∧
      (condemnedPairs (appendFieldFailure timestamp gpuKey pair.1 pair.2 note .done ledger)
        gpuKey).quarantine = (condemnedPairs ledger gpuKey).quarantine := by
  unfold appendFieldFailure
  split
  next hknown =>
    have hmem : pair ∈ (condemnedPairs ledger gpuKey).rigid := by simpa using hknown
    refine ⟨fun other => ⟨Or.inl, ?_⟩, rfl⟩
    rintro (hold | rfl)
    · exact hold
    · exact hmem
  next =>
    have hdone : FileResult.done.isDone = true := rfl
    rw [if_pos hdone, fieldTdrCondemnation_push]
    refine ⟨fun other => ?_, rfl⟩
    exact List.mem_append.trans (or_congr_right List.mem_singleton)

theorem fieldRecorded_persist (timestamp note : String) :
    FieldRecorded gpuKey (persistFieldFailure pair.1 pair.2 .done dir)
      (appendFieldFailure timestamp gpuKey pair.1 pair.2 note .done ledger) pair :=
  ⟨(persistFieldFailure_blacklist dir pair.1 pair.2).1,
    ((appendFieldFailure_pairs ledger gpuKey pair timestamp note).1 pair).mpr (Or.inr rfl)⟩

theorem FieldRecorded.persist (h : FieldRecorded gpuKey dir ledger pair) (other : Nat × Nat)
    (timestamp note : String) :
    FieldRecorded gpuKey (persistFieldFailure other.1 other.2 .done dir)
      (appendFieldFailure timestamp gpuKey other.1 other.2 note .done ledger) pair :=
  h.mono (persistFieldFailure_blacklist dir other.1 other.2).2
    fun _ hold => ((appendFieldFailure_pairs ledger gpuKey other timestamp note).1 _).mpr
      (Or.inl hold)

/-- A reset keeps every region, and leaves no profile where it succeeds. -/
theorem reset_done (clockError gpuError : Option String) (happlied : results.applied = .done)
    (hrecord : results.record = .done) :
    (loadRecord (reset clockError gpuError results dir).2).blacklist = (loadRecord dir).blacklist ∧
      ((reset clockError gpuError results dir).1.isOk = true →
        appliedPair (reset clockError gpuError results dir).2 = none) := by
  rcases reset_cases clockError gpuError results dir with ⟨hfailed, hdir⟩ | ⟨-, -, hdir, -⟩
  · rw [hdir]
    exact ⟨rfl, fun hok => by simp [hfailed] at hok⟩
  · rw [hdir, happlied, hrecord]
    exact ⟨rfl, fun _ => rfl⟩

/-- After a failure the profile is gone, whatever the hardware said. -/
theorem resetAfterFailure_done (bump : Bool) (clockError gpuError : Option String)
    (dir : DataDir) (happlied : results.applied = .done) (hrecord : results.record = .done) :
    appliedPair (resetAfterFailure bump clockError gpuError results .done dir).2 = none ∧
      (loadRecord (resetAfterFailure bump clockError gpuError results .done dir).2).blacklist =
        (loadRecord dir).blacklist := by
  have hreset : _ ∧ ((reset clockError gpuError results dir).1.isOk = true → _) :=
    reset_done clockError gpuError happlied hrecord
  unfold resetAfterFailure
  split
  next dir' heq =>
    rw [heq] at hreset
    cases bump with
    | true => exact ⟨hreset.2 rfl, hreset.1⟩
    | false => exact ⟨rfl, hreset.1⟩
  next e dir' heq =>
    rw [heq] at hreset
    exact ⟨rfl, hreset.1⟩

theorem runStartupRecovery_applied (bugcheck : CrashClass) (recovery : RecoveryResults) :
    appliedPair (runStartupRecovery bugcheck recovery dir).2 = appliedPair dir := by
  rw [appliedPair, loadApplied, runStartupRecovery_keeps_applied]
  rfl

theorem runStartupRecovery_blacklist (bugcheck : CrashClass) {recovery : RecoveryResults}
    (h : recovery.saveRecord = .done) :
    (loadRecord dir).blacklist ⊆
      (loadRecord (runStartupRecovery bugcheck recovery dir).2).blacklist := by
  cases hflag : crashFlag dir with
  | none =>
    rw [runStartupRecovery_clean hflag, h, loadRecord_saveRecord_done]
    exact ( applyRecovery_blacklist_prefix _ _).subset
  | some flag =>
    rw [runStartupRecovery_armed hflag, h, loadRecord_saveRecord_done]
    exact ( applyRecovery_blacklist_prefix _ _).subset

/-- A recovery keeps the flag file or removes it. -/
theorem runStartupRecovery_bootFlag (bugcheck : CrashClass) (recovery : RecoveryResults)
    (dir : DataDir) :
    (runStartupRecovery bugcheck recovery dir).2.bootFlag = .absent ∨
      (runStartupRecovery bugcheck recovery dir).2.bootFlag = dir.bootFlag := by
  cases hflag : crashFlag dir with
  | none =>
    rw [runStartupRecovery_clean hflag]
    exact clearedFlag_cases recovery dir
  | some flag =>
    rw [runStartupRecovery_armed hflag]
    exact Or.inr rfl

end Files

end Nidavellir

import Nidavellir.ApplyPower
import Nidavellir.DataFiles
import Nidavellir.ForgePublication
import Nidavellir.TuningRequests

namespace Nidavellir

/-- The progress as `forge_state.json` stores it; `rest` is the telemetry, which a restart only
carries. -/
structure ForgeCheckpoint (Rest : Type) extends PowerSweepProgress PowerSweepPoint where
  isUndervolt : Bool := false
  note : Option String := none
  log : List String := []
  learnedPoints : Nat := 0
  estimatedRemainingMs : Option Nat := none
  estimatedTotalUpperMs : Option Nat := none
  rest : Rest

structure ForgeStateFile (Rest : Type) where
  schemaVersion : Nat
  gpuKey : String
  progress : ForgeCheckpoint Rest

def forgeStateSchema : Nat := 1

def forgeStateLogTail : Nat := 40

inductive ForgeStateLoad (Rest : Type)
  | loaded (progress : ForgeCheckpoint Rest)
  | gpuMismatch (stored : String)
  | schemaMismatch (found : Nat)
  | corrupt

/-- What a restart reads beside the file. -/
structure RestoreEvidence where
  record : SafeLoopRecord := {}
  ledger : List CondemnationEvent := []
  observations : List F2Observation := []
  watts : Float32 → Option ℚ := fun _ => none

def RestoreEvidence.condemned (self : RestoreEvidence) (gpuKey : String) : CondemnedPairs :=
  condemnedPairs self.ledger gpuKey

/-- The two checks of an Apply on a pair. -/
def RestoreEvidence.rejects (self : RestoreEvidence) (gpuKey : String) (pair : ApplyPair) : Bool :=
  fieldPairBlacklisted self.record pair.1 pair.2 ||
    (self.condemned gpuKey).refuses pair.1 pair.2

section Publish

variable (watts : Float32 → Option ℚ) (observations : List F2Observation) (runId : Option String)
  (gpuKey : String)

/-- Without a run, the highest of the runs whose gate is complete. -/
def applyGateP99 (targetMhz anchorMv : Nat) : Option ℚ :=
  match runId with
  | some runId =>
    currentCompleteApplyGateP99AtAnchor watts observations runId targetMhz anchorMv gpuKey
  | none => ((observations.map F2Observation.runId).filterMap fun runId =>
      currentCompleteApplyGateP99AtAnchor watts observations runId targetMhz anchorMv gpuKey).max?

def publishProfilePower (point : PowerSweepPoint) : Except String (PowerSweepPoint × Bool) :=
  let targetMhz := point.target
  match point.vfTableVoltageMv with
  | none => .error (toString targetMhz ++ " MHz has no exact Apply anchor")
  | some applyMv =>
    let pair := toString targetMhz ++ " MHz @ " ++ toString applyMv ++ " mV"
    match point.powerP99W.filter (0 < ·) with
    | none => .error (pair ++ " has no calibrated p99")
    | some discoveryP99 =>
      match applyGateP99 watts observations runId gpuKey targetMhz applyMv with
      | none => .error (pair ++ " has no complete current v24 gate p99 measurement")
      | some qualificationP99 =>
        let publishedP99 := max discoveryP99 qualificationP99
        .ok ({ point with
          powerP99W := some publishedP99
          perfPerWatt := point.sustained / publishedP99 }, decide (discoveryP99 < publishedP99))

def publishProfileSetPower : List (Option PowerSweepPoint) →
    Except String (List (Option PowerSweepPoint) × Nat)
  | [] => .ok ([], 0)
  | none :: rest => do
    let (published, changed) ← publishProfileSetPower rest
    .ok (none :: published, changed)
  | some point :: rest => do
    let (point, raised) ← publishProfilePower watts observations runId gpuKey point
    let (published, changed) ← publishProfileSetPower rest
    .ok (some point :: published, changed + raised.toNat)

end Publish

/-- With a run or without, this is the one query over the passes of the gate. -/
theorem applyGateP99_eq (watts : Float32 → Option ℚ) (observations : List F2Observation)
    (runId : Option String) (gpuKey : String) (targetMhz anchorMv : Nat) :
    applyGateP99 watts observations runId gpuKey targetMhz anchorMv =
      completeApplyGateP99AtAnchor watts observations runId targetMhz anchorMv gpuKey := by
  cases runId with
  | none => exact highestCompleteApplyGate_eq.symm
  | some runId => exact currentCompleteApplyGate_eq

/-- A run publishes by the same function. -/
theorem publishProfilePower_of_run (run : ForgeRun) (observations : List F2Observation)
    (point : PowerSweepPoint) :
    publishProfilePower run.watts observations (some run.runId) run.gpuKey point =
      publishF2ProfilePowerFromApplyQualification run observations point := rfl

/-- The bin that a restart checks. -/
def restoredAnchorMv (point : PowerSweepPoint) : Nat :=
  (point.vfTableVoltageMv.or point.boundaryVoltageMv).getD point.voltageMv

def f2ProfileSetHasFieldFailure (record : SafeLoopRecord) (condemned : CondemnedPairs)
    (profiles : List (Option PowerSweepPoint)) : Bool :=
  (profiles.filterMap id).any fun point =>
    fieldPairBlacklisted record point.target (restoredAnchorMv point) ||
      condemned.refuses point.target (restoredAnchorMv point)

namespace ForgeCheckpoint

variable {Rest : Type} (prog : ForgeCheckpoint Rest)

def logTail : ForgeCheckpoint Rest :=
  { prog with log := prog.log.drop (prog.log.length - forgeStateLogTail) }

def demoteStale : ForgeCheckpoint Rest :=
  if prog.isUndervolt && prog.profilesQualified &&
      !f2ProfilePointsHaveCurrentApplyQualification prog.profiles then
    { prog with
      profilesQualified := false
      phase := if prog.phase == "finished" then "provisional" else prog.phase
      note := some ("Perfis F2 restaurados são anteriores à qualificação automática v8; " ++
        "execute Forge novamente.") }
  else prog

def markInterrupted : ForgeCheckpoint Rest :=
  if prog.running then
    { prog with
      phase := "interrupted"
      estimatedRemainingMs := none
      estimatedTotalUpperMs := none
      note := some ("A execução anterior foi interrompida; " ++ toString prog.learnedPoints ++
        " dwell(s) já aprendidos permanecem salvos.") }
  else prog

def pausedBlockReason : String :=
  "validando versão do programa, hardware e driver para retomada"

/-- No stored `running` or `resume_available` bit survives. -/
def stop : ForgeCheckpoint Rest :=
  { prog with
    running := false
    resumeAvailable := false
    resumeBlockReason :=
      if prog.phase == "paused" then some pausedBlockReason else prog.resumeBlockReason }

variable (view : RestoreEvidence) (gpuKey : String)

def rejectCondemned : ForgeCheckpoint Rest :=
  if prog.isUndervolt && prog.profilesQualified &&
      f2ProfileSetHasFieldFailure view.record (view.condemned gpuKey) prog.profiles then
    { prog with
      profilesQualified := false
      phase := "field_rejected"
      note := some ("Um perfil restaurado foi condenado por evidência durável de uso real; " ++
        "execute Forge novamente para ressintetizar acima da fronteira de campo.") }
  else prog

def holdForIncident : ForgeCheckpoint Rest :=
  if view.record.pendingForgeIncident.isSome then
    { prog with
      profilesQualified := false
      phase := "needs_attention"
      note := some ("Uma execução Forge interrompida requer revisão e reconhecimento explícito " ++
        "antes de continuar.") }
  else prog

/-- The flag says that the checkpoint is saved again. -/
def refreshPower : ForgeCheckpoint Rest × Bool :=
  if prog.isUndervolt && prog.profilesQualified then
    match publishProfileSetPower view.watts view.observations none gpuKey prog.profiles with
    | .ok ([godforge, brokkrs, deepCalm], updated) =>
      if 0 < updated then
        ({ prog with
          godforge, brokkrs, deepCalm
          recommended := brokkrs
          log := prog.log ++ ["FORGE: p99 publicado restaurado pelo maior gate v24 completo " ++
            "aprovado (" ++ toString updated ++ " perfil(is) elevado(s))."] }, true)
      else (prog, false)
    | _ => (prog, false)
  else (prog, false)

end ForgeCheckpoint

section Files

variable {Rest : Type} (json : SerdeJson (ForgeStateFile Rest)) (view : RestoreEvidence)
  (gpuKey : String)

def encodeForgeState (prog : ForgeCheckpoint Rest) : ByteArray :=
  Utf8.encode (json.toString ⟨forgeStateSchema, gpuKey, prog.logTail⟩)

def decodeForgeState (data : List Char) : ForgeStateLoad Rest :=
  match json.fromStr (trimBom data) with
  | none => .corrupt
  | some file =>
    if file.schemaVersion ≠ forgeStateSchema then .schemaMismatch file.schemaVersion
    else if file.gpuKey ≠ gpuKey then .gpuMismatch file.gpuKey
    else .loaded file.progress.demoteStale.markInterrupted.stop

/-- The restored progress, and the bytes that the restart itself saves. -/
def loadForgeState (file : Option ByteArray) :
    Option (ForgeCheckpoint Rest) × Option ByteArray :=
  match file.bind Utf8.decode with
  | none => (none, none)
  | some data =>
    match decodeForgeState json gpuKey data with
    | .loaded prog =>
      let (prog, saves) := ((prog.rejectCondemned view gpuKey).holdForIncident view).refreshPower
        view gpuKey
      (some prog, if saves then some (encodeForgeState json gpuKey prog) else none)
    | _ => (none, none)

end Files

section Power

variable {watts : Float32 → Option ℚ} {observations : List F2Observation} {runId : Option String}
  {gpuKey : String}

/-- A point but for its power, which is all that a publication sets. -/
def PowerSweepPoint.unpowered (point : PowerSweepPoint) : PowerSweepPoint :=
  { point with powerP99W := none, perfPerWatt := 0 }

theorem publishProfilePower_eq {point : PowerSweepPoint} {applyMv : Nat}
    {discoveryP99 qualificationP99 : ℚ} (hmv : point.vfTableVoltageMv = some applyMv)
    (hdiscovery : point.powerP99W.filter (0 < ·) = some discoveryP99)
    (hgate : applyGateP99 watts observations runId gpuKey point.target applyMv =
      some qualificationP99) :
    publishProfilePower watts observations runId gpuKey point =
      .ok ({ point with
        powerP99W := some (max discoveryP99 qualificationP99)
        perfPerWatt := point.sustained / max discoveryP99 qualificationP99 },
        decide (discoveryP99 < max discoveryP99 qualificationP99)) := by
  simp only [publishProfilePower, hmv, hdiscovery, hgate]

theorem publishProfilePower_ok {point published : PowerSweepPoint} {raised : Bool}
    (h : publishProfilePower watts observations runId gpuKey point = .ok (published, raised)) :
    published.unpowered = point.unpowered ∧
      publishProfilePower watts observations runId gpuKey published = .ok (published, false) := by
  unfold publishProfilePower at h
  simp only at h
  split at h
  next => cases h
  next applyMv hmv =>
    split at h
    next => cases h
    next discoveryP99 hdiscovery =>
      split at h
      next => cases h
      next qualificationP99 hgate =>
        obtain ⟨hpublished, -⟩ := Prod.mk.inj (Except.ok.inj h)
        have hpositive : 0 < discoveryP99 := by
          have hsome := Option.eq_some_of_filter_eq_some hdiscovery
          rw [hsome] at hdiscovery
          simpa using hdiscovery
        have hmax : 0 < max discoveryP99 qualificationP99 := lt_max_of_lt_left hpositive
        have hmv' : published.vfTableVoltageMv = some applyMv := hpublished ▸ hmv
        have hpower : published.powerP99W.filter (0 < ·) =
            some (max discoveryP99 qualificationP99) := by
          rw [← hpublished]
          simp [hmax]
        have hgate' : applyGateP99 watts observations runId gpuKey
            published.target applyMv = some qualificationP99 := hpublished ▸ hgate
        refine ⟨by rw [← hpublished]; rfl, ?_⟩
        -- the published power is already the greatest of the two
        rw [publishProfilePower_eq hmv' hpower hgate', max_eq_left (le_max_right _ _),
          decide_eq_false (lt_irrefl _), ← hpublished]
        rfl

/-- A published set differs from the old one in its power only, and a second publication raises
nothing. -/
theorem publishProfileSetPower_ok {profiles published : List (Option PowerSweepPoint)}
    {changed : Nat}
    (h : publishProfileSetPower watts observations runId gpuKey profiles =
      .ok (published, changed)) :
    published.map (Option.map PowerSweepPoint.unpowered) =
        profiles.map (Option.map PowerSweepPoint.unpowered) ∧
      publishProfileSetPower watts observations runId gpuKey published = .ok (published, 0) := by
  induction profiles generalizing published changed with
  | nil =>
    obtain ⟨rfl, -⟩ := Prod.mk.inj (Except.ok.inj h)
    exact ⟨rfl, rfl⟩
  | cons profile rest ih =>
    cases profile with
    | none =>
      cases hrest : publishProfileSetPower watts observations runId gpuKey rest with
      | error e => simp [publishProfileSetPower, hrest, bind, Except.bind] at h
      | ok result =>
        simp only [publishProfileSetPower, hrest, bind, Except.bind] at h
        obtain ⟨rfl, -⟩ := Prod.mk.inj (Except.ok.inj h)
        obtain ⟨hsame, hagain⟩ := ih hrest
        refine ⟨by simp [hsame], ?_⟩
        simp [publishProfileSetPower, hagain, bind, Except.bind]
    | some point =>
      cases hpoint : publishProfilePower watts observations runId gpuKey point with
      | error e => simp [publishProfileSetPower, hpoint, bind, Except.bind] at h
      | ok raised =>
        cases hrest : publishProfileSetPower watts observations runId gpuKey rest with
        | error e => simp [publishProfileSetPower, hpoint, hrest, bind, Except.bind] at h
        | ok result =>
          simp only [publishProfileSetPower, hpoint, hrest, bind, Except.bind] at h
          obtain ⟨rfl, -⟩ := Prod.mk.inj (Except.ok.inj h)
          obtain ⟨hsame, hagain⟩ := ih hrest
          obtain ⟨hunpowered, hpointAgain⟩ := publishProfilePower_ok hpoint
          refine ⟨by simp [hsame, hunpowered], ?_⟩
          simp [publishProfileSetPower, hagain, hpointAgain, bind, Except.bind]

theorem filterMap_unpowered (profiles : List (Option PowerSweepPoint)) :
    (profiles.map (Option.map PowerSweepPoint.unpowered)).filterMap id =
      (profiles.filterMap id).map PowerSweepPoint.unpowered := by
  rw [List.filterMap_map, List.map_filterMap]
  rfl

theorem exists_of_unpowered {profiles published : List (Option PowerSweepPoint)}
    (hsame : published.map (Option.map PowerSweepPoint.unpowered) =
      profiles.map (Option.map PowerSweepPoint.unpowered))
    {point : PowerSweepPoint} (hmem : some point ∈ profiles) :
    ∃ other, some other ∈ published ∧ other.unpowered = point.unpowered := by
  have himage : some point.unpowered ∈ published.map (Option.map PowerSweepPoint.unpowered) := by
    rw [hsame]
    exact List.mem_map_of_mem hmem
  obtain ⟨profile, hprofile, heq⟩ := List.mem_map.mp himage
  obtain ⟨other, rfl, hother⟩ := Option.map_eq_some_iff.mp heq
  exact ⟨other, hprofile, hother⟩

/-- The checks of a restart do not look at the power of a profile. -/
theorem fieldFailure_unpowered (record : SafeLoopRecord) (condemned : CondemnedPairs)
    (profiles : List (Option PowerSweepPoint)) :
    f2ProfileSetHasFieldFailure record condemned
        (profiles.map (Option.map PowerSweepPoint.unpowered)) =
      f2ProfileSetHasFieldFailure record condemned profiles := by
  unfold f2ProfileSetHasFieldFailure
  rw [filterMap_unpowered, List.any_map]
  rfl

theorem currentQualification_unpowered (profiles : List (Option PowerSweepPoint)) :
    f2ProfilePointsHaveCurrentApplyQualification
        (profiles.map (Option.map PowerSweepPoint.unpowered)) =
      f2ProfilePointsHaveCurrentApplyQualification profiles := by
  unfold f2ProfilePointsHaveCurrentApplyQualification
  have hsome : Option.isSome ∘ Option.map PowerSweepPoint.unpowered = Option.isSome := by
    funext profile
    cases profile <;> rfl
  rw [filterMap_unpowered, List.all_map, List.all_map, hsome]
  rfl

end Power

namespace ForgeCheckpoint

variable {Rest : Type} {prog : ForgeCheckpoint Rest} {view : RestoreEvidence} {gpuKey : String}

def Current (prog : ForgeCheckpoint Rest) : Prop :=
  prog.isUndervolt = true → prog.profilesQualified = true →
    f2ProfilePointsHaveCurrentApplyQualification prog.profiles = true

def Spared (view : RestoreEvidence) (gpuKey : String) (prog : ForgeCheckpoint Rest) : Prop :=
  prog.isUndervolt = true → prog.profilesQualified = true →
    f2ProfileSetHasFieldFailure view.record (view.condemned gpuKey) prog.profiles = false

/-- The task does not run, and a pause waits for the check of its compatibility. -/
structure Stopped (prog : ForgeCheckpoint Rest) : Prop where
  running : prog.running = false
  resumeAvailable : prog.resumeAvailable = false
  resumeBlockReason : prog.phase = "paused" → prog.resumeBlockReason = some pausedBlockReason

/-- A restart changes nothing of the checkpoint but the length of its log. -/
structure Settled (view : RestoreEvidence) (gpuKey : String) (prog : ForgeCheckpoint Rest) :
    Prop where
  stopped : prog.Stopped
  current : prog.Current
  spared : prog.Spared view gpuKey
  held : prog.holdForIncident view = prog
  published : prog.isUndervolt = true → prog.profilesQualified = true →
    ∀ published changed, publishProfileSetPower view.watts view.observations none gpuKey
      prog.profiles = .ok (published, changed) → changed = 0

theorem Settled.logTail (h : prog.Settled view gpuKey) : prog.logTail.Settled view gpuKey := by
  refine ⟨⟨h.stopped.1, h.stopped.2, h.stopped.3⟩, h.current, h.spared, ?_, h.published⟩
  have hcommutes : prog.logTail.holdForIncident view = (prog.holdForIncident view).logTail := by
    unfold holdForIncident
    split <;> rfl
  rw [hcommutes, h.held]

theorem Settled.demoteStale_eq (h : prog.Settled view gpuKey) : prog.demoteStale = prog := by
  refine if_neg fun hstale => ?_
  simp only [Bool.and_eq_true, Bool.not_eq_true'] at hstale
  rw [h.current hstale.1.1 hstale.1.2] at hstale
  cases hstale.2

theorem Settled.markInterrupted_eq (h : prog.Settled view gpuKey) :
    prog.markInterrupted = prog := by
  unfold markInterrupted
  rw [h.stopped.running]
  rfl

theorem Settled.stop_eq (h : prog.Settled view gpuKey) : prog.stop = prog := by
  have hreason : (if prog.phase == "paused" then some pausedBlockReason
      else prog.resumeBlockReason) = prog.resumeBlockReason := by
    split
    next hpaused => exact (h.stopped.resumeBlockReason (beq_iff_eq.mp hpaused)).symm
    next => rfl
  have hflags : ∀ running available, running = prog.running →
      available = prog.resumeAvailable →
      { prog with running := running, resumeAvailable := available } = prog := by
    rintro _ _ rfl rfl
    rfl
  unfold stop
  rw [hreason]
  exact hflags _ _ h.stopped.running.symm h.stopped.resumeAvailable.symm

theorem Settled.rejectCondemned_eq (h : prog.Settled view gpuKey) :
    prog.rejectCondemned view gpuKey = prog := by
  refine if_neg fun hfailed => ?_
  simp only [Bool.and_eq_true] at hfailed
  rw [h.spared hfailed.1.1 hfailed.1.2] at hfailed
  cases hfailed.2

theorem Settled.refreshPower_eq (h : prog.Settled view gpuKey) :
    prog.refreshPower view gpuKey = (prog, false) := by
  unfold refreshPower
  split
  next hqualified =>
    simp only [Bool.and_eq_true] at hqualified
    split
    next godforge brokkrs deepCalm updated hpublished =>
      rw [h.published hqualified.1 hqualified.2 _ _ hpublished]
      rfl
    next => rfl
  next => rfl

variable (view gpuKey) in
/-- All that a restart does to a stored checkpoint of this card. -/
def restored (stored : ForgeCheckpoint Rest) : ForgeCheckpoint Rest × Bool :=
  ((stored.demoteStale.markInterrupted.stop.rejectCondemned view gpuKey).holdForIncident
    view).refreshPower view gpuKey

theorem Settled.restored_eq (h : prog.Settled view gpuKey) :
    restored view gpuKey prog = (prog, false) := by
  unfold restored
  rw [h.demoteStale_eq, h.markInterrupted_eq, h.stop_eq, h.rejectCondemned_eq, h.held,
    h.refreshPower_eq]

theorem current_demoteStale (prog : ForgeCheckpoint Rest) : prog.demoteStale.Current := by
  unfold demoteStale
  split
  next => exact fun _ hqualified => by cases hqualified
  next hcurrent =>
    intro hundervolt hqualified
    simpa [hundervolt, hqualified] using hcurrent

theorem Current.markInterrupted (h : prog.Current) : prog.markInterrupted.Current := by
  unfold ForgeCheckpoint.markInterrupted
  split
  next => exact h
  next => exact h

theorem Current.rejectCondemned (h : prog.Current) :
    (prog.rejectCondemned view gpuKey).Current := by
  unfold ForgeCheckpoint.rejectCondemned
  split
  next => exact fun _ hqualified => by cases hqualified
  next => exact h

theorem Current.holdForIncident (h : prog.Current) : (prog.holdForIncident view).Current := by
  unfold ForgeCheckpoint.holdForIncident
  split
  next => exact fun _ hqualified => by cases hqualified
  next => exact h

theorem stopped_stop (prog : ForgeCheckpoint Rest) : prog.stop.Stopped := by
  refine ⟨rfl, rfl, fun hpaused => ?_⟩
  exact if_pos (beq_iff_eq.mpr hpaused)

theorem Stopped.rejectCondemned (h : prog.Stopped) :
    (prog.rejectCondemned view gpuKey).Stopped := by
  unfold ForgeCheckpoint.rejectCondemned
  split
  next =>
    have hphase : "field_rejected" ≠ "paused" := by decide
    exact ⟨h.running, h.resumeAvailable, fun hpaused => absurd hpaused hphase⟩
  next => exact h

theorem Stopped.holdForIncident (h : prog.Stopped) : (prog.holdForIncident view).Stopped := by
  unfold ForgeCheckpoint.holdForIncident
  split
  next =>
    have hphase : "needs_attention" ≠ "paused" := by decide
    exact ⟨h.running, h.resumeAvailable, fun hpaused => absurd hpaused hphase⟩
  next => exact h

theorem spared_rejectCondemned (view : RestoreEvidence) (gpuKey : String)
    (prog : ForgeCheckpoint Rest) :
    (prog.rejectCondemned view gpuKey).Spared view gpuKey := by
  unfold rejectCondemned
  split
  next => exact fun _ hqualified => by cases hqualified
  next hspared =>
    intro hundervolt hqualified
    simpa [hundervolt, hqualified] using hspared

theorem Spared.holdForIncident (h : prog.Spared view gpuKey) :
    (prog.holdForIncident view).Spared view gpuKey := by
  unfold ForgeCheckpoint.holdForIncident
  split
  next => exact fun _ hqualified => by cases hqualified
  next => exact h

theorem holdForIncident_again (prog : ForgeCheckpoint Rest) :
    (prog.holdForIncident view).holdForIncident view = prog.holdForIncident view := by
  unfold holdForIncident
  split <;> rfl

/-- Behind the pass of the incident, qualified profiles are held back by none. -/
theorem no_incident_of_held (h : prog.holdForIncident view = prog)
    (hqualified : prog.profilesQualified = true) : view.record.pendingForgeIncident = none := by
  cases hpending : view.record.pendingForgeIncident with
  | none => rfl
  | some incident =>
    rw [← h, holdForIncident, hpending] at hqualified
    cases hqualified

theorem Settled.of_refreshPower (hstopped : prog.Stopped) (hcurrent : prog.Current)
    (hspared : prog.Spared view gpuKey) (hheld : prog.holdForIncident view = prog) :
    (prog.refreshPower view gpuKey).1.Settled view gpuKey := by
  have hkept (hpublished : prog.isUndervolt = true → prog.profilesQualified = true →
      ∀ published changed, publishProfileSetPower view.watts view.observations none gpuKey
        prog.profiles = .ok (published, changed) → changed = 0) : prog.Settled view gpuKey :=
    ⟨hstopped, hcurrent, hspared, hheld, hpublished⟩
  unfold refreshPower
  split
  next hqualified =>
    simp only [Bool.and_eq_true] at hqualified
    split
    next godforge brokkrs deepCalm updated hpublish =>
      obtain ⟨hsame, hagain⟩ := publishProfileSetPower_ok hpublish
      split
      next =>
        refine ⟨⟨hstopped.1, hstopped.2, hstopped.3⟩, fun _ _ => ?_, fun _ _ => ?_, ?_,
          fun _ _ published changed hok => ?_⟩
        · have hold := hcurrent hqualified.1 hqualified.2
          rw [← currentQualification_unpowered, ← hsame, currentQualification_unpowered] at hold
          exact hold
        · have hold := hspared hqualified.1 hqualified.2
          rw [← fieldFailure_unpowered, ← hsame, fieldFailure_unpowered] at hold
          exact hold
        · have hnone := no_incident_of_held hheld hqualified.2
          unfold holdForIncident
          rw [hnone]
          rfl
        · have heq := Except.ok.inj (hagain.symm.trans hok)
          exact (Prod.mk.inj heq).2.symm
      next hzero =>
        refine hkept fun _ _ published changed hok => ?_
        have heq := Except.ok.inj (hpublish.symm.trans hok)
        have := (Prod.mk.inj heq).2
        omega
    next hother =>
      refine hkept fun _ _ published changed hok => ?_
      have hlength := congrArg List.length (publishProfileSetPower_ok hok).1
      rw [List.length_map, List.length_map] at hlength
      obtain ⟨godforge, brokkrs, deepCalm, rfl⟩ := List.length_eq_three.mp hlength
      exact (hother _ _ _ _ hok).elim
  next hnot =>
    refine hkept fun hundervolt hqualified => ?_
    simp [hundervolt, hqualified] at hnot

theorem settled_restored (view : RestoreEvidence) (gpuKey : String)
    (stored : ForgeCheckpoint Rest) :
    (restored view gpuKey stored).1.Settled view gpuKey := by
  have hstopped : (stored.demoteStale.markInterrupted.stop.rejectCondemned view gpuKey).Stopped :=
    (stopped_stop _).rejectCondemned
  have hdecoded : stored.demoteStale.markInterrupted.stop.Current :=
    (current_demoteStale stored).markInterrupted
  have hspared : (stored.demoteStale.markInterrupted.stop.rejectCondemned view gpuKey).Spared
      view gpuKey := spared_rejectCondemned view gpuKey _
  exact .of_refreshPower hstopped.holdForIncident hdecoded.rejectCondemned.holdForIncident
    hspared.holdForIncident (holdForIncident_again _)

end ForgeCheckpoint

end Nidavellir

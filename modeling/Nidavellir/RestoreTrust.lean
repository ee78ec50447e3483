import Nidavellir.ForgeRestore
import Nidavellir.StartupDamage

namespace Nidavellir

namespace ForgeCheckpoint

variable {Rest : Type} {prog : ForgeCheckpoint Rest} {view : RestoreEvidence} {gpuKey : String}

/-- What a restart may tell of a checkpoint. `reloads` loads the state that is saved from it. -/
structure FaithfulRestore (json : SerdeJson (ForgeStateFile Rest)) (view : RestoreEvidence)
    (gpuKey : String) (prog : ForgeCheckpoint Rest) : Prop where
  running : prog.running = false
  resumeAvailable : prog.resumeAvailable = false
  qualified : prog.isUndervolt = true → prog.profilesQualified = true →
    view.record.pendingForgeIncident = none ∧ ∀ profile ∈ prog.profiles, ∃ point,
      profile = some point ∧ point.approved = true ∧
        view.rejects gpuKey (undervoltApplyParams point) = false
  reloads : (loadForgeState json view gpuKey (some (encodeForgeState json gpuKey prog))).1 =
    some prog.logTail

/-- A stored set that passes every check of a restart. -/
structure Passes (view : RestoreEvidence) (gpuKey : String) (stored : ForgeCheckpoint Rest) :
    Prop where
  isUndervolt : stored.isUndervolt = true
  qualified : stored.profilesQualified = true
  current : f2ProfilePointsHaveCurrentApplyQualification stored.profiles = true
  spared :
    f2ProfileSetHasFieldFailure view.record (view.condemned gpuKey) stored.profiles = false
  settled : view.record.pendingForgeIncident = none

/-- Such a set with a profile without a VF bin, which an Apply rejects at its own voltage. -/
def Overlooked (view : RestoreEvidence) (gpuKey : String) (stored : ForgeCheckpoint Rest) :
    Prop :=
  stored.Passes view gpuKey ∧ ∃ point, some point ∈ stored.profiles ∧
    point.vfTableVoltageMv = none ∧ view.rejects gpuKey (point.target, point.voltageMv) = true

theorem demoteStale_of_qualified (h : prog.demoteStale.profilesQualified = true) :
    prog.demoteStale = prog := by
  unfold demoteStale at h ⊢
  split at h
  next => cases h
  next hcurrent => exact if_neg hcurrent

theorem rejectCondemned_of_qualified
    (h : (prog.rejectCondemned view gpuKey).profilesQualified = true) :
    prog.rejectCondemned view gpuKey = prog := by
  unfold rejectCondemned at h ⊢
  split at h
  next => cases h
  next hspared => exact if_neg hspared

theorem holdForIncident_of_qualified
    (h : (prog.holdForIncident view).profilesQualified = true) :
    prog.holdForIncident view = prog := by
  unfold holdForIncident at h ⊢
  split at h
  next => cases h
  next hnone => exact if_neg hnone

theorem markInterrupted_same (prog : ForgeCheckpoint Rest) :
    prog.markInterrupted.isUndervolt = prog.isUndervolt ∧
      prog.markInterrupted.profilesQualified = prog.profilesQualified ∧
      prog.markInterrupted.profiles = prog.profiles := by
  unfold markInterrupted
  split <;> exact ⟨rfl, rfl, rfl⟩

theorem refreshPower_same (view : RestoreEvidence) (gpuKey : String)
    (prog : ForgeCheckpoint Rest) :
    (prog.refreshPower view gpuKey).1.isUndervolt = prog.isUndervolt ∧
      (prog.refreshPower view gpuKey).1.profilesQualified = prog.profilesQualified ∧
      (prog.refreshPower view gpuKey).1.profiles.map (Option.map PowerSweepPoint.unpowered) =
        prog.profiles.map (Option.map PowerSweepPoint.unpowered) := by
  unfold refreshPower
  split
  next =>
    split
    next godforge brokkrs deepCalm updated hpublish =>
      split
      next => exact ⟨rfl, rfl, (publishProfileSetPower_ok hpublish).1⟩
      next => exact ⟨rfl, rfl, rfl⟩
    next => exact ⟨rfl, rfl, rfl⟩
  next => exact ⟨rfl, rfl, rfl⟩

/-- What passes the checks stays qualified, and only the power of its profiles changes. -/
theorem Passes.restored_same {stored : ForgeCheckpoint Rest} (h : stored.Passes view gpuKey) :
    (restored view gpuKey stored).1.isUndervolt = true ∧
      (restored view gpuKey stored).1.profilesQualified = true ∧
      (restored view gpuKey stored).1.profiles.map (Option.map PowerSweepPoint.unpowered) =
        stored.profiles.map (Option.map PowerSweepPoint.unpowered) := by
  have hdemote : stored.demoteStale = stored := if_neg (by simp [h.current])
  obtain ⟨hundervolt, hqualified, hprofiles⟩ := markInterrupted_same stored
  have hreject : stored.markInterrupted.stop.rejectCondemned view gpuKey =
      stored.markInterrupted.stop := by
    refine if_neg ?_
    have hspared : f2ProfileSetHasFieldFailure view.record (view.condemned gpuKey)
        stored.markInterrupted.stop.profiles = false := hprofiles ▸ h.spared
    simp [hspared]
  have hhold : stored.markInterrupted.stop.holdForIncident view =
      stored.markInterrupted.stop := if_neg (by simp [h.settled])
  obtain ⟨hundervolt', hqualified', hprofiles'⟩ :=
    refreshPower_same view gpuKey stored.markInterrupted.stop
  unfold restored
  rw [hdemote, hreject, hhold]
  exact ⟨hundervolt'.trans (hundervolt.trans h.isUndervolt),
    hqualified'.trans (hqualified.trans h.qualified),
    hprofiles'.trans (congrArg (List.map (Option.map PowerSweepPoint.unpowered)) hprofiles)⟩

/-- What a restart leaves qualified has passed its checks. -/
theorem passes_of_qualified {stored : ForgeCheckpoint Rest}
    (hundervolt : (restored view gpuKey stored).1.isUndervolt = true)
    (hqualified : (restored view gpuKey stored).1.profilesQualified = true) :
    stored.Passes view gpuKey := by
  unfold restored at hundervolt hqualified
  rw [(refreshPower_same view gpuKey _).1] at hundervolt
  rw [(refreshPower_same view gpuKey _).2.1] at hqualified
  have hhold := holdForIncident_of_qualified hqualified
  rw [hhold] at hundervolt hqualified
  have hreject := rejectCondemned_of_qualified hqualified
  have hspared := spared_rejectCondemned view gpuKey stored.demoteStale.markInterrupted.stop
    hundervolt hqualified
  have hnone := no_incident_of_held hhold hqualified
  rw [hreject] at hundervolt hqualified hspared
  obtain ⟨hundervolt', hqualified', hprofiles'⟩ := markInterrupted_same stored.demoteStale
  have hdemoted : stored.demoteStale.profilesQualified = true := hqualified'.symm.trans hqualified
  have hdemote := demoteStale_of_qualified hdemoted
  have hmarked : stored.demoteStale.isUndervolt = true := hundervolt'.symm.trans hundervolt
  have hcurrent := current_demoteStale stored hmarked hdemoted
  have hprofiles : stored.demoteStale.markInterrupted.stop.profiles = stored.profiles :=
    hprofiles'.trans (congrArg (fun p : ForgeCheckpoint Rest => p.profiles) hdemote)
  rw [hdemote] at hmarked hdemoted hcurrent
  exact ⟨hmarked, hdemoted, hcurrent, hprofiles ▸ hspared, hnone⟩

end ForgeCheckpoint

/-- An approved profile carries the VF bin it was approved at. -/
def PowerSweepProgress.ApprovedAtBin (prog : PowerSweepProgress PowerSweepPoint) : Prop :=
  ∀ point, some point ∈ prog.profiles → point.approved = true →
    point.vfTableVoltageMv.isSome = true

namespace PowerSweepProgress

variable {prog next : PowerSweepProgress PowerSweepPoint} {run : ForgeRun}

theorem ApprovedAtBin.of_profiles (h : prog.ApprovedAtBin)
    (hprofiles : next.profiles = prog.profiles) : next.ApprovedAtBin :=
  fun point hmem => h point (hprofiles ▸ hmem)

theorem ApprovedAtBin.of_none (hprofiles : next.profiles = [none, none, none]) :
    next.ApprovedAtBin := by
  intro point hmem
  rw [hprofiles] at hmem
  simp at hmem

theorem ApprovedAtBin.measuring (h : prog.ApprovedAtBin) (run : ForgeRun)
    (learning : ForgeLearning) (resumeRequested : Bool)
    (compatibility : Option ForgeResumeCompatibility) :
    (prog.measuring run learning resumeRequested compatibility).ApprovedAtBin := by
  have hprofiles : (prog.measuring run learning resumeRequested compatibility).profiles =
      (prog.carried learning resumeRequested).profiles := rfl
  unfold carried at hprofiles
  split at hprofiles
  next => exact h.of_profiles hprofiles
  next => exact .of_none hprofiles

theorem ApprovedAtBin.finished (h : prog.ApprovedAtBin)
    {forgeComplete forgeAborted retainBootFlag resetOk pause : Bool} :
    (prog.finished forgeComplete forgeAborted retainBootFlag resetOk pause).ApprovedAtBin := by
  cases resetOk with
  | true => exact h.of_profiles (finished_profiles.2 rfl)
  | false =>
    refine .of_none ?_
    unfold PowerSweepProgress.finished offerResume
    simp only [Bool.false_eq_true, if_false, Bool.and_false, Bool.false_and]
    rfl

/-- A final set brings its bins: its pairs are those that the gate approved. -/
theorem ApprovedAtBin.published (h : prog.ApprovedAtBin) {frontier : ClassifiedFrontier}
    {observations : List F2Observation} {loop : ApplyLoop} {l : List ApplyAnswers}
    {finalProfiles : Option ForgeProfiles}
    (hrun : (run.exactApply frontier.points observations).Run l loop)
    (hphase : loop.phase = .ended finalProfiles) :
    (prog.published run loop finalProfiles).ApprovedAtBin := by
  unfold PowerSweepProgress.published
  cases finalProfiles with
  | none => exact h
  | some profiles =>
    obtain ⟨-, hproved⟩ := ForgeRun.exactApply_final hrun hphase
    simp only
    split
    next godforge brokkrs deepCalm changed hok =>
      obtain ⟨-, -, hsome⟩ := publishF2ProfileSet_ok hok
      intro point hmem _
      obtain ⟨old, hold, hsame, -⟩ := hsome point hmem
      obtain ⟨key, hkey, -⟩ := hproved old hold
      rw [hkey, f2ApplyKey, Option.map_eq_some_iff] at hsame
      obtain ⟨mv, hmv, -⟩ := hsame
      rw [hmv]
      rfl
    next => exact h

theorem ApprovedAtBin.atEnd (h : prog.ApprovedAtBin) {frontier : ClassifiedFrontier}
    {observations : List F2Observation} {ending : ForgeEnding} (resetOk pause : Bool)
    (hreached : ending.Reached run frontier observations) :
    (prog.atEnd run ending resetOk pause).ApprovedAtBin := by
  cases ending with
  | partialFrontier forgeComplete forgeAborted retainBootFlag => exact h.finished
  | uncalibrated points forgeAborted retainBootFlag =>
    exact ApprovedAtBin.finished (.of_none rfl)
  | closed loop finalProfiles =>
    obtain ⟨⟨l, hrun⟩, hphase⟩ := hreached
    exact (h.published hrun hphase).finished

end PowerSweepProgress

namespace ForgeCheckpoint

variable {Rest : Type} {prog : ForgeCheckpoint Rest} {view : RestoreEvidence} {gpuKey : String}

/-- The progress that the program holds and saves, over its runs and restarts. It starts without an
approved profile, as files of builds without the gate do; the other writers keep the profiles. -/
inductive Produced : ForgeCheckpoint Rest → Prop
  | unapproved {prog : ForgeCheckpoint Rest}
      (h : ∀ point, some point ∈ prog.profiles → point.approved = false) : Produced prog
  | updated {prog next : ForgeCheckpoint Rest} (h : Produced prog)
      (hprofiles : next.profiles = prog.profiles) : Produced next
  | measuring {prog next : ForgeCheckpoint Rest} (h : Produced prog) (run : ForgeRun)
      (learning : ForgeLearning) (resumeRequested : Bool)
      (compatibility : Option ForgeResumeCompatibility)
      (hnext : next.toPowerSweepProgress =
        prog.measuring run learning resumeRequested compatibility) : Produced next
  | ended {prog next : ForgeCheckpoint Rest} (h : Produced prog) (run : ForgeRun)
      (frontier : ClassifiedFrontier) (observations : List F2Observation) (ending : ForgeEnding)
      (resetOk pause : Bool) (hreached : ending.Reached run frontier observations)
      (hnext : next.toPowerSweepProgress = prog.atEnd run ending resetOk pause) : Produced next
  | reloaded {prog : ForgeCheckpoint Rest} (h : Produced prog) (view : RestoreEvidence)
      (gpuKey : String) : Produced (restored view gpuKey prog).1

/-- The pair that an Apply writes does not depend on the power of the profile. -/
theorem applyParams_of_unpowered {point other : PowerSweepPoint}
    (h : other.unpowered = point.unpowered) :
    undervoltApplyParams other = undervoltApplyParams point ∧
      other.vfTableVoltageMv = point.vfTableVoltageMv := by
  have hparams := congrArg undervoltApplyParams h
  have hbin := congrArg PowerSweepPoint.vfTableVoltageMv h
  exact ⟨hparams, hbin⟩

theorem restored_unpowered (view : RestoreEvidence) (gpuKey : String)
    (prog : ForgeCheckpoint Rest) :
    (restored view gpuKey prog).1.profiles.map (Option.map PowerSweepPoint.unpowered) =
      prog.profiles.map (Option.map PowerSweepPoint.unpowered) := by
  have hdemote : prog.demoteStale.profiles = prog.profiles := by
    unfold demoteStale
    split <;> rfl
  have hreject (prog : ForgeCheckpoint Rest) :
      (prog.rejectCondemned view gpuKey).profiles = prog.profiles := by
    unfold rejectCondemned
    split <;> rfl
  have hhold (prog : ForgeCheckpoint Rest) :
      (prog.holdForIncident view).profiles = prog.profiles := by
    unfold holdForIncident
    split <;> rfl
  unfold restored
  rw [(refreshPower_same view gpuKey _).2.2, hhold, hreject]
  exact congrArg (List.map (Option.map PowerSweepPoint.unpowered))
    ((markInterrupted_same prog.demoteStale).2.2.trans hdemote)

theorem Produced.approvedAtBin (h : prog.Produced) :
    prog.toPowerSweepProgress.ApprovedAtBin := by
  induction h with
  | unapproved h =>
    intro point hmem happroved
    rw [h point hmem] at happroved
    cases happroved
  | updated _ hprofiles ih => exact ih.of_profiles hprofiles
  | measuring _ run learning resumeRequested compatibility hnext ih =>
    rw [hnext]
    exact ih.measuring run learning resumeRequested compatibility
  | ended _ run frontier observations ending resetOk pause hreached hnext ih =>
    rw [hnext]
    exact ih.atEnd resetOk pause hreached
  | reloaded _ view gpuKey ih =>
    intro point hmem happroved
    obtain ⟨old, hold, hunpowered⟩ :=
      exists_of_unpowered (restored_unpowered view gpuKey _).symm hmem
    have hsame := congrArg PowerSweepPoint.approved hunpowered
    rw [← (applyParams_of_unpowered hunpowered).2]
    exact ih old hold (hsame.trans happroved)

/-- A set that the program saved is never overlooked: each of its profiles has its bin. -/
theorem Produced.not_overlooked (h : prog.Produced) : ¬ prog.Overlooked view gpuKey := by
  rintro ⟨hpasses, point, hmem, hbin, -⟩
  have hcurrent := hpasses.current
  simp only [f2ProfilePointsHaveCurrentApplyQualification, Bool.and_eq_true,
    List.all_eq_true] at hcurrent
  have happroved := hcurrent.2 point (List.mem_filterMap.mpr ⟨some point, hmem, rfl⟩)
  have hsome := h.approvedAtBin point hmem happroved
  rw [hbin] at hsome
  cases hsome

end ForgeCheckpoint

section Load

open ForgeCheckpoint

variable {Rest : Type} {json : SerdeJson (ForgeStateFile Rest)}
  {ok : ForgeStateFile Rest → Prop} {view : RestoreEvidence} {gpuKey : String}
  {file : Option ByteArray} {prog : ForgeCheckpoint Rest}

def storedForgeState (json : SerdeJson (ForgeStateFile Rest)) (file : Option ByteArray) :
    Option (ForgeStateFile Rest) :=
  (file.bind Utf8.decode).bind fun data => json.fromStr (trimBom data)

theorem loadForgeState_of_stored {stored : ForgeCheckpoint Rest}
    (h : storedForgeState json file = some ⟨forgeStateSchema, gpuKey, stored⟩) :
    (loadForgeState json view gpuKey file).1 = some (restored view gpuKey stored).1 := by
  unfold storedForgeState at h
  obtain ⟨data, hdata, hread⟩ := Option.bind_eq_some_iff.mp h
  simp only [loadForgeState, hdata, decodeForgeState, hread, ne_eq, not_true_eq_false, if_false]
  rfl

theorem stored_of_loadForgeState (h : (loadForgeState json view gpuKey file).1 = some prog) :
    ∃ stored, storedForgeState json file = some ⟨forgeStateSchema, gpuKey, stored⟩ ∧
      (restored view gpuKey stored).1 = prog := by
  cases hfile : storedForgeState json file with
  | none =>
    unfold storedForgeState at hfile
    unfold loadForgeState at h
    split at h
    next => cases h
    next data hdata =>
      rw [hdata, Option.bind_some] at hfile
      simp [decodeForgeState, hfile] at h
  | some state =>
    obtain ⟨schema, key, stored⟩ := state
    have hboth : schema = forgeStateSchema ∧ key = gpuKey := by
      unfold storedForgeState at hfile
      obtain ⟨data, hdata, hread⟩ := Option.bind_eq_some_iff.mp hfile
      by_contra hnot
      simp only [loadForgeState, hdata, decodeForgeState, hread] at h
      split at h
      next prog' hloaded =>
        split at hloaded
        next => cases hloaded
        next hschema =>
          split at hloaded
          next => cases hloaded
          next hkey => exact hnot ⟨not_not.mp hschema, not_not.mp hkey⟩
      next => cases h
    obtain ⟨rfl, rfl⟩ := hboth
    refine ⟨stored, rfl, ?_⟩
    exact Option.some.inj ((loadForgeState_of_stored hfile).symm.trans h)

/-- What a save leaves reads as the file that was saved. -/
theorem stored_encodeForgeState (hjson : json.Saves ok)
    (hok : ok ⟨forgeStateSchema, gpuKey, prog.logTail⟩) :
    storedForgeState json (some (encodeForgeState json gpuKey prog)) =
      some ⟨forgeStateSchema, gpuKey, prog.logTail⟩ := by
  obtain ⟨body, hbody⟩ := hjson.object _ hok
  have htrim : trimBom (json.toString ⟨forgeStateSchema, gpuKey, prog.logTail⟩) =
      json.toString ⟨forgeStateSchema, gpuKey, prog.logTail⟩ := by
    rw [hbody]
    exact trimBom_append_brace [] body
  unfold storedForgeState encodeForgeState
  rw [Option.bind_some, Utf8.decode_encode, Option.bind_some, htrim]
  exact hjson.decodes _ hok

theorem load_encodeForgeState (hjson : json.Saves ok)
    (hok : ok ⟨forgeStateSchema, gpuKey, prog.logTail⟩) (h : prog.Settled view gpuKey) :
    (loadForgeState json view gpuKey (some (encodeForgeState json gpuKey prog))).1 =
      some prog.logTail := by
  rw [loadForgeState_of_stored (stored_encodeForgeState hjson hok), h.logTail.restored_eq]

/-- With a VF bin, a restart checks the pair that an Apply writes. -/
theorem rejects_eq_false_of_bin {profiles : List (Option PowerSweepPoint)}
    {point : PowerSweepPoint} {mv : Nat}
    (hspared : f2ProfileSetHasFieldFailure view.record (view.condemned gpuKey) profiles = false)
    (hmem : some point ∈ profiles) (hmv : point.vfTableVoltageMv = some mv) :
    view.rejects gpuKey (undervoltApplyParams point) = false := by
  have hchecked := List.any_eq_false.mp hspared point
    (List.mem_filterMap.mpr ⟨some point, hmem, rfl⟩)
  have hanchor : restoredAnchorMv point = (undervoltApplyParams point).2 := by
    simp [restoredAnchorMv, undervoltApplyParams, hmv]
  rw [hanchor] at hchecked
  exact Bool.eq_false_iff.mpr hchecked

/-- A restored checkpoint is never more trusted than the evidence, unless the stored set is
overlooked. -/
theorem loadForgeState_faithful_iff (hjson : json.Saves ok) (view : RestoreEvidence)
    (gpuKey : String) (file : Option ByteArray)
    (hok : ∀ prog, (loadForgeState json view gpuKey file).1 = some prog →
      ok ⟨forgeStateSchema, gpuKey, prog.logTail⟩) :
    (∀ prog, (loadForgeState json view gpuKey file).1 = some prog →
      prog.FaithfulRestore json view gpuKey) ↔
    ∀ stored, storedForgeState json file = some ⟨forgeStateSchema, gpuKey, stored⟩ →
      ¬ stored.Overlooked view gpuKey := by
  refine ⟨fun hfaithful stored hstored hoverlooked => ?_, fun hnone prog hload => ?_⟩
  · obtain ⟨hpasses, point, hmem, hbin, hrejects⟩ := hoverlooked
    obtain ⟨hundervolt, hqualified, hsame⟩ := hpasses.restored_same
    obtain ⟨other, hother, hunpowered⟩ := exists_of_unpowered hsame hmem
    obtain ⟨-, hall⟩ := (hfaithful _ (loadForgeState_of_stored hstored)).qualified hundervolt
      hqualified
    obtain ⟨same, hsome, -, hspared⟩ := hall _ hother
    obtain rfl := Option.some.inj hsome
    have hpair : undervoltApplyParams point = (point.target, point.voltageMv) := by
      simp [undervoltApplyParams, hbin]
    rw [(applyParams_of_unpowered hunpowered).1, hpair, hrejects] at hspared
    cases hspared
  · obtain ⟨stored, hstored, rfl⟩ := stored_of_loadForgeState hload
    have hsettled := settled_restored view gpuKey stored
    refine ⟨hsettled.stopped.running, hsettled.stopped.resumeAvailable,
      fun hundervolt hqualified => ?_, load_encodeForgeState hjson (hok _ hload) hsettled⟩
    have hpasses := passes_of_qualified hundervolt hqualified
    obtain ⟨-, -, hsame⟩ := hpasses.restored_same
    refine ⟨hpasses.settled, fun profile hprofile => ?_⟩
    have hcurrent := hsettled.current hundervolt hqualified
    simp only [f2ProfilePointsHaveCurrentApplyQualification, Bool.and_eq_true,
      List.all_eq_true] at hcurrent
    obtain ⟨point, rfl⟩ := Option.isSome_iff_exists.mp (hcurrent.1 profile hprofile)
    have happroved := hcurrent.2 point (List.mem_filterMap.mpr ⟨some point, hprofile, rfl⟩)
    refine ⟨point, rfl, happroved, ?_⟩
    cases hbin : point.vfTableVoltageMv with
    | some mv => exact rejects_eq_false_of_bin (hsettled.spared hundervolt hqualified) hprofile hbin
    | none =>
      obtain ⟨old, hold, hunpowered⟩ := exists_of_unpowered hsame.symm hprofile
      obtain ⟨hparams, hbins⟩ := applyParams_of_unpowered hunpowered
      have hpair : undervoltApplyParams point = (old.target, old.voltageMv) := by
        rw [← hparams, undervoltApplyParams, hbins, hbin, Option.getD_none]
      rw [hpair]
      by_contra hrejects
      exact hnone stored hstored ⟨hpasses, old, hold, hbins.trans hbin,
        (Bool.not_eq_false _).mp hrejects⟩

/-- What the program saves of a progress is such a file. -/
theorem produced_of_encode (hjson : json.Saves ok) {savedKey : String}
    (hok : ok ⟨forgeStateSchema, savedKey, prog.logTail⟩) (h : prog.Produced)
    {stored : ForgeCheckpoint Rest}
    (hstored : storedForgeState json (some (encodeForgeState json savedKey prog)) =
      some ⟨forgeStateSchema, gpuKey, stored⟩) : stored.Produced := by
  rw [stored_encodeForgeState hjson hok] at hstored
  obtain rfl := congrArg ForgeStateFile.progress (Option.some.inj hstored)
  exact h.updated rfl

end Load

section Sample

open ForgeCheckpoint

/-- A JSON object whose members stand `depth` levels deep. -/
def nestedObject (depth : Nat) (members : List (String × List Char)) : List Char :=
  let line (depth : Nat) : List Char := '\n' :: List.replicate (2 * depth) ' '
  '{' :: [','].intercalate (members.map fun m =>
    line (depth + 1) ++ '"' :: m.1.toList ++ '"' :: ':' :: ' ' :: m.2) ++ line depth ++ ['}']

def plainMembers (members : List (String × String)) : List (String × List Char) :=
  members.map fun m => (m.1, m.2.toList)

def measuredPoint : PowerSweepPoint where
  voltageMv := 868
  clockMhz := 1900
  offsetMhz := 100
  powerW := 150
  maxPowerW := 160
  powerP99W := some 160
  vfTableVoltageMv := some 900
  boundaryVoltageMv := some 900
  baseApplyMv := some 900
  p5ClockMhz := some 1900
  p95ClockMhz := some 1900
  targetClockMhz := some 1900
  confidence := some (7 / 8)
  validationCount := some 1

def measuredFrontier : ClassifiedFrontier where
  points := [(measuredPoint, 7 / 8)]
  targets := by decide
  hasTarget := by decide
  fresh := by decide

/-- What a run publishes of it once the gate has passed. -/
def publishedPoint (vfTableVoltageMv : Option Nat) : PowerSweepPoint :=
  { measuredPoint with
    vfTableVoltageMv
    perfPerWatt := 95 / 8
    applyQualified := true
    applyQualificationVersion := some f2QualificationContractVersion }

def publishedPointText (vfTableVoltage : String) : List Char :=
  nestedObject 2 (plainMembers [("voltage_mv", "868"), ("clock_mhz", "1900"), ("offset_mhz", "100"),
    ("power_w", "150.0"), ("max_power_w", "160.0"), ("power_p99_w", "160.0"),
    ("power_std_w", "0.0"), ("power_capped_frac", "0.0"), ("stable", "true"),
    ("perf_per_watt", "11.875"), ("measured_voltage_mv", "null"),
    ("vf_table_voltage_mv", vfTableVoltage), ("boundary_voltage_mv", "900"),
    ("apply_margin_mv", "null"), ("base_apply_mv", "900"), ("min_clock_mhz", "null"),
    ("p5_clock_mhz", "1900"), ("p95_clock_mhz", "1900"), ("avg_measured_voltage_mv", "null"),
    ("min_measured_voltage_mv", "null"), ("max_measured_voltage_mv", "null"),
    ("voltage_sample_count", "null"), ("voltage_quality", "null"), ("dwell_sample_count", "null"),
    ("dwell_duration_ms", "null"), ("start_temp_c", "null"), ("end_temp_c", "null"),
    ("avg_temp_c", "null"), ("max_temp_c", "null"), ("thermal_throttled", "false"),
    ("telemetry_quality", "null"), ("target_clock_mhz", "1900"), ("confidence", "0.875"),
    ("validation_count", "1"), ("apply_qualified", "true"),
    ("apply_qualification_version", "25")])

def publishedCheckpoint (vfTableVoltageMv : Option Nat) : ForgeCheckpoint Unit where
  phase := "finished"
  recommended := some (publishedPoint vfTableVoltageMv)
  godforge := some (publishedPoint vfTableVoltageMv)
  brokkrs := some (publishedPoint vfTableVoltageMv)
  deepCalm := some (publishedPoint vfTableVoltageMv)
  frontierComplete := true
  profilesQualified := true
  isUndervolt := true
  rest := ()

def publishedText (vfTableVoltage : String) : List Char :=
  let point := publishedPointText vfTableVoltage
  nestedObject 0 [("schema_version", "1".toList), ("gpu_key", "\"gpu-a\"".toList),
    ("progress", nestedObject 1 (plainMembers [("running", "false"), ("phase", "\"finished\""),
        ("log", "[]"), ("points", "[]"), ("power_limit_w", "0.0"), ("target_w", "0.0")] ++
      [("recommended", point), ("godforge", point), ("brokkrs", point), ("deep_calm", point)] ++
      plainMembers [("stock_clock_mhz", "0"), ("stock_power_p99_w", "null"),
        ("observed_boost_clock_mhz", "null"), ("clock_table_bin_count", "null"),
        ("clock_table_ceiling_mhz", "null"), ("preheat_converged", "null"),
        ("preheat_temperature_c", "null"), ("note", "null"), ("is_undervolt", "true"),
        ("power_bound_collapse", "false"), ("mode", "null"), ("learning", "null"),
        ("run_id", "null"), ("run_sequence", "[]"), ("current_clock_mhz", "null"),
        ("current_voltage_mv", "null"), ("completed_steps", "0"), ("total_steps_estimate", "0"),
        ("elapsed_ms", "0"), ("estimated_remaining_ms", "null"),
        ("estimated_total_upper_ms", "null"), ("cmax_clock_mhz", "null"),
        ("frontier_floor_clock_mhz", "null"), ("frontier_clock_count", "null"),
        ("learned_points", "0"), ("last_outcome", "null"), ("learning_saved", "false"),
        ("frontier_complete", "true"), ("profiles_qualified", "true"),
        ("resume_compatibility", "null"), ("resume_available", "false"),
        ("resume_block_reason", "null"), ("current_task", "null"),
        ("current_task_elapsed_ms", "0"), ("current_task_estimated_total_ms", "null"),
        ("next_task", "null"), ("next_task_estimated_duration_ms", "null")]))]

def publishedState (vfTableVoltageMv : Option Nat) : ForgeStateFile Unit :=
  ⟨forgeStateSchema, "gpu-a", publishedCheckpoint vfTableVoltageMv⟩

def publishedJson (vfTableVoltageMv : Option Nat) (vfTableVoltage : String) :
    SerdeJson (ForgeStateFile Unit) :=
  exactJson (publishedText vfTableVoltage) (publishedState vfTableVoltageMv)

theorem publishedJson_saves (bin : Option Nat) (text : String) :
    (publishedJson bin text).Saves (· = publishedState bin) := exactJson_saves rfl

theorem stored_published (bin : Option Nat) (text : String) :
    storedForgeState (publishedJson bin text) (some (Utf8.encode (publishedText text))) =
      some (publishedState bin) := by
  have hread : storedForgeState (publishedJson bin text) (some (encodeForgeState
      (publishedJson bin text) "gpu-a" (publishedCheckpoint bin))) = some (publishedState bin) :=
    stored_encodeForgeState (publishedJson_saves bin text) rfl
  exact hread

def endedProgress (s : ApplyLoop) (finalProfiles : Option ForgeProfiles) :
    PowerSweepProgress PowerSweepPoint :=
  (PowerSweepProgress.idle.measuring sampleForge .persistent false none).atEnd sampleForge
    (.closed s finalProfiles) true false

def ApplyLoop.publishes (s : ApplyLoop) (profiles : List (Option PowerSweepPoint)) : Bool :=
  match s.phase with
  | .ended finalProfiles => (endedProgress s finalProfiles).profiles == profiles
  | _ => false

/-- The checkpoint with its bins comes out of a run. -/
theorem published_produced : (publishedCheckpoint (some 900)).Produced := by
  have hany : ((List.replicate 6 (passingAnswers 1900 900 160)).foldlM
      (ApplyLoop.follow sampleForge) (sampleForge.start measuredFrontier.points [])).any
        (ApplyLoop.publishes · (publishedCheckpoint (some 900)).profiles) = true := by
    decide +kernel
  obtain ⟨s, hrun, hpublishes⟩ := ForgeRun.exists_run_of_any hany
  unfold ApplyLoop.publishes at hpublishes
  split at hpublishes
  next finalProfiles hphase =>
    let first : ForgeCheckpoint Unit := { toPowerSweepProgress := .idle, rest := () }
    let started : ForgeCheckpoint Unit :=
      { first with
        toPowerSweepProgress := first.measuring sampleForge .persistent false none }
    let ended : ForgeCheckpoint Unit :=
      { started with toPowerSweepProgress := endedProgress s finalProfiles }
    have hfirst : first.Produced := .unapproved fun point hmem =>
      absurd hmem (by simp [first, PowerSweepProgress.profiles, PowerSweepProgress.idle])
    have hstarted : started.Produced := hfirst.measuring sampleForge .persistent false none rfl
    have hended : ended.Produced :=
      hstarted.ended sampleForge measuredFrontier [] (.closed s finalProfiles) true false
        ⟨⟨_, hrun⟩, hphase⟩ rfl
    exact hended.updated (beq_iff_eq.mp hpublishes).symm
  next => cases hpublishes

/-- The pair below the published bin is condemned, and with it all that lie under it. -/
def condemnedBelow : RestoreEvidence where
  ledger := [rigidCondemnation 1900 875]

/-- With bins or without, a restart checks the profiles at 900 mV and keeps the checkpoint. -/
theorem restored_published {bin : Option Nat} (hbin : bin.getD 900 = 900) :
    restored condemnedBelow "gpu-a" (publishedCheckpoint bin) =
      (publishedCheckpoint bin, false) := by
  have hanchor : restoredAnchorMv (publishedPoint bin) = 900 := by
    cases bin with
    | none => rfl
    | some mv => exact hbin
  have hphase : "finished" ≠ "paused" := by decide
  have hsettled : (publishedCheckpoint bin).Settled condemnedBelow "gpu-a" := by
    refine ⟨⟨rfl, rfl, fun hpaused => absurd hpaused hphase⟩, fun _ _ => rfl, fun _ _ => ?_,
      rfl, fun _ _ published changed hok => ?_⟩
    · have hspared : condemnedBelow.rejects "gpu-a" (1900, 900) = false := by decide +kernel
      have hall : f2ProfileSetHasFieldFailure condemnedBelow.record
          (condemnedBelow.condemned "gpu-a") (publishedCheckpoint bin).profiles =
          (condemnedBelow.rejects "gpu-a" (1900, restoredAnchorMv (publishedPoint bin)) ||
            (condemnedBelow.rejects "gpu-a" (1900, restoredAnchorMv (publishedPoint bin)) ||
              (condemnedBelow.rejects "gpu-a"
                (1900, restoredAnchorMv (publishedPoint bin)) || false))) := rfl
      rw [hall, hanchor, hspared]
      rfl
    · cases bin with
      | none => cases hok
      | some mv => cases hok
  exact hsettled.restored_eq

/-- The same file with its bins erased by hand: an Apply would write 868 mV. -/
theorem loadForgeState_trusts_binless :
    ¬ ∀ prog, (loadForgeState (publishedJson none "null") condemnedBelow "gpu-a"
        (some (Utf8.encode (publishedText "null")))).1 = some prog →
      prog.FaithfulRestore (publishedJson none "null") condemnedBelow "gpu-a" := by
  intro h
  have hload : (loadForgeState (publishedJson none "null") condemnedBelow "gpu-a"
      (some (Utf8.encode (publishedText "null")))).1 = some (publishedCheckpoint none) := by
    rw [loadForgeState_of_stored (stored_published none "null"), restored_published rfl]
  obtain ⟨-, hall⟩ := (h _ hload).qualified rfl rfl
  obtain ⟨point, hpoint, -, hspared⟩ := hall (some (publishedPoint none)) (List.mem_cons_self ..)
  obtain rfl := Option.some.inj hpoint
  exact absurd hspared (by decide +kernel)

end Sample

end Nidavellir

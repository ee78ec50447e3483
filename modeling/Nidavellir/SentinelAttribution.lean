import Nidavellir.SentinelRuns

namespace Nidavellir

open Runs SafeLoopStore

/-- The same clock at a higher voltage. -/
def AbovePair (pair other : Nat × Nat) : Prop := pair.1 = other.1 ∧ pair.2 < other.2

/-- Between the claim of a failure of the pair and the clear of the profile. -/
def LayerPhase.acts (phase : LayerPhase) (pair : Nat × Nat) : Prop :=
  ∃ stage failure, phase = .handling stage failure ∧ (stage = .claimed ∨ stage = .persisted) ∧
    failure.failed = pair

/-- What decides the fate of an exposed reset. -/
structure SentinelView where
  dir : DataDir
  ledger : List CondemnationEvent
  layer : SentinelLayer → LayerPhase
  taken : Nat
  lastAction : Nat

def SentinelView.enter (v : SentinelView) (layer : SentinelLayer) (phase : LayerPhase) :
    SentinelView :=
  { v with layer := Function.update v.layer layer phase }

def SentinelState.view (s : SentinelState) : SentinelView :=
  ⟨s.dir, s.ledger, s.layer, s.taken, s.lastAction⟩

/-- The pair is still the persisted profile: every layer that acts, acts on it, and the watcher has
answered the reset only with the flag armed or behind the canary. -/
structure Unhandled (gpuKey : String) (v : SentinelView) (x : ExposedTdr) : Prop where
  applied : appliedPair v.dir = some x.pair
  armed : isBootFlagArmed v.dir → ArmedFor v.dir x.pair
  handling : ∀ layer stage failure, v.layer layer = .handling stage failure →
    failure.failed = x.pair ∧ (stage = .decided ∨ stage = .claimed ∨
      stage = .persisted ∧ FieldRecorded gpuKey v.dir v.ledger x.pair)
  stamp : v.lastAction = 0 ∨ v.lastAction + crossLayerDedupS ≤ x.time ∨
    ∃ layer, (v.layer layer).acts x.pair
  read : ∀ failure, v.layer .watcher = .handling .decided failure → x.index ≤ v.taken →
    x.time ≤ failure.now
  returned : ∀ outcome, v.layer .watcher = .returned outcome → x.index ≤ v.taken →
    isBootFlagArmed v.dir ∧ outcome = .forgeOwns ∨ (v.layer .canary).acts x.pair

/-- The pair is recorded, and whatever is persisted or handled now lies above it. -/
structure Handled (gpuKey : String) (v : SentinelView) (x : ExposedTdr) : Prop where
  recorded : FieldRecorded gpuKey v.dir v.ledger x.pair
  applied : ∀ pair, appliedPair v.dir = some pair → AbovePair x.pair pair
  handling : ∀ layer stage failure, v.layer layer = .handling stage failure →
    failure.failed = x.pair ∨ AbovePair x.pair failure.failed

def Attributed (gpuKey : String) (v : SentinelView) (x : ExposedTdr) : Prop :=
  Unhandled gpuKey v x ∨ Handled gpuKey v x

section View

variable {gpuKey : String} {v : SentinelView} {x : ExposedTdr} {dir : DataDir}
  {ledger : List CondemnationEvent} {layer : SentinelLayer} {phase : LayerPhase}

theorem Unhandled.withFiles (h : Unhandled gpuKey v x)
    (happlied : appliedPair dir = appliedPair v.dir)
    (harmed : isBootFlagArmed dir → ArmedFor dir x.pair)
    (hrecorded : FieldRecorded gpuKey v.dir v.ledger x.pair →
      FieldRecorded gpuKey dir ledger x.pair)
    (hkeep : v.layer .watcher = .returned .forgeOwns → x.index ≤ v.taken →
      isBootFlagArmed v.dir → isBootFlagArmed dir) :
    Unhandled gpuKey { v with dir := dir, ledger := ledger } x where
  applied := happlied.trans h.applied
  armed := harmed
  handling := by
    intro layer stage failure hphase
    obtain ⟨hfailed, hstage⟩ := h.handling layer stage failure hphase
    exact ⟨hfailed, hstage.imp_right (Or.imp_right (And.imp_right hrecorded))⟩
  stamp := h.stamp
  read := h.read
  returned := by
    intro outcome hphase hindex
    rcases h.returned outcome hphase hindex with ⟨harmed, rfl⟩ | hacts
    · exact Or.inl ⟨hkeep hphase hindex harmed, rfl⟩
    · exact Or.inr hacts

theorem Handled.withFiles (h : Handled gpuKey v x)
    (happlied : ∀ pair, appliedPair dir = some pair → AbovePair x.pair pair)
    (hrecorded : FieldRecorded gpuKey dir ledger x.pair) :
    Handled gpuKey { v with dir := dir, ledger := ledger } x :=
  ⟨hrecorded, happlied, h.handling⟩

/-- A step that keeps the persisted pair and every record. -/
theorem Attributed.withFiles (h : Attributed gpuKey v x)
    (happlied : appliedPair dir = appliedPair v.dir)
    (hrecorded : FieldRecorded gpuKey v.dir v.ledger x.pair →
      FieldRecorded gpuKey dir ledger x.pair)
    (harmed : appliedPair v.dir = some x.pair →
      (isBootFlagArmed v.dir → ArmedFor v.dir x.pair) →
      isBootFlagArmed dir → ArmedFor dir x.pair)
    (hkeep : v.layer .watcher = .returned .forgeOwns → x.index ≤ v.taken →
      appliedPair v.dir = some x.pair → isBootFlagArmed v.dir → isBootFlagArmed dir) :
    Attributed gpuKey { v with dir := dir, ledger := ledger } x := by
  rcases h with h | h
  · refine Or.inl (h.withFiles happlied (harmed h.applied h.armed) hrecorded ?_)
    intro hphase hindex
    exact hkeep hphase hindex h.applied
  · refine Or.inr (h.withFiles ?_ (hrecorded h.recorded))
    intro pair hpair
    exact h.applied pair (happlied.symm.trans hpair)

theorem SentinelView.enter_self : (v.enter layer phase).layer layer = phase :=
  Function.update_self _ _ _

theorem SentinelView.enter_of_ne {other : SentinelLayer} (h : other ≠ layer) :
    (v.enter layer phase).layer other = v.layer other := Function.update_of_ne h _ _

theorem acts_enter {pair : Nat × Nat} (hacts : (v.layer layer).acts pair → phase.acts pair)
    {other : SentinelLayer} (h : (v.layer other).acts pair) :
    ((v.enter layer phase).layer other).acts pair := by
  by_cases heq : other = layer
  · subst heq
    rw [SentinelView.enter_self]
    exact hacts h
  · rw [SentinelView.enter_of_ne heq]
    exact h

theorem Unhandled.enter (h : Unhandled gpuKey v x)
    (hhandling : ∀ stage failure, phase = .handling stage failure →
      failure.failed = x.pair ∧ (stage = .decided ∨ stage = .claimed ∨
        stage = .persisted ∧ FieldRecorded gpuKey v.dir v.ledger x.pair))
    (hacts : (v.layer layer).acts x.pair → phase.acts x.pair)
    (hread : layer = .watcher → ∀ failure, phase = .handling .decided failure →
      x.index ≤ v.taken → x.time ≤ failure.now)
    (hreturned : layer = .watcher → ∀ outcome, phase = .returned outcome → x.index ≤ v.taken →
      isBootFlagArmed v.dir ∧ outcome = .forgeOwns ∨ (v.layer .canary).acts x.pair) :
    Unhandled gpuKey (v.enter layer phase) x where
  applied := h.applied
  armed := h.armed
  handling := by
    intro other stage failure hphase
    by_cases heq : other = layer
    · subst heq
      exact hhandling stage failure (SentinelView.enter_self.symm.trans hphase)
    · exact h.handling other stage failure ((SentinelView.enter_of_ne heq).symm.trans hphase)
  stamp := by
    refine h.stamp.imp_right (Or.imp_right ?_)
    rintro ⟨other, hother⟩
    exact ⟨other, acts_enter hacts hother⟩
  read := by
    intro failure hphase
    by_cases heq : layer = .watcher
    · subst heq
      exact hread rfl failure (SentinelView.enter_self.symm.trans hphase)
    · exact h.read failure ((SentinelView.enter_of_ne (Ne.symm heq)).symm.trans hphase)
  returned := by
    intro outcome hphase hindex
    by_cases heq : layer = .watcher
    · subst heq
      have hnew := hreturned rfl outcome (SentinelView.enter_self.symm.trans hphase) hindex
      rw [SentinelView.enter_of_ne (by decide)]
      exact hnew
    · have hold : v.layer .watcher = .returned outcome :=
        (SentinelView.enter_of_ne (Ne.symm heq)).symm.trans hphase
      exact (h.returned outcome hold hindex).imp_right (acts_enter hacts)

theorem Handled.enter (h : Handled gpuKey v x)
    (hhandling : ∀ stage failure, phase = .handling stage failure →
      failure.failed = x.pair ∨ AbovePair x.pair failure.failed) :
    Handled gpuKey (v.enter layer phase) x where
  recorded := h.recorded
  applied := h.applied
  handling := by
    intro other stage failure hphase
    by_cases heq : other = layer
    · subst heq
      exact hhandling stage failure (SentinelView.enter_self.symm.trans hphase)
    · exact h.handling other stage failure ((SentinelView.enter_of_ne heq).symm.trans hphase)

/-- The end of the process: no layer is left, and no stamp. -/
theorem Attributed.killed (h : Attributed gpuKey v x) :
    Attributed gpuKey ⟨v.dir, v.ledger, fun _ => .idle, 0, 0⟩ x := by
  rcases h with h | h
  · refine Or.inl ⟨h.applied, h.armed, ?_, Or.inl rfl, ?_, ?_⟩ <;> simp
  · exact Or.inr ⟨h.recorded, h.applied, by simp⟩

/-- A layer that handles nothing yet, or no longer. -/
theorem Attributed.enter_quiet (h : Attributed gpuKey v x)
    (hphase : ∀ stage failure, phase ≠ .handling stage failure)
    (hold : ¬ (v.layer layer).acts x.pair)
    (hreturned : layer = .watcher → ∀ outcome, phase = .returned outcome → x.index ≤ v.taken →
      appliedPair v.dir = some x.pair →
      isBootFlagArmed v.dir ∧ outcome = .forgeOwns ∨ (v.layer .canary).acts x.pair) :
    Attributed gpuKey (v.enter layer phase) x := by
  rcases h with h | h
  · refine Or.inl (h.enter ?_ (fun hacts => absurd hacts hold) ?_ ?_)
    · intro stage failure heq
      exact absurd heq (hphase stage failure)
    · intro _ failure heq
      exact absurd heq (hphase .decided failure)
    · intro hwatcher outcome heq hindex
      exact hreturned hwatcher outcome heq hindex h.applied
  · exact Or.inr (h.enter fun stage failure heq => absurd heq (hphase stage failure))

/-- The canary's stamp is the only one that can turn the watcher away. -/
theorem Unhandled.canary_acts {now : Nat} (h : Unhandled gpuKey v x)
    (hepisode : sameEpisode v.lastAction now) (htime : x.time ≤ now)
    (hwatcher : ¬ (v.layer .watcher).acts x.pair) : (v.layer .canary).acts x.pair := by
  obtain ⟨hne, hlt⟩ := sameEpisode_iff.mp hepisode
  rcases h.stamp with hzero | hold | ⟨layer, hacts⟩
  · exact absurd hzero hne
  · omega
  · cases layer with
    | watcher => exact absurd hacts hwatcher
    | canary => exact hacts

theorem Attributed.decided {now bumps : Nat} {failed : Nat × Nat} {newAnchorMv : Option Nat}
    (h : Attributed gpuKey v x) (htime : x.time ≤ now) (happlied : appliedPair v.dir = some failed)
    (hold : ¬ (v.layer layer).acts x.pair) :
    Attributed gpuKey
      (v.enter layer (.handling .decided ⟨bumps, now, failed, newAnchorMv, none⟩)) x := by
  rcases h with h | h
  · obtain rfl : failed = x.pair := Option.some.inj (happlied.symm.trans h.applied)
    refine Or.inl (h.enter ?_ (fun hacts => absurd hacts hold) ?_ ?_)
    · intro stage failure heq
      obtain ⟨rfl, rfl⟩ := LayerPhase.handling.inj heq
      exact ⟨rfl, Or.inl rfl⟩
    · intro _ failure heq _
      obtain ⟨-, rfl⟩ := LayerPhase.handling.inj heq
      exact htime
    · intro _ outcome heq
      cases heq
  · refine Or.inr (h.enter ?_)
    intro stage failure heq
    obtain ⟨-, rfl⟩ := LayerPhase.handling.inj heq
    exact Or.inr (h.applied failed happlied)

variable {failure : FailureHandling}

/-- The layer that claims a pair's failure has it as its own from then on. -/
theorem Attributed.claimed {prior : Option AppliedProfile} (h : Attributed gpuKey v x)
    (hphase : v.layer layer = .handling .decided failure) :
    Attributed gpuKey ({ v with lastAction := failure.now }.enter layer
      (.handling .claimed { failure with prior := prior })) x := by
  rcases h with h | h
  · obtain ⟨hfailed, -⟩ := h.handling layer .decided failure hphase
    have hacts : (LayerPhase.handling .claimed { failure with prior := prior }).acts x.pair :=
      ⟨.claimed, { failure with prior := prior }, rfl, Or.inl rfl, hfailed⟩
    have hentered : Unhandled gpuKey
        (v.enter layer (.handling .claimed { failure with prior := prior })) x := by
      refine h.enter ?_ (fun _ => hacts) ?_ ?_
      · intro stage failure' heq
        obtain ⟨rfl, rfl⟩ := LayerPhase.handling.inj heq
        exact ⟨hfailed, Or.inr (Or.inl rfl)⟩
      · intro _ failure' heq
        cases heq
      · intro _ outcome heq
        cases heq
    refine Or.inl ⟨h.applied, h.armed, hentered.handling, ?_, hentered.read, hentered.returned⟩
    refine Or.inr (Or.inr ⟨layer, ?_⟩)
    rw [SentinelView.enter_self]
    exact hacts
  · have hentered : Handled gpuKey
        (v.enter layer (.handling .claimed { failure with prior := prior })) x := by
      refine h.enter ?_
      intro stage failure' heq
      obtain ⟨-, rfl⟩ := LayerPhase.handling.inj heq
      exact h.handling layer .decided failure hphase
    exact Or.inr ⟨h.recorded, h.applied, hentered.handling⟩

/-- The persisted failure of any pair leaves every reset attributed. -/
theorem Attributed.persisted (h : Attributed gpuKey v x)
    (hphase : v.layer layer = .handling .claimed failure) (timestamp note : String) :
    Attributed gpuKey ({ v with
        dir := persistFieldFailure failure.failed.1 failure.failed.2 .done v.dir
        ledger := appendFieldFailure timestamp gpuKey failure.failed.1 failure.failed.2 note .done
          v.ledger }.enter layer (.handling .persisted failure)) x := by
  have hfiles := persistFieldFailure_files failure.failed.1 failure.failed.2 .done v.dir
  have happlied := appliedPair_congr hfiles.2
  have hrecorded : FieldRecorded gpuKey v.dir v.ledger x.pair → _ :=
    fun hrec => hrec.persist failure.failed timestamp note
  rcases h with h | h
  · obtain ⟨hfailed, -⟩ := h.handling layer .claimed failure hphase
    have harmed := h.armed
    have hv := h.withFiles happlied (by
      rw [isBootFlagArmed, ArmedFor, readBootFlag, hfiles.1]
      exact harmed) hrecorded (fun _ _ hflag => by
      rw [isBootFlagArmed, hfiles.1]
      exact hflag)
    refine Or.inl (hv.enter ?_ (fun _ => ⟨.persisted, failure, rfl, Or.inr rfl, hfailed⟩) ?_ ?_)
    · intro stage failure' heq
      obtain ⟨rfl, rfl⟩ := LayerPhase.handling.inj heq
      exact ⟨hfailed, Or.inr (Or.inr ⟨rfl, hfailed ▸ fieldRecorded_persist timestamp note⟩)⟩
    · intro _ failure' heq
      cases heq
    · intro _ outcome heq
      cases heq
  · have hv := h.withFiles (fun pair hpair => h.applied pair (happlied.symm.trans hpair))
      (hrecorded h.recorded)
    refine Or.inr (hv.enter ?_)
    intro stage failure' heq
    obtain ⟨-, rfl⟩ := LayerPhase.handling.inj heq
    exact h.handling layer .claimed failure hphase

/-- A layer that cleared the profile after it had persisted the failure. -/
theorem Attributed.stocked (h : Attributed gpuKey v x)
    (hphase : v.layer layer = .handling .persisted failure) (hgone : appliedPair dir = none)
    (hrecord : (loadRecord dir).blacklist = (loadRecord v.dir).blacklist)
    (hnext : phase = .handling .stock failure ∨ phase = .returned .stocked) :
    Attributed gpuKey ({ v with dir := dir }.enter layer phase) x := by
  have hmono : FieldRecorded gpuKey v.dir v.ledger x.pair →
      FieldRecorded gpuKey dir v.ledger x.pair := by
    intro hrec
    refine hrec.mono ?_ (List.Subset.refl _)
    rw [hrecord]
    exact List.Subset.refl _
  have hhandled : Handled gpuKey v x ∨ FieldRecorded gpuKey v.dir v.ledger x.pair ∧
      ∀ layer stage failure, v.layer layer = .handling stage failure →
        failure.failed = x.pair := by
    rcases h with h | h
    · right
      obtain ⟨-, hstage⟩ := h.handling layer .persisted failure hphase
      have hrec : FieldRecorded gpuKey v.dir v.ledger x.pair := by
        simpa using hstage
      exact ⟨hrec, fun layer stage failure hl => (h.handling layer stage failure hl).1⟩
    · exact Or.inl h
  have hv : Handled gpuKey { v with dir := dir } x := by
    rcases hhandled with h | ⟨hrec, hfailed⟩
    · exact h.withFiles (by simp [hgone]) (hmono h.recorded)
    · exact ⟨hmono hrec, by simp [hgone], fun layer stage failure hl =>
        Or.inl (hfailed layer stage failure hl)⟩
  refine Or.inr (hv.enter ?_)
  intro stage failure' heq
  rcases hnext with rfl | rfl
  · obtain ⟨-, rfl⟩ := LayerPhase.handling.inj heq
    exact hv.handling layer .persisted failure hphase
  · cases heq

/-- A layer that is past the clear: only handled resets are left. -/
theorem Attributed.handled {stage : SentinelStage} (h : Attributed gpuKey v x)
    (hphase : v.layer layer = .handling stage failure) (hstage : stage = .stock ∨ stage = .armed) :
    Handled gpuKey v x := by
  rcases h with h | h
  · obtain ⟨-, hbefore⟩ := h.handling layer stage failure hphase
    rcases hstage with rfl | rfl <;> simp at hbefore
  · exact h

/-- The fallback's arm touches the flag only, or ends at stock. -/
theorem Handled.fallbackArmed (h : Handled gpuKey v x) {stage : SentinelStage}
    (hphase : v.layer layer = .handling stage failure)
    (happlied : appliedPair dir = appliedPair v.dir ∨ appliedPair dir = none)
    (hrecord : dir.record = v.dir.record)
    (hnext : phase = .handling .armed failure ∨ phase = .returned .stocked) :
    Attributed gpuKey ({ v with dir := dir }.enter layer phase) x := by
  have hv : Handled gpuKey { v with dir := dir } x := by
    refine h.withFiles ?_ (h.recorded.congr hrecord)
    intro pair hpair
    rcases happlied with hsame | hnone
    · exact h.applied pair (hsame.symm.trans hpair)
    · rw [hnone] at hpair
      cases hpair
  refine Or.inr (hv.enter ?_)
  intro stage' failure' heq
  rcases hnext with rfl | rfl
  · obtain ⟨-, rfl⟩ := LayerPhase.handling.inj heq
    exact hv.handling layer stage failure hphase
  · cases heq

/-- The fallback lies above everything that its layer may have handled. -/
theorem Handled.fellBack (h : Handled gpuKey v x) {stage : SentinelStage} {newAnchorMv : Nat}
    {outcome : FailureOutcome} (hphase : v.layer layer = .handling stage failure)
    (hrises : failure.failed.2 < newAnchorMv)
    (happlied : appliedPair dir = some (failure.failed.1, newAnchorMv) ∨ appliedPair dir = none)
    (hrecord : dir.record = v.dir.record) :
    Attributed gpuKey ({ v with dir := dir }.enter layer (.returned outcome)) x := by
  have hv : Handled gpuKey { v with dir := dir } x := by
    refine h.withFiles ?_ (h.recorded.congr hrecord)
    intro pair hpair
    rcases happlied with hsome | hnone
    · obtain rfl : (failure.failed.1, newAnchorMv) = pair :=
        Option.some.inj (hsome.symm.trans hpair)
      rcases h.handling layer stage failure hphase with hsame | habove
      · rw [← hsame]
        exact ⟨rfl, hrises⟩
      · exact ⟨habove.1, habove.2.trans hrises⟩
    · rw [hnone] at hpair
      cases hpair
  refine Or.inr (hv.enter ?_)
  intro stage' failure' heq
  cases heq

/-- A demoted pair's resets are handled, and so are those of every pair below it. -/
theorem Attributed.demoted {pair : Nat × Nat} (h : Attributed gpuKey v x)
    (happlied : appliedPair v.dir = some pair) (hidle : ∀ layer, v.layer layer = .idle)
    (timestamp note : String) :
    Handled gpuKey { v with
      dir := clearApplied .done (persistFieldFailure pair.1 pair.2 .done v.dir)
      ledger := appendFieldFailure timestamp gpuKey pair.1 pair.2 note .done v.ledger } x := by
  have hhandling : ∀ layer stage failure, v.layer layer = .handling stage failure →
      failure.failed = x.pair ∨ AbovePair x.pair failure.failed := by
    intro layer stage failure hphase
    rw [hidle layer] at hphase
    cases hphase
  have hgone : ∀ other, (none : Option (Nat × Nat)) = some other → AbovePair x.pair other := by
    simp
  refine ⟨?_, hgone, hhandling⟩
  rcases h with h | h
  · obtain rfl : pair = x.pair := Option.some.inj (happlied.symm.trans h.applied)
    exact (fieldRecorded_persist timestamp note).congr rfl
  · exact (h.recorded.persist pair timestamp note).congr rfl

end View

end Nidavellir

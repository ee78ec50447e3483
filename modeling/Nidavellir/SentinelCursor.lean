import Nidavellir.SentinelAttribution

namespace Nidavellir

open SafeLoopStore

/-- The files that a step writes or removes. -/
def SentinelEvent.files : SentinelEvent → List FileResult
  | .recover _ results _ =>
    [results.clearCleanShutdown, results.disarm, results.clearBootFlag, results.saveRecord]
  | .reconcile _ _ _ _ record ledger applied => [record, ledger, applied]
  | .reapply cleared _ armed => [cleared, armed]
  | .apply _ _ armed => [armed]
  | .save result | .timer _ result | .forget result | .arm _ result | .clear result
  | .stop result => [result]
  | .reset _ _ results => [results.applied, results.record, results.bootFlag]
  | .fullReset _ _ results record baseline =>
    [results.applied, results.record, results.bootFlag, record, baseline]
  | .disarm _ _ applied bootFlag => [applied, bootFlag]
  | .persist _ _ record ledger => [record, ledger]
  | .stock _ _ _ results cleared => [results.applied, results.record, results.bootFlag, cleared]
  | .fallback _ _ armed cleared => [armed, cleared]
  | .fallbackReturns _ _ _ saved cleared => [saved, cleared]
  | _ => []

namespace SentinelState

variable (gpuKey : String) (s : SentinelState)

/-- The pair is recorded as failed and no longer the persisted profile, or the flag is still armed
for it. -/
def Effective (pair : Nat × Nat) : Prop :=
  FieldRecorded gpuKey s.dir s.ledger pair ∧ appliedPair s.dir ≠ some pair ∨ ArmedFor s.dir pair

/-- An exposed reset is pending whose pair is still the persisted profile, with no flag armed. -/
def Unanswered : Prop :=
  ∃ x ∈ s.pending, appliedPair s.dir = some x.pair ∧ isBootFlagArmed s.dir = false

/-- The watcher has taken up such a reset, and the canary is in the middle of its pair's failure. -/
def LeftToCanary : Prop :=
  ∃ x ∈ s.pending, x.index ≤ s.taken ∧ appliedPair s.dir = some x.pair ∧
    isBootFlagArmed s.dir = false ∧ (s.layer .canary).acts x.pair

/-- The steps that move a cursor over everything logged and ask `handle_failure` nothing: the end of
a cooldown, the spawn, a reset from before the start, a reconciliation without a baseline. -/
def Absorbs : SentinelEvent → Prop
  | .spawn seen | .cooled .watcher seen => (s.newest seen).isSome
  | .poll => s.newestAt < s.startFloor
  | .reconcile seen bugcheck _ _ _ _ _ =>
    (s.newest seen).isSome ∧ s.baseline = none ∧ bugcheck = false
  | _ => False

/-- What the rest of the system leaves alone: no exposed reset under another pair's flag or in the
middle of another failure, no other profile, no reset and no Forge while one is pending, and no
flag cleared behind the answer that the Forge owns the failure. -/
def Undisturbed : SentinelEvent → Prop
  | .tdr => ∀ pair, s.exposes = some pair →
      (isBootFlagArmed s.dir → ArmedFor s.dir pair) ∧
      ∀ layer stage failure, s.layer layer = .handling stage failure →
        stage = .decided ∧ failure.failed = pair
  | .apply profile _ _ => s.pending ≠ [] → profile.pair = appliedPair s.dir
  | .save _ => s.pending ≠ [] → ∀ profile, s.applying = some profile →
      profile.pair = appliedPair s.dir
  | .reset _ _ _ | .fullReset _ _ _ _ _ | .disarm _ _ _ _ | .forget _ | .forge true
  | .arm _ _ => s.pending = []
  | .timer _ _ | .clear _ => s.layer .watcher = .returned .forgeOwns →
      ∀ x ∈ s.pending, x.index ≤ s.taken → appliedPair s.dir ≠ some x.pair
  | _ => True

/-- The condition on a step. -/
structure Attended (e : SentinelEvent) : Prop where
  files : s.pending ≠ [] → ∀ result ∈ e.files, result = .done
  absorbs : s.Absorbs e → ¬ s.Unanswered
  commit : e = .commit .watcher → ¬ s.LeftToCanary
  undisturbed : s.Undisturbed e

end SentinelState

namespace SentinelState

variable {gpuKey : String} {s s' : SentinelState} {e : SentinelEvent} {x : ExposedTdr}

/-- A pending reset was logged before, is ahead of the baseline, and its fate is accounted for. -/
structure Tracked (gpuKey : String) (s : SentinelState) (x : ExposedTdr) : Prop where
  time : x.time ≤ s.now
  index : x.index ≤ s.logged
  baseline : ∀ baseline, s.baseline = some baseline → baseline < x.index
  attributed : Attributed gpuKey s.view x

/-- Every bump raises the anchor, and no loop runs outside the running service. -/
structure Loops (s : SentinelState) : Prop where
  rises : ∀ layer stage failure newAnchorMv, s.layer layer = .handling stage failure →
    failure.newAnchorMv = some newAnchorMv → failure.failed.2 < newAnchorMv
  idle : s.service ≠ .running → ∀ layer, s.layer layer = .idle

structure CursorInv (gpuKey : String) (s : SentinelState) : Prop where
  taken : s.taken ≤ s.logged
  baseline : ∀ baseline, s.baseline = some baseline → baseline ≤ s.logged
  loops : s.Loops
  forge : s.forgeActive → s.pending = []
  tracked : ∀ x ∈ s.pending, s.Tracked gpuKey x

/-- What every step that is attended achieves. -/
def Accounts (gpuKey : String) (s s' : SentinelState) : Prop :=
  CursorInv gpuKey s' ∧ ∀ x ∈ s.pending, x ∉ s'.pending → s'.Effective gpuKey x.pair

theorem Effective.of_handled (h : Handled gpuKey s.view x) : s.Effective gpuKey x.pair := by
  refine Or.inl ⟨h.recorded, fun happlied => ?_⟩
  have := (h.applied x.pair happlied).2
  omega

theorem Effective.of_armed (h : Attributed gpuKey s.view x)
    (harmed : appliedPair s.dir = some x.pair → isBootFlagArmed s.dir = true) :
    s.Effective gpuKey x.pair := by
  rcases h with h | h
  · exact Or.inr (h.armed (harmed h.applied))
  · exact .of_handled h

theorem Effective.of_not_unanswered (h : ¬ s.Unanswered) (hx : x ∈ s.pending)
    (hattributed : Attributed gpuKey s.view x) : s.Effective gpuKey x.pair := by
  refine .of_armed hattributed fun happlied => ?_
  by_contra hnot
  exact h ⟨x, hx, happlied, by simpa using hnot⟩

/-- A step that passes nothing. -/
theorem CursorInv.kept (h : CursorInv gpuKey s) (hpending : s'.pending = s.pending)
    (hnow : s.now ≤ s'.now) (hlogged : s'.logged = s.logged) (htaken : s'.taken ≤ s.logged)
    (hbaseline : s'.baseline = s.baseline) (hloops : s'.Loops)
    (hforge : s'.forgeActive → s.pending = [])
    (hattributed : ∀ x ∈ s.pending, s.Tracked gpuKey x → Attributed gpuKey s'.view x) :
    Accounts gpuKey s s' := by
  refine ⟨⟨hlogged ▸ htaken, ?_, hloops, ?_, ?_⟩, ?_⟩
  · rw [hbaseline, hlogged]
    exact h.baseline
  · rw [hpending]
    exact hforge
  · intro x hx
    rw [hpending] at hx
    have ht := h.tracked x hx
    exact ⟨ht.time.trans hnow, hlogged ▸ ht.index, hbaseline ▸ ht.baseline, hattributed x hx ht⟩
  · intro x hx hnot
    rw [hpending] at hnot
    exact absurd hx hnot

/-- A step with nothing pending. -/
theorem accounts_of_nothing_pending (hnone : s.pending = [])
    (hpending : s'.pending = s.pending) (hlogged : s'.logged = s.logged)
    (htaken : s'.taken ≤ s.logged)
    (hbaseline : ∀ baseline, s'.baseline = some baseline → baseline ≤ s.logged)
    (hloops : s'.Loops) : Accounts gpuKey s s' := by
  have hnone' : s'.pending = [] := hpending.trans hnone
  refine ⟨⟨hlogged ▸ htaken, hlogged ▸ hbaseline, hloops, fun _ => hnone', ?_⟩, ?_⟩
  · simp [hnone']
  · simp [hnone]

theorem mem_passing {newest : Nat} : x ∈ s.passing newest ↔ x ∈ s.pending ∧ newest < x.index := by
  simp [passing]

/-- A step that moves a cursor up to `newest`. -/
theorem CursorInv.passes (h : CursorInv gpuKey s) {newest : Nat} (hnewest : newest ≤ s.logged)
    (hpending : s'.pending = s.passing newest) (hnow : s.now ≤ s'.now)
    (hlogged : s'.logged = s.logged) (htaken : s'.taken ≤ s.logged)
    (hbaseline : s'.baseline = some newest ∨ s'.baseline = s.baseline) (hloops : s'.Loops)
    (hforge : s'.forgeActive → s.pending = [])
    (heffective : ∀ x ∈ s.pending, x.index ≤ newest → s'.Effective gpuKey x.pair)
    (hattributed : ∀ x ∈ s.pending, newest < x.index → Attributed gpuKey s'.view x) :
    Accounts gpuKey s s' := by
  refine ⟨⟨hlogged ▸ htaken, ?_, hloops, ?_, ?_⟩, ?_⟩
  · intro baseline hb
    rw [hlogged]
    rcases hbaseline with hnew | hold
    · obtain rfl := Option.some.inj (hnew.symm.trans hb)
      exact hnewest
    · exact h.baseline baseline (hold.symm.trans hb)
  · intro hactive
    simp [hpending, passing, hforge hactive]
  · intro x hx
    rw [hpending] at hx
    obtain ⟨hx, hlt⟩ := mem_passing.mp hx
    have ht := h.tracked x hx
    refine ⟨ht.time.trans hnow, hlogged ▸ ht.index, ?_, hattributed x hx hlt⟩
    intro baseline hb
    rcases hbaseline with hnew | hold
    · obtain rfl := Option.some.inj (hnew.symm.trans hb)
      exact hlt
    · exact ht.baseline baseline (hold.symm.trans hb)
  · intro x hx hnot
    refine heffective x hx ?_
    by_contra hlt
    rw [hpending] at hnot
    exact hnot (mem_passing.mpr ⟨hx, by omega⟩)

/-- A step of one layer. -/
theorem Loops.enter (h : s.Loops) {layer : SentinelLayer} {phase : LayerPhase}
    (hlayer : s'.layer = Function.update s.layer layer phase) (hrunning : s'.service = .running)
    (hphase : ∀ stage failure newAnchorMv, phase = .handling stage failure →
      failure.newAnchorMv = some newAnchorMv → failure.failed.2 < newAnchorMv) : s'.Loops where
  rises := by
    intro other stage failure newAnchorMv hother hnew
    rw [hlayer] at hother
    by_cases heq : other = layer
    · subst heq
      rw [Function.update_self] at hother
      exact hphase stage failure newAnchorMv hother hnew
    · rw [Function.update_of_ne heq] at hother
      exact h.rises other stage failure newAnchorMv hother hnew
  idle hnot := absurd hrunning hnot

theorem Loops.running (h : s.Loops) (layer : SentinelLayer) (hphase : s.layer layer ≠ .idle) :
    s.service = .running := by
  by_contra hnot
  exact hphase (h.idle hnot layer)

theorem Loops.same (h : s.Loops) (hlayer : s'.layer = s.layer)
    (hservice : s'.service = s.service) : s'.Loops :=
  ⟨hlayer ▸ h.rises, hlayer ▸ hservice ▸ h.idle⟩

/-- The step of a layer that handles nothing afterwards. -/
theorem Loops.enter_quiet (h : s.Loops) {layer : SentinelLayer} {phase : LayerPhase}
    (hlayer : s'.layer = Function.update s.layer layer phase) (hrunning : s'.service = .running)
    (hphase : ∀ stage failure, phase ≠ .handling stage failure) : s'.Loops :=
  h.enter hlayer hrunning fun stage failure _ heq => absurd heq (hphase stage failure)

theorem CursorInv.tdr (h : CursorInv gpuKey s) (hok : s.Attended .tdr) :
    Accounts gpuKey s s.logTdr := by
  have htaken := h.taken
  refine ⟨⟨?_, ?_, (h.loops.same rfl rfl), ?_, ?_⟩, ?_⟩
  · exact htaken.trans (Nat.le_succ s.logged)
  · intro baseline hb
    exact (h.baseline baseline hb).trans (Nat.le_succ s.logged)
  · intro hactive
    have hactive : s.forgeActive = true := hactive
    simp [logTdr, exposes, hactive, h.forge hactive]
  · intro x hx
    rcases List.mem_append.mp hx with hx | hx
    · have ht := h.tracked x hx
      exact ⟨ht.time, ht.index.trans (Nat.le_succ s.logged), ht.baseline, ht.attributed⟩
    · obtain ⟨pair, hpair, rfl⟩ := List.mem_map.mp hx
      have hexposed : s.exposes = some pair := Option.mem_toList.mp hpair
      obtain ⟨harmed, hlayers⟩ := hok.undisturbed pair hexposed
      have hexp := hexposed
      unfold exposes at hexp
      split at hexp
      next => cases hexp
      next hquiet =>
        simp only [Bool.or_eq_true, not_or] at hquiet
        have hstamp : ¬ (s.lastAction ≠ 0 ∧ s.now < s.lastAction + crossLayerDedupS) :=
          fun hepisode => hquiet.2 (sameEpisode_iff.mpr hepisode)
        refine ⟨le_rfl, le_rfl, ?_, Or.inl ⟨hexp, harmed, ?_, ?_, ?_, ?_⟩⟩
        · intro baseline hb
          exact Nat.lt_succ_of_le (h.baseline baseline hb)
        · intro layer stage failure hphase
          obtain ⟨hstage, hfailed⟩ := hlayers layer stage failure hphase
          exact ⟨hfailed, Or.inl hstage⟩
        · change s.lastAction = 0 ∨ s.lastAction + crossLayerDedupS ≤ s.now ∨ _
          omega
        · intro failure _ hindex
          have hindex : s.logged + 1 ≤ s.taken := hindex
          omega
        · intro outcome _ hindex
          have hindex : s.logged + 1 ≤ s.taken := hindex
          omega
  · intro x hx hnot
    exact absurd (List.mem_append_left _ hx) hnot

theorem CursorInv.killed (h : CursorInv gpuKey s) : Accounts gpuKey s s.killed :=
  h.kept rfl le_rfl rfl (Nat.zero_le _) rfl ⟨by simp [SentinelState.killed], fun _ _ => rfl⟩
    (by simp [SentinelState.killed]) fun _ _ ht => ht.attributed.killed

/-- The part of the state that only the sentinel's own steps and the event log change. -/
def frame (s : SentinelState) :=
  (s.pending, s.logged, s.baseline, s.taken, s.forgeActive, s.layer, s.ledger, s.lastAction, s.now)

/-- A step outside the sentinel that keeps the profile and every record. -/
theorem CursorInv.files (h : CursorInv gpuKey s) (hframe : s'.frame = s.frame)
    (hservice : s'.service = s.service ∨ s.service ≠ .running)
    (happlied : s.pending ≠ [] → appliedPair s'.dir = appliedPair s.dir)
    (hrecord : s.pending ≠ [] → (loadRecord s.dir).blacklist ⊆ (loadRecord s'.dir).blacklist)
    (harmed : ∀ x ∈ s.pending, appliedPair s.dir = some x.pair →
      (isBootFlagArmed s.dir → ArmedFor s.dir x.pair) →
      isBootFlagArmed s'.dir → ArmedFor s'.dir x.pair)
    (hkeep : s.layer .watcher = .returned .forgeOwns → ∀ x ∈ s.pending, x.index ≤ s.taken →
      appliedPair s.dir = some x.pair → isBootFlagArmed s.dir → isBootFlagArmed s'.dir) :
    Accounts gpuKey s s' := by
  simp only [frame, Prod.mk.injEq] at hframe
  obtain ⟨hpending, hlogged, hbaseline, htaken, hforge, hlayer, hledger, hstamp, hnow⟩ := hframe
  refine h.kept hpending hnow.ge hlogged (htaken ▸ h.taken) hbaseline ⟨?_, ?_⟩ ?_ ?_
  · rw [hlayer]
    exact h.loops.rises
  · rw [hlayer]
    intro hnot
    refine h.loops.idle ?_
    rcases hservice with hsame | hdown
    · exact hsame ▸ hnot
    · exact hdown
  · rw [hforge]
    exact h.forge
  · intro x hx ht
    have hne : s.pending ≠ [] := List.ne_nil_of_mem hx
    rw [view, hlayer, hledger, htaken, hstamp]
    refine ht.attributed.withFiles (happlied hne) ?_ (harmed x hx) fun hphase => hkeep hphase x hx
    exact fun hrec => hrec.mono (hrecord hne) (List.Subset.refl _)

theorem CursorInv.stop (h : CursorInv gpuKey s) (marker : FileResult) :
    Accounts gpuKey s { s with dir := writeCleanShutdown marker s.dir }.killed := by
  refine h.kept rfl le_rfl rfl (Nat.zero_le _) rfl ⟨by simp [SentinelState.killed], fun _ _ => rfl⟩
    (by simp [SentinelState.killed]) ?_
  intro x _ ht
  have hfiles : Attributed gpuKey { s.view with dir := writeCleanShutdown marker s.dir } x :=
    ht.attributed.withFiles rfl id (fun _ harmed => harmed) fun _ _ _ harmed => harmed
  exact hfiles.killed

theorem CursorInv.recovered (h : CursorInv gpuKey s) {bugcheck : CrashClass}
    {results : RecoveryResults} {sameBoot : Bool} (hdown : s.service = .down)
    (hok : s.Attended (.recover bugcheck results sameBoot)) :
    Accounts gpuKey s (s.recovered bugcheck results sameBoot) := by
  have hnot : s.service ≠ .running := by simp [hdown]
  refine h.files rfl (Or.inr hnot) (fun _ => runStartupRecovery_applied bugcheck results) ?_ ?_ ?_
  · intro hne
    exact runStartupRecovery_blacklist bugcheck (hok.files hne _ (by simp [SentinelEvent.files]))
  · intro x _ _ harmed hflag
    rcases runStartupRecovery_bootFlag bugcheck results s.dir with hgone | hsame
    · simp [SentinelState.recovered, isBootFlagArmed, hgone, StoredFile.present] at hflag
    · have hflag' : isBootFlagArmed s.dir := by
        simpa [SentinelState.recovered, isBootFlagArmed, hsame] using hflag
      simpa [SentinelState.recovered, ArmedFor, readBootFlag, hsame] using harmed hflag'
  · intro hphase
    rw [h.loops.idle hnot] at hphase
    cases hphase

theorem CursorInv.armed (h : CursorInv gpuKey s) {profile : AppliedProfile} {timestamp : String}
    {arm : FileResult} (hdone : s.pending ≠ [] → arm = .done)
    (hpair : s.pending ≠ [] → profile.pair = appliedPair s.dir) :
    Accounts gpuKey s (s.armed profile timestamp arm) := by
  refine h.files rfl (Or.inl rfl) (fun _ => rfl) (fun _ => List.Subset.refl _) ?_ ?_
  · intro x hx happlied _ _
    have hne : s.pending ≠ [] := List.ne_nil_of_mem hx
    obtain rfl := hdone hne
    exact armedFor_armBootFlag ((hpair hne).trans happlied) timestamp
  · intro _ x hx _ happlied _
    have hne : s.pending ≠ [] := List.ne_nil_of_mem hx
    obtain rfl := hdone hne
    rfl

theorem CursorInv.cleared (h : CursorInv gpuKey s) (hframe : s'.frame = s.frame)
    (hservice : s'.service = s.service) {result : FileResult}
    (hdir : s'.dir = clearBootFlag result s.dir) (hdone : s.pending ≠ [] → result = .done)
    (hok : s.layer .watcher = .returned .forgeOwns →
      ∀ x ∈ s.pending, x.index ≤ s.taken → appliedPair s.dir ≠ some x.pair) :
    Accounts gpuKey s s' := by
  refine h.files hframe (Or.inl hservice) ?_ ?_ ?_ ?_
  · rw [hdir]
    exact fun _ => rfl
  · rw [hdir]
    exact fun _ => List.Subset.refl _
  · intro x hx _ _ hflag
    rw [hdir, hdone (List.ne_nil_of_mem hx)] at hflag
    cases hflag
  · intro hphase x hx hindex happlied
    exact absurd happlied (hok hphase x hx hindex)

theorem CursorInv.saved (h : CursorInv gpuKey s) {profile : AppliedProfile} {result : FileResult}
    (hdone : s.pending ≠ [] → result = .done)
    (hpair : s.pending ≠ [] → profile.pair = appliedPair s.dir) :
    Accounts gpuKey s { s.saved profile result with applying := none } := by
  refine h.files rfl (Or.inl rfl) ?_ (fun _ => List.Subset.refl _) (fun _ _ _ harmed => harmed)
    fun _ _ _ _ _ harmed => harmed
  intro hne
  obtain rfl := hdone hne
  exact hpair hne

theorem CursorInv.reapplied (h : CursorInv gpuKey s) {cleared armed : FileResult}
    {timestamp : String} (hservice : s.service = .reconciled)
    (hok : s.Attended (.reapply cleared timestamp armed)) :
    Accounts gpuKey s (s.reapplied cleared timestamp armed) := by
  have hnot : s.service ≠ .running := by simp [hservice]
  have hidle : s.layer .watcher = .idle := h.loops.idle hnot .watcher
  have hfiles : s.pending ≠ [] → cleared = .done ∧ armed = .done := fun hne =>
    ⟨hok.files hne _ (by simp [SentinelEvent.files]),
      hok.files hne _ (by simp [SentinelEvent.files])⟩
  unfold SentinelState.reapplied
  split
  next profile dir hre =>
    obtain ⟨-, -, hload, hdir⟩ := reapplyOnBoot_eq_some (congrArg Prod.fst hre)
    obtain rfl : dir = s.dir := (congrArg Prod.snd hre).symm.trans hdir
    have hpair : profile.pair = appliedPair s.dir := by simp [appliedPair, hload]
    refine h.files rfl (Or.inr hnot) (fun _ => rfl) (fun _ => List.Subset.refl _) ?_ ?_
    · intro x hx happlied _ _
      obtain rfl := (hfiles (List.ne_nil_of_mem hx)).2
      exact armedFor_armBootFlag (hpair.trans happlied) timestamp
    · intro hphase
      rw [hidle] at hphase
      cases hphase
  next dir hre =>
    have hdir := reapplyOnBoot_dir (s.rebootRequired.map toString) cleared s.dir
    rw [hre] at hdir
    have hkeep : s.layer .watcher = .returned .forgeOwns → False := by
      intro hphase
      rw [hidle] at hphase
      cases hphase
    rcases hdir with hsame | ⟨-, -, hcleared⟩
    · obtain rfl : dir = s.dir := hsame
      exact h.files rfl (Or.inr hnot) (fun _ => rfl) (fun _ => List.Subset.refl _)
        (fun _ _ _ harmed => harmed) fun hphase => (hkeep hphase).elim
    · obtain rfl : dir = clearBootFlag cleared s.dir := congrArg Prod.snd hcleared
      refine h.files rfl (Or.inr hnot) (fun _ => rfl) (fun _ => List.Subset.refl _) ?_
        fun hphase => (hkeep hphase).elim
      intro x hx _ _ hflag
      obtain rfl := (hfiles (List.ne_nil_of_mem hx)).1
      cases hflag

/-- A step that absorbs everything logged, where no reset is unanswered. -/
theorem CursorInv.absorbed (h : CursorInv gpuKey s) (hok : ¬ s.Unanswered)
    (hpending : s'.pending = s.passing s.logged) (hnow : s.now ≤ s'.now)
    (hlogged : s'.logged = s.logged) (htaken : s'.taken ≤ s.logged)
    (hbaseline : s'.baseline = some s.logged ∨ s'.baseline = s.baseline) (hloops : s'.Loops)
    (hforge : s'.forgeActive → s.pending = []) (hdir : s'.dir = s.dir)
    (hledger : s'.ledger = s.ledger) : Accounts gpuKey s s' := by
  refine h.passes le_rfl hpending hnow hlogged htaken hbaseline hloops hforge ?_ ?_
  · intro x hx _
    have heff := Effective.of_not_unanswered hok hx (h.tracked x hx).attributed
    rw [Effective, hdir, hledger]
    exact heff
  · intro x hx hlt
    have := (h.tracked x hx).index
    omega

theorem newest_eq_some {seen : Bool} {index : Nat} (h : s.newest seen = some index) :
    index = s.logged := by
  unfold newest at h
  split at h
  next => exact (Option.some.inj h).symm
  next => cases h

theorem CursorInv.spawned (h : CursorInv gpuKey s) {seen : Bool} (hservice : s.service = .reapplied)
    (hok : s.Attended (.spawn seen)) : Accounts gpuKey s (s.spawned seen) := by
  have hidle : ∀ layer, s.layer layer = .idle := h.loops.idle (by simp [hservice])
  have hloops : (s.spawned seen).Loops := by
    refine ⟨?_, fun _ => hidle⟩
    intro layer stage failure newAnchorMv hphase
    have hphase : s.layer layer = _ := hphase
    rw [hidle layer] at hphase
    cases hphase
  cases hnewest : s.newest seen with
  | none =>
    refine h.kept ?_ le_rfl rfl h.taken rfl hloops h.forge fun _ _ ht => ht.attributed
    simp [SentinelState.spawned, hnewest]
  | some newest =>
    obtain rfl := newest_eq_some hnewest
    refine h.absorbed (hok.absorbs ?_) ?_ le_rfl rfl h.taken (Or.inr rfl) hloops h.forge rfl rfl
    · simp [Absorbs, hnewest]
    · simp [SentinelState.spawned, hnewest]

theorem CursorInv.reconciled (h : CursorInv gpuKey s) {seen bugcheck : Bool}
    {timestamp source : String} {record ledger applied : FileResult}
    (hservice : s.service = .recovered)
    (hok : s.Attended (.reconcile seen bugcheck timestamp source record ledger applied)) :
    Accounts gpuKey s
      (s.reconciled gpuKey seen bugcheck timestamp source record ledger applied) := by
  have hidle : ∀ layer, s.layer layer = .idle := h.loops.idle (by simp [hservice])
  have hloops : ∀ s' : SentinelState, s'.layer = s.layer → s'.Loops := by
    intro s' hlayer
    refine ⟨?_, fun _ layer => hlayer ▸ hidle layer⟩
    intro layer stage failure newAnchorMv hphase
    rw [hlayer, hidle layer] at hphase
    cases hphase
  rcases reconciled_cases gpuKey s seen bugcheck timestamp source record ledger applied with
    ⟨pair, note, happlied, -, heq⟩ | ⟨hcrash, heq⟩
  · rw [heq]
    have hhandled : ∀ x ∈ s.pending, Handled gpuKey { s.view with
        dir := clearApplied applied (persistFieldFailure pair.1 pair.2 record s.dir)
        ledger := appendFieldFailure timestamp gpuKey pair.1 pair.2 note ledger s.ledger } x := by
      intro x hx
      have hfiles := hok.files (List.ne_nil_of_mem hx)
      simp only [SentinelEvent.files, List.mem_cons, List.not_mem_nil, or_false,
        forall_eq_or_imp, forall_eq] at hfiles
      obtain ⟨rfl, rfl, rfl⟩ := hfiles
      exact (h.tracked x hx).attributed.demoted happlied hidle timestamp note
    cases hnewest : s.newest seen with
    | none =>
      exact h.kept rfl le_rfl rfl h.taken rfl (hloops _ rfl) h.forge fun x hx _ =>
        Or.inr (hhandled x hx)
    | some newest =>
      obtain rfl := newest_eq_some hnewest
      refine h.passes le_rfl rfl le_rfl rfl h.taken (Or.inl rfl) (hloops _ rfl) h.forge ?_ ?_
      · exact fun x hx _ => .of_handled (hhandled x hx)
      · exact fun x hx _ => Or.inr (hhandled x hx)
  · rw [heq]
    cases hnewest : s.newest seen with
    | none =>
      exact h.kept rfl le_rfl rfl h.taken rfl (hloops _ rfl) h.forge fun _ _ ht => ht.attributed
    | some newest =>
      obtain rfl := newest_eq_some hnewest
      have hanswered : ¬ s.Unanswered := by
        intro hun
        have habsorbs := hun
        obtain ⟨x, hx, happlied, -⟩ := habsorbs
        obtain ⟨hnew, hbugcheck⟩ := hcrash.resolve_left (by simp [happlied])
        refine hok.absorbs ⟨by simp [hnewest], ?_, hbugcheck⟩ hun
        cases hb : s.baseline with
        | none => rfl
        | some baseline =>
          have hlt := (h.tracked x hx).baseline baseline hb
          have hle := (h.tracked x hx).index
          have hnot : ¬ baseline < s.logged := by simpa [newTdr, hnewest, hb] using hnew
          omega
      exact h.absorbed hanswered rfl le_rfl rfl h.taken (Or.inl rfl) (hloops _ rfl) h.forge rfl rfl

/-- A poll that takes a reset up reads no phase of the watcher any more. -/
theorem Tracked.taken {index bumps : Nat} (ht : s.Tracked gpuKey x)
    (hidle : s.layer .watcher = .idle) :
    Attributed gpuKey ({ s.view with taken := index }.enter .watcher (.taken bumps)) x := by
  have hnew : Attributed gpuKey { s.view with taken := index } x := by
    rcases ht.attributed with hx | hx
    · refine Or.inl ⟨hx.applied, hx.armed, hx.handling, hx.stamp, ?_, ?_⟩
      · intro failure hphase
        rw [show s.layer .watcher = _ from hphase] at hidle
        cases hidle
      · intro outcome hphase
        rw [show s.layer .watcher = _ from hphase] at hidle
        cases hidle
    · exact Or.inr ⟨hx.recorded, hx.applied, hx.handling⟩
  refine hnew.enter_quiet (by simp) ?_ (by simp)
  rintro ⟨stage, failure, hphase, -⟩
  rw [show s.layer .watcher = _ from hphase] at hidle
  cases hidle

theorem CursorInv.polled (h : CursorInv gpuKey s) (hidle : s.layer .watcher = .idle)
    (hrunning : s.service = .running) (hok : s.Attended .poll) : Accounts gpuKey s s.polled := by
  unfold SentinelState.polled
  split
  next hold =>
    exact h.absorbed (hok.absorbs hold) rfl le_rfl rfl h.taken (Or.inl rfl)
      (h.loops.same rfl rfl) h.forge rfl rfl
  next =>
    split
    next hforge =>
      have hnone := h.forge hforge
      refine accounts_of_nothing_pending hnone ?_ rfl h.taken ?_ (h.loops.same rfl rfl)
      · simp [advance, passing, hnone]
      · intro baseline hb
        exact (Option.some.inj hb).ge
    next hforge =>
      refine h.kept rfl le_rfl rfl le_rfl rfl (h.loops.enter_quiet rfl hrunning (by simp))
        (fun hactive => absurd hactive hforge) ?_
      exact fun x _ ht => ht.taken hidle

/-- A layer goes on without handling anything. -/
theorem CursorInv.enter_quiet (h : CursorInv gpuKey s) {layer : SentinelLayer} {phase : LayerPhase}
    (hrunning : s.service = .running) (hphase : ∀ stage failure, phase ≠ .handling stage failure)
    (hold : ∀ x ∈ s.pending, ¬ (s.layer layer).acts x.pair)
    (hreturned : layer = .watcher → ∀ outcome, phase = .returned outcome → ∀ x ∈ s.pending,
      x.index ≤ s.taken → appliedPair s.dir = some x.pair →
      isBootFlagArmed s.dir ∧ outcome = .forgeOwns ∨ (s.layer .canary).acts x.pair) :
    Accounts gpuKey s (s.enter layer phase) := by
  refine h.kept rfl le_rfl rfl h.taken rfl (h.loops.enter_quiet rfl hrunning hphase) h.forge ?_
  intro x hx ht
  refine ht.attributed.enter_quiet hphase (hold x hx) ?_
  exact fun hwatcher outcome heq => hreturned hwatcher outcome heq x hx

theorem not_acts_of_taken {pair : Nat × Nat} {layer : SentinelLayer} {bumps : Nat}
    (hphase : s.layer layer = .taken bumps) : ¬ (s.layer layer).acts pair := by
  rintro ⟨stage, failure, heq, -⟩
  rw [hphase] at heq
  cases heq

/-- The stamp that turns the watcher away is the canary's. -/
theorem Tracked.canary_acts {now : Nat} (ht : s.Tracked gpuKey x)
    (happlied : appliedPair s.dir = some x.pair) (hepisode : sameEpisode s.lastAction now)
    (htime : x.time ≤ now) (hwatcher : ¬ (s.layer .watcher).acts x.pair) :
    (s.layer .canary).acts x.pair := by
  rcases ht.attributed with hx | hx
  · exact hx.canary_acts hepisode htime hwatcher
  · have := (hx.applied x.pair happlied).2
    omega

theorem CursorInv.decided (h : CursorInv gpuKey s) {layer : SentinelLayer} {bumps : Nat}
    {curve : List (Nat × Nat × Nat)} (hphase : s.layer layer = .taken bumps) :
    Accounts gpuKey s (s.decided layer bumps curve) := by
  have hrunning := h.loops.running layer (by simp [hphase])
  have hold : ∀ x ∈ s.pending, ¬ (s.layer layer).acts x.pair := fun _ _ => not_acts_of_taken hphase
  rcases s.decided_cases layer bumps curve with
    ⟨failed, newAnchorMv, happlied, hrises, heq⟩ | ⟨harmed, heq⟩ | ⟨hepisode, heq⟩ | ⟨hnone, heq⟩
  · rw [heq]
    refine h.kept rfl le_rfl rfl h.taken rfl (h.loops.enter rfl hrunning ?_) h.forge ?_
    · intro stage failure newMv hnew hsome
      obtain ⟨-, rfl⟩ := LayerPhase.handling.inj hnew
      exact (hrises newMv hsome).1
    · exact fun x hx ht => ht.attributed.decided ht.time happlied (hold x hx)
  · rw [heq]
    refine h.enter_quiet hrunning (by simp) hold ?_
    intro _ outcome houtcome x _ _ _
    exact Or.inl ⟨harmed, (LayerPhase.returned.inj houtcome).symm⟩
  · rw [heq]
    refine h.enter_quiet hrunning (by simp) hold ?_
    rintro rfl outcome - x hx _ happlied
    have ht := h.tracked x hx
    exact Or.inr (ht.canary_acts happlied hepisode ht.time (hold x hx))
  · rw [heq]
    refine h.enter_quiet hrunning (by simp) hold ?_
    intro _ _ _ x _ _ happlied
    rw [hnone] at happlied
    cases happlied

theorem CursorInv.claimed (h : CursorInv gpuKey s) {layer : SentinelLayer}
    {failure : FailureHandling} (hphase : s.layer layer = .handling .decided failure) :
    Accounts gpuKey s (s.claimed layer failure) := by
  have hrunning := h.loops.running layer (by simp [hphase])
  have hold : ∀ x ∈ s.pending, ¬ (s.layer layer).acts x.pair := by
    rintro x - ⟨stage, failure', heq, hstage, -⟩
    rw [hphase] at heq
    obtain ⟨rfl, -⟩ := LayerPhase.handling.inj heq
    simp at hstage
  rcases s.claimed_cases layer failure with ⟨hepisode, heq⟩ | ⟨-, heq⟩
  · rw [heq]
    refine h.enter_quiet hrunning (by simp) hold ?_
    rintro rfl outcome - x hx hindex happlied
    have ht := h.tracked x hx
    rcases ht.attributed with hx' | hx'
    · exact Or.inr (hx'.canary_acts hepisode (hx'.read failure hphase hindex) (hold x hx))
    · have := (hx'.applied x.pair happlied).2
      omega
  · rw [heq]
    refine h.kept rfl le_rfl rfl h.taken rfl (h.loops.enter rfl hrunning ?_) h.forge ?_
    · intro stage failure' newMv hnew hsome
      obtain ⟨-, rfl⟩ := LayerPhase.handling.inj hnew
      exact h.loops.rises layer .decided failure newMv hphase hsome
    · exact fun x _ ht => ht.attributed.claimed hphase

theorem CursorInv.persisted (h : CursorInv gpuKey s) {layer : SentinelLayer}
    {failure : FailureHandling} {timestamp : String} {record ledger : FileResult}
    (hphase : s.layer layer = .handling .claimed failure)
    (hok : s.Attended (.persist layer timestamp record ledger)) :
    Accounts gpuKey s (s.persisted gpuKey layer failure timestamp record ledger) := by
  have hrunning := h.loops.running layer (by simp [hphase])
  have hloops : (s.persisted gpuKey layer failure timestamp record ledger).Loops := by
    refine h.loops.enter rfl hrunning ?_
    intro stage failure' newMv hnew hsome
    obtain ⟨-, rfl⟩ := LayerPhase.handling.inj hnew
    exact h.loops.rises layer .claimed failure newMv hphase hsome
  refine h.kept rfl le_rfl rfl h.taken rfl hloops h.forge ?_
  intro x hx ht
  have hfiles := hok.files (List.ne_nil_of_mem hx)
  obtain rfl : record = .done := hfiles _ (by simp [SentinelEvent.files])
  obtain rfl : ledger = .done := hfiles _ (by simp [SentinelEvent.files])
  exact ht.attributed.persisted hphase timestamp _

theorem CursorInv.stocked (h : CursorInv gpuKey s) {layer : SentinelLayer}
    {failure : FailureHandling} {clockError gpuError : Option String} {results : ResetResults}
    {clear : FileResult} (hphase : s.layer layer = .handling .persisted failure)
    (hok : s.Attended (.stock layer clockError gpuError results clear)) :
    Accounts gpuKey s (s.stocked layer failure clockError gpuError results clear) := by
  have hrunning := h.loops.running layer (by simp [hphase])
  obtain ⟨phase, hnext, heq⟩ := s.stocked_cases layer failure clockError gpuError results clear
  rw [heq]
  refine h.kept rfl le_rfl rfl h.taken rfl (h.loops.enter rfl hrunning ?_)
    h.forge ?_
  · intro stage failure' newMv hnew hsome
    rcases hnext with rfl | rfl
    · obtain ⟨-, rfl⟩ := LayerPhase.handling.inj hnew
      exact h.loops.rises layer .persisted failure newMv hphase hsome
    · cases hnew
  · intro x hx ht
    have hfiles := hok.files (List.ne_nil_of_mem hx)
    obtain rfl : clear = .done := hfiles _ (by simp [SentinelEvent.files])
    have hgone := resetAfterFailure_done failure.newAnchorMv.isSome clockError gpuError s.dir
      (hfiles results.applied (by simp [SentinelEvent.files]))
      (hfiles results.record (by simp [SentinelEvent.files]))
    exact ht.attributed.stocked hphase hgone.1 hgone.2 hnext

theorem CursorInv.fallbackArmed (h : CursorInv gpuKey s) {layer : SentinelLayer}
    {failure : FailureHandling} {newAnchorMv : Nat} {timestamp : String} {arm clear : FileResult}
    (hphase : s.layer layer = .handling .stock failure)
    (hok : s.Attended (.fallback layer timestamp arm clear)) :
    Accounts gpuKey s (s.fallbackArmed layer failure newAnchorMv timestamp arm clear) := by
  have hrunning := h.loops.running layer (by simp [hphase])
  unfold SentinelState.fallbackArmed
  dsimp only
  split
  next =>
    refine h.kept rfl le_rfl rfl h.taken rfl
      (h.loops.enter rfl hrunning ?_) h.forge ?_
    · intro stage failure' newMv hnew hsome
      obtain ⟨-, rfl⟩ := LayerPhase.handling.inj hnew
      exact h.loops.rises layer .stock failure newMv hphase hsome
    · intro x _ ht
      exact (ht.attributed.handled hphase (Or.inl rfl)).fallbackArmed hphase (Or.inl rfl) rfl
        (Or.inl rfl)
  next =>
    refine h.kept rfl le_rfl rfl h.taken rfl
      (h.loops.enter_quiet rfl hrunning (by simp)) h.forge ?_
    intro x hx ht
    have hfiles := hok.files (List.ne_nil_of_mem hx)
    obtain rfl : clear = .done := hfiles _ (by simp [SentinelEvent.files])
    exact (ht.attributed.handled hphase (Or.inl rfl)).fallbackArmed hphase (Or.inr rfl) rfl
      (Or.inr rfl)

theorem CursorInv.fellBack (h : CursorInv gpuKey s) {layer : SentinelLayer}
    {failure : FailureHandling} {newAnchorMv : Nat} {written : Bool} {appliedAt : Option String}
    {save clear : FileResult} (hphase : s.layer layer = .handling .armed failure)
    (hnew : failure.newAnchorMv = some newAnchorMv)
    (hok : s.Attended (.fallbackReturns layer written appliedAt save clear)) :
    Accounts gpuKey s (s.fellBack layer failure newAnchorMv written appliedAt save clear) := by
  have hrunning := h.loops.running layer (by simp [hphase])
  have hrises := h.loops.rises layer .armed failure newAnchorMv hphase hnew
  unfold SentinelState.fellBack
  split
  next =>
    refine h.kept rfl le_rfl rfl h.taken rfl
      (h.loops.enter_quiet rfl hrunning (by simp)) h.forge ?_
    intro x hx ht
    have hfiles := hok.files (List.ne_nil_of_mem hx)
    obtain rfl : save = .done := hfiles _ (by simp [SentinelEvent.files])
    exact (ht.attributed.handled hphase (Or.inr rfl)).fellBack hphase hrises (Or.inl rfl) rfl
  next =>
    refine h.kept rfl le_rfl rfl h.taken rfl
      (h.loops.enter_quiet rfl hrunning (by simp)) h.forge ?_
    intro x hx ht
    have hfiles := hok.files (List.ne_nil_of_mem hx)
    obtain rfl : clear = .done := hfiles _ (by simp [SentinelEvent.files])
    exact (ht.attributed.handled hphase (Or.inr rfl)).fellBack hphase hrises (Or.inr rfl) rfl

/-- A layer that has returned, or cooled down, leaves its phase as if it had never handled. -/
theorem not_acts_of_ne {pair : Nat × Nat} {layer : SentinelLayer}
    (hphase : ∀ stage failure, s.layer layer ≠ .handling stage failure) :
    ¬ (s.layer layer).acts pair := by
  rintro ⟨stage, failure, heq, -⟩
  exact hphase stage failure heq

theorem CursorInv.committed (h : CursorInv gpuKey s) {layer : SentinelLayer}
    {outcome : FailureOutcome} (hphase : s.layer layer = .returned outcome)
    (hok : s.Attended (.commit layer)) : Accounts gpuKey s (s.committed layer outcome) := by
  have hrunning := h.loops.running layer (by simp [hphase])
  have hquiet : ∀ x : ExposedTdr, ¬ (s.layer layer).acts x.pair :=
    fun _ => not_acts_of_ne (by simp [hphase])
  cases layer with
  | canary =>
    refine h.kept rfl le_rfl rfl h.taken rfl (h.loops.enter_quiet rfl hrunning (by simp)) h.forge ?_
    exact fun x _ ht => ht.attributed.enter_quiet (by simp) (hquiet x) (by simp)
  | watcher =>
    refine h.passes h.taken rfl le_rfl rfl h.taken (Or.inl rfl)
      (h.loops.enter_quiet rfl hrunning (by simp)) h.forge ?_ ?_
    · intro x hx hindex
      have hattributed := (h.tracked x hx).attributed
      have heff : s.Effective gpuKey x.pair := by
        refine .of_armed hattributed fun happlied => ?_
        by_contra hnot
        have hnot : isBootFlagArmed s.dir = false := by simpa using hnot
        rcases hattributed with hx' | hx'
        · have hcanary := (hx'.returned outcome hphase hindex).resolve_left fun harmed => by
            simp [show isBootFlagArmed s.dir = true from harmed.1] at hnot
          exact hok.commit rfl ⟨x, hx, hindex, happlied, hnot, hcanary⟩
        · have := (hx'.applied x.pair happlied).2
          omega
      exact heff
    · intro x hx hlt
      exact (h.tracked x hx).attributed.enter_quiet (by simp) (hquiet x) (by simp)

theorem CursorInv.cooledDown (h : CursorInv gpuKey s) {layer : SentinelLayer} {seen : Bool}
    {deadline : Nat} (hphase : s.layer layer = .cooling deadline)
    (hok : s.Attended (.cooled layer seen)) : Accounts gpuKey s (s.cooledDown layer seen) := by
  have hrunning := h.loops.running layer (by simp [hphase])
  have hquiet : ∀ x ∈ s.pending, ¬ (s.layer layer).acts x.pair :=
    fun _ _ => not_acts_of_ne (by simp [hphase])
  cases layer with
  | canary => exact h.enter_quiet hrunning (by simp) hquiet (by simp)
  | watcher =>
    unfold SentinelState.cooledDown
    cases hnewest : s.newest seen with
    | none => exact h.enter_quiet hrunning (by simp) hquiet (by simp)
    | some newest =>
      obtain rfl := newest_eq_some hnewest
      exact h.absorbed (hok.absorbs (by simp [Absorbs, hnewest])) rfl le_rfl rfl h.taken
        (Or.inl rfl) (h.loops.enter_quiet rfl hrunning (by simp)) h.forge rfl rfl

/-- The steps that a pending reset rules out. -/
theorem CursorInv.disturbed (h : CursorInv gpuKey s) (hok : s.pending = [])
    (hpending : s'.pending = s.pending) (hlogged : s'.logged = s.logged)
    (htaken : s'.taken = s.taken) (hbaseline : s'.baseline = s.baseline ∨ s'.baseline = none)
    (hlayer : s'.layer = s.layer) (hservice : s'.service = s.service) :
    Accounts gpuKey s s' := by
  refine accounts_of_nothing_pending hok hpending hlogged (htaken ▸ h.taken) ?_
    (h.loops.same hlayer hservice)
  intro baseline hb
  rcases hbaseline with hsame | hnone
  · exact h.baseline baseline (hsame.symm.trans hb)
  · cases hnone.symm.trans hb

theorem CursorInv.step (h : CursorInv gpuKey s) (hok : s.Attended e)
    (hs : s.step gpuKey e = some s') : Accounts gpuKey s s' := by
  cases e with
  | tick seconds =>
    obtain rfl := Option.some.inj hs
    exact h.kept rfl (Nat.le_add_right _ _) rfl h.taken rfl (h.loops.same rfl rfl) h.forge
      fun _ _ ht => ht.attributed
  | tdr =>
    obtain rfl := Option.some.inj hs
    exact h.tdr hok
  | crash =>
    obtain rfl := Option.some.inj hs
    exact h.killed
  | recover bugcheck results sameBoot =>
    obtain ⟨hservice, hs⟩ := Option.ite_none_right_eq_some.mp hs
    obtain rfl := Option.some.inj hs
    exact h.recovered hservice hok
  | reconcile seen bugcheck timestamp source record ledger applied =>
    obtain ⟨hservice, hs⟩ := Option.ite_none_right_eq_some.mp hs
    obtain rfl := Option.some.inj hs
    exact h.reconciled hservice hok
  | reapply cleared timestamp armed =>
    obtain ⟨hservice, hs⟩ := Option.ite_none_right_eq_some.mp hs
    obtain rfl := Option.some.inj hs
    exact h.reapplied hservice hok
  | spawn seen =>
    obtain ⟨hservice, hs⟩ := Option.ite_none_right_eq_some.mp hs
    obtain rfl := Option.some.inj hs
    exact h.spawned hservice.1 hok
  | apply profile timestamp armed =>
    obtain ⟨-, hs⟩ := Option.ite_none_right_eq_some.mp hs
    obtain rfl := Option.some.inj hs
    refine h.armed (fun hne => hok.files hne _ ?_) hok.undisturbed
    simp [SentinelEvent.files]
  | save result =>
    obtain ⟨profile, happlying, rfl⟩ := Option.map_eq_some_iff.mp hs
    refine h.saved (fun hne => hok.files hne _ ?_) fun hne => hok.undisturbed hne profile happlying
    simp [SentinelEvent.files]
  | applyFails =>
    obtain ⟨profile, -, rfl⟩ := Option.map_eq_some_iff.mp hs
    exact h.kept rfl le_rfl rfl h.taken rfl (h.loops.same rfl rfl) h.forge
      fun _ _ ht => ht.attributed
  | timer due result =>
    obtain ⟨-, hs⟩ := Option.ite_none_right_eq_some.mp hs
    obtain rfl := Option.some.inj hs
    refine h.cleared rfl rfl rfl (fun hne => hok.files hne _ ?_) hok.undisturbed
    simp [SentinelEvent.files]
  | clear result =>
    obtain ⟨-, hs⟩ := Option.ite_none_right_eq_some.mp hs
    obtain rfl := Option.some.inj hs
    refine h.cleared rfl rfl rfl (fun hne => hok.files hne _ ?_) hok.undisturbed
    simp [SentinelEvent.files]
  | reset clockError gpuError results =>
    obtain ⟨-, hs⟩ := Option.ite_none_right_eq_some.mp hs
    obtain rfl := Option.some.inj hs
    exact h.disturbed hok.undisturbed rfl rfl rfl (Or.inl rfl) rfl rfl
  | fullReset clockError gpuError results record baseline =>
    obtain ⟨-, hs⟩ := Option.ite_none_right_eq_some.mp hs
    obtain rfl := Option.some.inj hs
    unfold fullyReset
    split
    next =>
      refine h.disturbed hok.undisturbed rfl rfl rfl ?_ rfl rfl
      dsimp only
      split
      next => exact Or.inr rfl
      next => exact Or.inl rfl
    next => exact h.disturbed hok.undisturbed rfl rfl rfl (Or.inl rfl) rfl rfl
  | disarm clockError vfError applied bootFlag =>
    obtain ⟨-, hs⟩ := Option.ite_none_right_eq_some.mp hs
    obtain rfl := Option.some.inj hs
    exact h.disturbed hok.undisturbed rfl rfl rfl (Or.inl rfl) rfl rfl
  | forget result =>
    obtain ⟨-, hs⟩ := Option.ite_none_right_eq_some.mp hs
    obtain rfl := Option.some.inj hs
    exact h.disturbed hok.undisturbed rfl rfl rfl (Or.inl rfl) rfl rfl
  | arm flag result =>
    obtain ⟨-, hs⟩ := Option.ite_none_right_eq_some.mp hs
    obtain rfl := Option.some.inj hs
    exact h.disturbed hok.undisturbed rfl rfl rfl (Or.inl rfl) rfl rfl
  | forge active =>
    obtain ⟨-, hs⟩ := Option.ite_none_right_eq_some.mp hs
    obtain rfl := Option.some.inj hs
    cases active with
    | true => exact h.disturbed hok.undisturbed rfl rfl rfl (Or.inl rfl) rfl rfl
    | false =>
      exact h.kept rfl le_rfl rfl h.taken rfl (h.loops.same rfl rfl)
        (fun hactive => by cases hactive) fun _ _ ht => ht.attributed
  | stop marker =>
    obtain ⟨-, hs⟩ := Option.ite_none_right_eq_some.mp hs
    obtain rfl := Option.some.inj hs
    exact h.stop marker
  | poll =>
    simp only [SentinelState.step] at hs
    split at hs
    next hidle =>
      obtain ⟨⟨hrunning, -⟩, hs⟩ := Option.ite_none_right_eq_some.mp hs
      obtain rfl := Option.some.inj hs
      exact h.polled hidle hrunning hok
    next => cases hs
  | canaryStarts =>
    simp only [SentinelState.step] at hs
    split at hs
    next hidle =>
      obtain ⟨⟨hrunning, -⟩, hs⟩ := Option.ite_none_right_eq_some.mp hs
      obtain rfl := Option.some.inj hs
      refine h.enter_quiet hrunning (by simp) ?_ (by simp)
      exact fun x _ => not_acts_of_ne (by simp [hidle])
    next => cases hs
  | canaryReturns failed =>
    simp only [SentinelState.step] at hs
    split at hs
    next hprobing =>
      obtain rfl := Option.some.inj hs
      refine h.enter_quiet (h.loops.running .canary (by simp [hprobing])) ?_ ?_ (by simp)
      · cases failed <;> simp
      · exact fun x _ => not_acts_of_ne (by simp [hprobing])
    next => cases hs
  | decide layer curve =>
    simp only [SentinelState.step] at hs
    split at hs
    next bumps hphase =>
      obtain rfl := Option.some.inj hs
      exact h.decided hphase
    next => cases hs
  | claim layer =>
    simp only [SentinelState.step] at hs
    split at hs
    next failure hphase =>
      obtain rfl := Option.some.inj hs
      exact h.claimed hphase
    next => cases hs
  | persist layer timestamp record ledger =>
    simp only [SentinelState.step] at hs
    split at hs
    next failure hphase =>
      obtain rfl := Option.some.inj hs
      exact h.persisted hphase hok
    next => cases hs
  | stock layer clockError gpuError results clear =>
    simp only [SentinelState.step] at hs
    split at hs
    next failure hphase =>
      obtain rfl := Option.some.inj hs
      exact h.stocked hphase hok
    next => cases hs
  | fallback layer timestamp arm clear =>
    simp only [SentinelState.step] at hs
    split at hs
    next failure hphase =>
      obtain ⟨newAnchorMv, -, rfl⟩ := Option.map_eq_some_iff.mp hs
      exact h.fallbackArmed hphase hok
    next => cases hs
  | fallbackReturns layer written appliedAt save clear =>
    simp only [SentinelState.step] at hs
    split at hs
    next failure hphase =>
      obtain ⟨newAnchorMv, hnew, rfl⟩ := Option.map_eq_some_iff.mp hs
      exact h.fellBack hphase hnew hok
    next => cases hs
  | commit layer =>
    simp only [SentinelState.step] at hs
    split at hs
    next outcome hphase =>
      obtain rfl := Option.some.inj hs
      exact h.committed hphase hok
    next => cases hs
  | cooled layer seen =>
    simp only [SentinelState.step] at hs
    split at hs
    next deadline hphase =>
      obtain ⟨-, hs⟩ := Option.ite_none_right_eq_some.mp hs
      obtain rfl := Option.some.inj hs
      exact h.cooledDown hphase hok
    next => cases hs

theorem not_effective {pair : Nat × Nat} (happlied : appliedPair s.dir = some pair)
    (harmed : isBootFlagArmed s.dir = false) : ¬ s.Effective gpuKey pair := by
  rintro (⟨-, hnot⟩ | hflag)
  · exact hnot happlied
  · have := hflag.armed
    rw [harmed] at this
    cases this

/-- A cursor that passes an unanswered reset loses it. -/
theorem CursorInv.loses (h : CursorInv gpuKey s) (hs : s.step gpuKey e = some s')
    (hbad : s.Absorbs e ∧ s.Unanswered ∨ e = .commit .watcher ∧ s.LeftToCanary) :
    ∃ x ∈ s.pending, x ∉ s'.pending ∧ ¬ s'.Effective gpuKey x.pair := by
  have habsorbed : s'.pending = s.passing s.logged → s'.dir = s.dir → s.Unanswered →
      ∃ x ∈ s.pending, x ∉ s'.pending ∧ ¬ s'.Effective gpuKey x.pair := by
    rintro hpending hdir ⟨x, hx, happlied, harmed⟩
    refine ⟨x, hx, ?_, not_effective (hdir ▸ happlied) (hdir ▸ harmed)⟩
    rw [hpending, mem_passing]
    have := (h.tracked x hx).index
    omega
  rcases hbad with ⟨habsorbs, hun⟩ | ⟨rfl, x, hx, hindex, happlied, harmed, -⟩
  · cases e with
    | spawn seen =>
      obtain ⟨-, hs⟩ := Option.ite_none_right_eq_some.mp hs
      obtain rfl := Option.some.inj hs
      obtain ⟨newest, hnewest⟩ := Option.isSome_iff_exists.mp habsorbs
      obtain rfl := newest_eq_some hnewest
      exact habsorbed (by simp [SentinelState.spawned, hnewest]) rfl hun
    | cooled layer seen =>
      cases layer with
      | canary => exact habsorbs.elim
      | watcher =>
        simp only [SentinelState.step] at hs
        split at hs
        next =>
          obtain ⟨-, hs⟩ := Option.ite_none_right_eq_some.mp hs
          obtain rfl := Option.some.inj hs
          obtain ⟨newest, hnewest⟩ := Option.isSome_iff_exists.mp habsorbs
          obtain rfl := newest_eq_some hnewest
          unfold SentinelState.cooledDown at habsorbed ⊢
          rw [hnewest] at habsorbed ⊢
          exact habsorbed rfl rfl hun
        next => cases hs
    | poll =>
      simp only [SentinelState.step] at hs
      split at hs
      next =>
        obtain ⟨-, hs⟩ := Option.ite_none_right_eq_some.mp hs
        obtain rfl := Option.some.inj hs
        have hpolled : s.polled = s.advance s.logged := if_pos habsorbs
        rw [hpolled] at habsorbed ⊢
        exact habsorbed rfl rfl hun
      next => cases hs
    | reconcile seen bugcheck timestamp source record ledger applied =>
      obtain ⟨-, hs⟩ := Option.ite_none_right_eq_some.mp hs
      obtain rfl := Option.some.inj hs
      obtain ⟨hseen, hbaseline, rfl⟩ := habsorbs
      obtain ⟨newest, hnewest⟩ := Option.isSome_iff_exists.mp hseen
      obtain rfl := newest_eq_some hnewest
      rcases reconciled_cases gpuKey s seen false timestamp source record ledger applied with
        ⟨_, _, -, hcrash, -⟩ | ⟨-, heq⟩
      · simp [newTdr, hbaseline] at hcrash
      · rw [heq] at habsorbed ⊢
        exact habsorbed (by simp [hnewest]) rfl hun
    | _ => exact habsorbs.elim
  · simp only [SentinelState.step] at hs
    split at hs
    next outcome hphase =>
      obtain rfl := Option.some.inj hs
      refine ⟨x, hx, fun hmem => ?_, not_effective happlied harmed⟩
      have hlt : s.taken < x.index := (mem_passing.mp hmem).2
      omega
    next => cases hs

end SentinelState

open Runs

theorem sentinel_cursorInv {gpuKey : String} {l : List SentinelEvent} {s : SentinelState}
    (h : ((sentinelMachine gpuKey).guarded SentinelState.Attended).Run l s) :
    s.CursorInv gpuKey := by
  refine h.invariant ?_ ?_
  · rintro s ⟨hkilled, hpending, hbaseline⟩
    rw [hkilled]
    refine ⟨Nat.zero_le _, hbaseline, ⟨by simp [SentinelState.killed], fun _ _ => rfl⟩,
      by simp [SentinelState.killed], ?_⟩
    simp [SentinelState.killed, hpending]
  · intro s e s' hinv hstep
    obtain ⟨hok, hs⟩ := hstep
    exact (hinv.step hok hs).1

/-- In every run whose steps are attended, no exposed reset is consumed without effect; and a
cursor step of the sentinel that is not attended consumes one. -/
theorem sentinel_loses_no_attended_tdr (gpuKey : String) :
    (∀ l s e s', ((sentinelMachine gpuKey).guarded SentinelState.Attended).Run l s →
      ((sentinelMachine gpuKey).guarded SentinelState.Attended).step s e s' →
      ∀ x ∈ s.pending, x ∉ s'.pending → s'.Effective gpuKey x.pair) ∧
    ∀ l s e s', ((sentinelMachine gpuKey).guarded SentinelState.Attended).Run l s →
      (sentinelMachine gpuKey).step s e s' →
      (s.Absorbs e ∧ s.Unanswered ∨ e = .commit .watcher ∧ s.LeftToCanary) →
      ∃ x ∈ s.pending, x ∉ s'.pending ∧ ¬ s'.Effective gpuKey x.pair := by
  constructor
  · intro l s e s' hrun hstep
    obtain ⟨hok, hs⟩ := hstep
    exact ((sentinel_cursorInv hrun).step hok hs).2
  · intro l s e s' hrun hs hbad
    exact (sentinel_cursorInv hrun).loses hs hbad

def LayerPhase.isIdle : LayerPhase → Bool
  | .idle => true
  | _ => false

theorem LayerPhase.eq_idle_of_isIdle {phase : LayerPhase} (h : phase.isIdle = true) :
    phase = .idle := by
  cases phase with
  | idle => rfl
  | _ => cases h

/-- Enough for a step to be attended: with nothing pending all but a reset are, the reset comes to
idle layers with no flag armed, and the watcher alone handles it. -/
def SentinelState.attends (s : SentinelState) (e : SentinelEvent) : Bool :=
  match e with
  | .tdr => !isBootFlagArmed s.dir && (s.layer .watcher).isIdle && (s.layer .canary).isIdle
  | .poll => decide (s.startFloor ≤ s.newestAt)
  | .decide .watcher _ | .claim .watcher | .persist .watcher _ .done .done
  | .stock .watcher _ _ ⟨.done, .done, .done⟩ .done
  | .fallback .watcher _ .done .done | .fallbackReturns .watcher _ _ .done .done => true
  | .commit .watcher => (s.layer .canary).isIdle
  | _ => s.pending.isEmpty

theorem SentinelState.attended_of_nothing_pending {s : SentinelState} {e : SentinelEvent}
    (hpending : s.pending = []) (hquiet : e ≠ .tdr) : s.Attended e where
  files hne := absurd hpending hne
  absorbs := by
    rintro - ⟨x, hx, -⟩
    simp [hpending] at hx
  commit := by
    rintro - ⟨x, hx, -⟩
    simp [hpending] at hx
  undisturbed := by
    cases e with
    | tdr => exact absurd rfl hquiet
    | forge active => cases active <;> simp [Undisturbed, hpending]
    | _ => simp [Undisturbed, hpending]

theorem SentinelState.attended_of_attends {s : SentinelState} {e : SentinelEvent}
    (h : s.attends e = true) : s.Attended e := by
  have hidle {layer : SentinelLayer} (hlayer : (s.layer layer).isIdle = true) :
      s.layer layer = .idle := LayerPhase.eq_idle_of_isIdle hlayer
  unfold attends at h
  split at h
  next =>
    simp only [Bool.and_eq_true, Bool.not_eq_true'] at h
    obtain ⟨⟨harmed, hwatcher⟩, hcanary⟩ := h
    refine ⟨by simp [SentinelEvent.files], False.elim, by simp, fun pair _ => ⟨?_, ?_⟩⟩
    · intro hflag
      exact absurd (harmed.symm.trans hflag) Bool.false_ne_true
    · intro layer stage failure hphase
      cases layer with
      | watcher => cases (hidle hwatcher).symm.trans hphase
      | canary => cases (hidle hcanary).symm.trans hphase
  next =>
    refine ⟨by simp [SentinelEvent.files], fun hold => ?_, by simp, trivial⟩
    exact absurd (of_decide_eq_true h) (Nat.not_le.mpr hold)
  next => exact ⟨by simp [SentinelEvent.files], False.elim, by simp, trivial⟩
  next => exact ⟨by simp [SentinelEvent.files], False.elim, by simp, trivial⟩
  next => exact ⟨by simp [SentinelEvent.files], False.elim, by simp, trivial⟩
  next => exact ⟨by simp [SentinelEvent.files], False.elim, by simp, trivial⟩
  next => exact ⟨by simp [SentinelEvent.files], False.elim, by simp, trivial⟩
  next => exact ⟨by simp [SentinelEvent.files], False.elim, by simp, trivial⟩
  next =>
    refine ⟨by simp [SentinelEvent.files], False.elim, fun _ => ?_, trivial⟩
    rintro ⟨x, -, -, -, -, stage, failure, hphase, -⟩
    cases (hidle h).symm.trans hphase
  next hquiet _ _ _ _ _ _ _ _ =>
    exact attended_of_nothing_pending (List.isEmpty_iff.mp h) hquiet

/-- A reset comes after the survival window of the apply, and the watcher bumps the pair. -/
def tdrAfterWindow : List SentinelEvent :=
  [.recover .unknown {} false, .reconcile true false "" "" .done .done .done,
    .reapply .done "" .done, .spawn true,
    .apply ⟨"Godforge", some ⟨1815, 843⟩, none, none, some ⟨1815, 843⟩⟩ "" .done, .save .done,
    .tick 8, .timer 1008 .done, .tdr, .poll, .decide .watcher [(0, 843, 1500), (1, 850, 1500)],
    .claim .watcher, .persist .watcher "" .done .done, .stock .watcher none none {} .done,
    .fallback .watcher "" .done .done, .fallbackReturns .watcher true none .done .done]

/-- The commit that consumes it leaves the pair condemned and replaced. -/
theorem sentinel_answers_tdr_after_window : ∃ (s s' : SentinelState) (x : ExposedTdr),
    ((sentinelMachine "gpu-a").guarded SentinelState.Attended).Run tdrAfterWindow s ∧
      x ∈ s.pending ∧ x ∉ s'.pending ∧ x.pair = (1815, 843) ∧ s'.Effective "gpu-a" x.pair := by
  have hrun : ∃ s, tdrAfterWindow.foldlM (fun s e => if s.attends e then s.step "gpu-a" e else none)
      freshService = some s ∧ s.pending = [⟨1, 1008, (1815, 843)⟩] ∧
      s.attends (.commit .watcher) = true ∧ ∃ s', s.step "gpu-a" (.commit .watcher) = some s' ∧
        s'.pending = [] := ⟨_, rfl, rfl, rfl, _, rfl, rfl⟩
  obtain ⟨s, hs, hpending, hattends, s', hs', hpending'⟩ := hrun
  have hinit : ((sentinelMachine "gpu-a").guarded SentinelState.Attended).init freshService :=
    freshService_init "gpu-a"
  have hguarded : ((sentinelMachine "gpu-a").guarded SentinelState.Attended).Run tdrAfterWindow
      s := by
    refine .of_foldlM (fun s e s' hstep => ?_) hinit hs
    obtain ⟨hattends, hstep⟩ := Option.ite_none_right_eq_some.mp hstep
    exact ⟨SentinelState.attended_of_attends hattends, hstep⟩
  have hmem : ⟨1, 1008, (1815, 843)⟩ ∈ s.pending := by simp [hpending]
  have hgone : ⟨1, 1008, (1815, 843)⟩ ∉ s'.pending := by simp [hpending']
  exact ⟨s, s', _, hguarded, hmem, hgone, rfl, (sentinel_loses_no_attended_tdr "gpu-a").1 _ s _ s'
    hguarded ⟨SentinelState.attended_of_attends hattends, hs'⟩ _ hmem hgone⟩

/-- A profile is applied, and a driver reset falls into its armed window; another one comes twelve
seconds after the window, while the watcher still cools down from the first. -/
def tdrInWindowAndCooldown : List SentinelEvent :=
  [.recover .unknown {} false, .reconcile true false "" "" .done .done .done,
    .reapply .done "" .done, .spawn true,
    .apply ⟨"Godforge", some ⟨1815, 843⟩, none, none, some ⟨1815, 843⟩⟩ "" .done, .save .done,
    .tick 3, .tdr, .poll, .decide .watcher [], .commit .watcher, .tick 5, .timer 1008 .done,
    .tick 12, .tdr, .tick 50]

theorem sentinel_loses_tdr_in_cooldown :
    ¬ ∀ gpuKey l s e s', (sentinelMachine gpuKey).Run l s → (sentinelMachine gpuKey).step s e s' →
      ∀ x ∈ s.pending, x ∉ s'.pending → s'.Effective gpuKey x.pair := by
  intro h
  have hrun : ∃ s, tdrInWindowAndCooldown.foldlM (SentinelState.step "gpu-a") freshService =
      some s ∧ s.pending = [⟨2, 1020, (1815, 843)⟩] ∧ ∃ s',
        s.step "gpu-a" (.cooled .watcher true) = some s' ∧ s'.pending = [] ∧
        appliedPair s'.dir = some (1815, 843) ∧ isBootFlagArmed s'.dir = false :=
    ⟨_, rfl, rfl, _, rfl, rfl, rfl, rfl⟩
  obtain ⟨s, hs, hpending, s', hs', hpending', happlied, harmed⟩ := hrun
  have heff := h "gpu-a" _ s _ s'
    (.of_foldlM (fun _ _ _ hstep => hstep) (freshService_init "gpu-a") hs) hs'
    ⟨2, 1020, (1815, 843)⟩ (by simp [hpending]) (by simp [hpending'])
  exact SentinelState.not_effective happlied harmed heff

end Nidavellir

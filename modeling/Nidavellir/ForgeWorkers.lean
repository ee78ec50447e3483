import Nidavellir.ForgeHandle

namespace Nidavellir

open Runs

variable {Point : Type}

/-- The worker's thread exists. -/
def Launch.alive : Launch Point → Bool
  | .working _ | .leaving _ _ _ => true
  | _ => false

/-- The start has passed its swap of `running` and the worker's thread has not ended. -/
def Launch.inProgress : Launch Point → Bool
  | .starting _ => true
  | launch => launch.alive

/-- The launch has not yet given `FORGE_ACTIVE` back. -/
def Launch.ownsForgeActive : Launch Point → Prop
  | .working _ => True
  | .leaving _ _ rest => .forgeActive false ∈ rest
  | _ => False

def Launch.ownsSlot : Launch Point → Prop
  | .working _ => True
  | .leaving _ _ rest => .activeForgeStop false ∈ rest
  | _ => False

namespace ForgeState

variable {s s' : ForgeState Point}

def SingleWorker (s : ForgeState Point) : Prop :=
  ∀ i j, (s.launches i).alive → (s.launches j).alive → i = j

/-- A worker that was asked to stop finds its stop flag set when it loads it. -/
def RequestsVisible (s : ForgeState Point) : Prop :=
  ∀ id worker, s.launches id = .working worker → worker.requested → s.flags.stop

/-- Until a worker gives them back, `FORGE_ACTIVE` is set and the slot refers to its flags. -/
def Interlocked (s : ForgeState Point) : Prop :=
  ∀ id, ((s.launches id).ownsForgeActive → s.flags.forgeActive) ∧
    ((s.launches id).ownsSlot → s.flags.activeForgeStop)

/-- A start passes its swap of `running` only while no other launch is in progress. -/
def StartsAlone (s : ForgeState Point) : ForgeAction Point → Prop
  | .launch _ (.start false) => s.flags.running = false → ∀ id, ¬ (s.launches id).inProgress
  | _ => True

end ForgeState

/-- The invariant of one launch. A start will have claimed both flags once its stores are made. -/
def Launch.Consistent (flags : ForgeFlags) : Launch Point → Prop
  | .starting rest => (rest.foldl ForgeFlags.after flags).forgeActive ∧
      (rest.foldl ForgeFlags.after flags).activeForgeStop
  | .working worker => flags.forgeActive ∧ flags.activeForgeStop ∧
      (worker.requested → flags.stop)
  | .leaving _ _ rest => rest.Nodup ∧ (.forgeActive false ∈ rest → flags.forgeActive) ∧
      (.activeForgeStop false ∈ rest → flags.activeForgeStop)
  | _ => True

structure ForgeState.Disciplined (s : ForgeState Point) : Prop where
  one : ∀ i j, (s.launches i).inProgress → (s.launches j).inProgress → i = j
  consistent : ∀ id, (s.launches id).Consistent s.flags

theorem Launch.inProgress_of_alive {launch : Launch Point} (h : launch.alive) :
    launch.inProgress := by
  cases launch <;> first | exact h | cases h

theorem Launch.Consistent.of_not_inProgress {launch : Launch Point} {flags : ForgeFlags}
    (h : ¬ launch.inProgress) : launch.Consistent flags := by
  cases launch with
  | ready => trivial
  | gone => trivial
  | starting rest => exact absurd rfl h
  | working worker => exact absurd rfl h
  | leaving worker ended rest => exact absurd rfl h

/-- The two flag states agree on `FORGE_ACTIVE` and on the slot. -/
def ForgeFlags.SameInterlock (flags flags' : ForgeFlags) : Prop :=
  flags'.forgeActive = flags.forgeActive ∧ flags'.activeForgeStop = flags.activeForgeStop

theorem ForgeFlags.SameInterlock.foldl {flags flags' : ForgeFlags}
    (h : flags.SameInterlock flags') (stores : List FlagStore) :
    (stores.foldl ForgeFlags.after flags).SameInterlock
      (stores.foldl ForgeFlags.after flags') := by
  induction stores generalizing flags flags' with
  | nil => exact h
  | cons store stores ih =>
    apply ih
    obtain ⟨hactive, hslot⟩ := h
    cases store with
    | running value => exact ⟨hactive, hslot⟩
    | manualStop value => exact ⟨hactive, hslot⟩
    | stop value => exact ⟨hactive, hslot⟩
    | forgeActive value => exact ⟨rfl, hslot⟩
    | activeForgeStop registered => exact ⟨hactive, rfl⟩

theorem ForgeCall.stores_cases {c : ForgeCall} {store : FlagStore} (h : store ∈ c.stores) :
    (∃ value, store = .manualStop value) ∨ store = .stop true ∨ store = .running false := by
  cases c with
  | stop =>
    simp only [ForgeCall.stores, List.mem_cons, List.not_mem_nil, or_false] at h
    rcases h with rfl | rfl
    · exact .inl ⟨true, rfl⟩
    · exact .inr (.inl rfl)
  | abort | requestActiveForgeStop =>
    simp only [ForgeCall.stores, List.mem_cons, List.not_mem_nil, or_false] at h
    rcases h with rfl | rfl
    · exact .inl ⟨false, rfl⟩
    · exact .inr (.inl rfl)
  | recoverAfterReset | forgetAfterFullReset =>
    simp only [ForgeCall.stores, List.mem_cons, List.not_mem_nil, or_false] at h
    rcases h with rfl | rfl | rfl
    · exact .inl ⟨false, rfl⟩
    · exact .inr (.inl rfl)
    · exact .inr (.inr rfl)

theorem ForgeFlags.after_call {c : ForgeCall} {store : FlagStore} (h : store ∈ c.stores)
    (flags : ForgeFlags) : flags.SameInterlock (flags.after store) ∧
      (flags.stop → (flags.after store).stop) := by
  rcases ForgeCall.stores_cases h with ⟨value, rfl⟩ | rfl | rfl
  · exact ⟨⟨rfl, rfl⟩, id⟩
  · exact ⟨⟨rfl, rfl⟩, fun _ => rfl⟩
  · exact ⟨⟨rfl, rfl⟩, id⟩

theorem Launch.inProgress_notify (launch : Launch Point) (stops cancels : Bool) :
    (launch.notify stops cancels).inProgress = launch.inProgress := by
  cases launch <;> rfl

/-- A step of a call leaves every launch as it should be. -/
theorem Launch.Consistent.call {launch : Launch Point} {flags flags' : ForgeFlags}
    (h : launch.Consistent flags) (hsame : flags.SameInterlock flags') {stops cancels : Bool}
    (hstop : (flags.stop ∨ stops) → flags'.stop) :
    (launch.notify stops cancels).Consistent flags' := by
  cases launch with
  | ready => trivial
  | gone => trivial
  | starting rest =>
    obtain ⟨hactive, hslot⟩ := hsame.foldl rest
    exact ⟨hactive.trans h.1, hslot.trans h.2⟩
  | working worker =>
    refine ⟨hsame.1.trans h.1, hsame.2.trans h.2.1, fun hr => ?_⟩
    exact hstop ((Bool.or_eq_true_iff.mp hr).imp_left h.2.2)
  | leaving worker ended rest =>
    exact ⟨h.1, fun hm => hsame.1.trans (h.2.1 hm), fun hm => hsame.2.trans (h.2.2 hm)⟩

/-- A launch's own step keeps it as it should be. -/
theorem Launch.Moves.consistent {launch launch' : Launch Point} {flags flags' : ForgeFlags}
    {a : LaunchAction Point} (hm : launch.Moves flags a flags' launch')
    (h : launch.Consistent flags) : launch'.Consistent flags' := by
  cases hm with
  | refuse hrefused => trivial
  | claim hrunning => exact ⟨rfl, rfl⟩
  | startStore => exact h
  | spawn => exact ⟨h.1, h.2, fun hr => by cases hr⟩
  | poll hstage => exact h
  | loadManualStop hstage => exact h
  | loadStop hstage => exact h
  | finish hended => exact ⟨by decide, fun _ => h.1, fun _ => h.2.1⟩
  | @tailStore worker ended store rest =>
    obtain ⟨hnodup, hactive, hslot⟩ := h
    obtain ⟨hnew, hnodup⟩ := List.nodup_cons.mp hnodup
    refine ⟨hnodup, fun hmem => ?_, fun hmem => ?_⟩
    · have hflag := hactive (List.mem_cons_of_mem _ hmem)
      cases store with
      | forgeActive value =>
        cases value with
        | true => rfl
        | false => exact absurd hmem hnew
      | running value => exact hflag
      | manualStop value => exact hflag
      | stop value => exact hflag
      | activeForgeStop registered => exact hflag
    · have hflag := hslot (List.mem_cons_of_mem _ hmem)
      cases store with
      | activeForgeStop registered =>
        cases registered with
        | true => rfl
        | false => exact absurd hmem hnew
      | running value => exact hflag
      | manualStop value => exact hflag
      | stop value => exact hflag
      | forgeActive value => exact hflag
  | leave => trivial

theorem Launch.Moves.inProgress {launch launch' : Launch Point} {flags flags' : ForgeFlags}
    {a : LaunchAction Point} (hm : launch.Moves flags a flags' launch')
    (h : launch'.inProgress) : launch.inProgress ∨ a = .start false ∧ flags.running = false := by
  cases hm with
  | refuse hrefused => cases h
  | claim hrunning => exact .inr ⟨rfl, hrunning⟩
  | leave => exact .inl rfl
  | startStore => exact .inl rfl
  | spawn => exact .inl rfl
  | poll hstage => exact .inl rfl
  | loadManualStop hstage => exact .inl rfl
  | loadStop hstage => exact .inl rfl
  | finish hended => exact .inl rfl
  | tailStore => exact .inl rfl

/-- A start that is not refused and finds `running` unset is in progress. -/
theorem Launch.Moves.claimed {launch launch' : Launch Point} {flags flags' : ForgeFlags}
    (hm : launch.Moves flags (.start false) flags' launch') (h : flags.running = false) :
    ¬ launch.inProgress ∧ launch'.inProgress := by
  cases hm with
  | refuse hrefused => simp [h] at hrefused
  | claim hrunning => exact ⟨(by intro hp; cases hp), rfl⟩

/-- Only a launch in progress stores. -/
theorem Launch.Moves.flags_or_inProgress {launch launch' : Launch Point}
    {flags flags' : ForgeFlags} {a : LaunchAction Point}
    (hm : launch.Moves flags a flags' launch') :
    flags' = flags ∨ launch.inProgress ∨ launch'.inProgress := by
  cases hm with
  | claim hrunning => exact .inr (.inr rfl)
  | startStore => exact .inr (.inl rfl)
  | tailStore => exact .inr (.inl rfl)
  | _ => exact .inl rfl

/-- With an empty slot no worker is up, so a request that finds it empty misses none. -/
theorem Launch.Consistent.notify {launch : Launch Point} {flags : ForgeFlags}
    (h : launch.Consistent flags) (hslot : flags.activeForgeStop = false) (stops cancels : Bool) :
    (launch.notify stops cancels).Consistent flags := by
  cases launch with
  | working worker => exact absurd h.2.1 (by simp [hslot])
  | ready => trivial
  | gone => trivial
  | starting rest => exact h
  | leaving worker ended rest => exact h

namespace ForgeState

variable {s s' : ForgeState Point} {a : ForgeAction Point}

theorem Disciplined.of_notify {flags : ForgeFlags} {stops cancels : Bool} (h : s.Disciplined)
    (hflags : s'.flags = flags)
    (hlaunches : s'.launches = fun id => (s.launches id).notify stops cancels)
    (hconsistent : ∀ id, ((s.launches id).notify stops cancels).Consistent flags) :
    s'.Disciplined := by
  refine ⟨?_, ?_⟩
  · intro i j hi hj
    simp only [hlaunches, Launch.inProgress_notify] at hi hj
    exact h.one i j hi hj
  · intro id
    rw [hflags, hlaunches]
    exact hconsistent id

theorem Disciplined.launch {id : Nat} {la : LaunchAction Point} {flags : ForgeFlags}
    {launch : Launch Point} (h : s.Disciplined) (hok : s.StartsAlone (.launch id la))
    (hm : (s.launches id).Moves s.flags la flags launch) :
    Disciplined { s with flags, launches := Function.update s.launches id launch } := by
  -- an idle launch moves only by a refusal or by a claim, and a claim finds no other
  have hothers : (s.launches id).inProgress ∨ launch.inProgress →
      ∀ j, j ≠ id → ¬ (s.launches j).inProgress := by
    intro hp j hj hpj
    have halone : (s.launches id).inProgress ∨ ∀ j, ¬ (s.launches j).inProgress := by
      rcases hp with hp | hp
      · exact .inl hp
      · rcases hm.inProgress hp with hp | ⟨rfl, hrunning⟩
        · exact .inl hp
        · exact .inr (hok hrunning)
    rcases halone with hp | hnone
    · exact hj (h.one j id hpj hp)
    · exact hnone j hpj
  refine ⟨?_, ?_⟩
  · intro i j hi hj
    by_cases hid : i = id
    · subst hid
      by_cases hjd : j = i
      · exact hjd.symm
      · have hnew : launch.inProgress := by simpa using hi
        have hold : (s.launches j).inProgress := by simpa [hjd] using hj
        exact absurd hold (hothers (.inr hnew) j hjd)
    · have hold : (s.launches i).inProgress := by simpa [hid] using hi
      by_cases hjd : j = id
      · have hnew : launch.inProgress := by simpa [hjd] using hj
        exact absurd hold (hothers (.inr hnew) i hid)
      · have hold' : (s.launches j).inProgress := by simpa [hjd] using hj
        exact h.one i j hold hold'
  · intro j
    by_cases hjd : j = id
    · subst hjd
      simpa using hm.consistent (h.consistent j)
    · have hsame : Function.update s.launches id launch j = s.launches j := by simp [hjd]
      show (Function.update s.launches id launch j).Consistent flags
      rw [hsame]
      rcases hm.flags_or_inProgress with hflags | hp
      · rw [hflags]
        exact h.consistent j
      · exact .of_not_inProgress (hothers hp j hjd)

theorem Disciplined.step (h : s.Disciplined) (hok : s.StartsAlone a) (hs : s.step a = some s') :
    s'.Disciplined := by
  cases a with
  | launch id la =>
    obtain ⟨flags, launch, hm, rfl⟩ := step_launch hs
    exact h.launch hok hm
  | call id c =>
    obtain ⟨hflags, ⟨-, hsame⟩ | ⟨-, hslot, hlaunches⟩⟩ := step_call hs
    · exact ⟨by rw [hsame]; exact h.one, by rw [hsame, hflags]; exact h.consistent⟩
    · exact h.of_notify hflags hlaunches fun i => (h.consistent i).notify hslot true true
  | callStep id =>
    obtain ⟨c, made, -, ⟨store, hstore, hflags, hlaunches⟩ | ⟨-, hflags, hsame⟩⟩ :=
      step_callStep hs
    · obtain ⟨hinterlock, hkept⟩ := ForgeFlags.after_call (List.mem_of_getElem? hstore) s.flags
      refine h.of_notify hflags hlaunches fun i => (h.consistent i).call hinterlock ?_
      rintro (hstop | hstops)
      · exact hkept hstop
      · obtain rfl := eq_of_beq hstops
        rfl
    · exact ⟨by rw [hsame]; exact h.one, by rw [hsame, hflags]; exact h.consistent⟩

theorem Disciplined.singleWorker (h : s.Disciplined) : s.SingleWorker := by
  intro i j hi hj
  exact h.one i j (Launch.inProgress_of_alive hi) (Launch.inProgress_of_alive hj)

theorem Disciplined.requestsVisible (h : s.Disciplined) : s.RequestsVisible := by
  intro id worker hworker hrequested
  have hconsistent := h.consistent id
  rw [hworker] at hconsistent
  exact hconsistent.2.2 hrequested

theorem Disciplined.interlocked (h : s.Disciplined) : s.Interlocked := by
  intro id
  have hconsistent := h.consistent id
  cases hl : s.launches id with
  | working worker =>
    rw [hl] at hconsistent
    exact ⟨fun _ => hconsistent.1, fun _ => hconsistent.2.1⟩
  | leaving worker ended rest =>
    rw [hl] at hconsistent
    exact ⟨hconsistent.2.1, hconsistent.2.2⟩
  | ready => exact ⟨False.elim, False.elim⟩
  | starting rest => exact ⟨False.elim, False.elim⟩
  | gone => exact ⟨False.elim, False.elim⟩

end ForgeState

theorem forge_disciplined {l : List (ForgeAction Point)} {s : ForgeState Point}
    (h : ((forgeMachine Point).guarded ForgeState.StartsAlone).Run l s) : s.Disciplined := by
  refine h.invariant ?_ ?_
  · rintro s rfl
    exact ⟨fun i j hi => (by cases hi), fun id => trivial⟩
  · intro s a s' hs hnext
    obtain ⟨hok, hstep⟩ := hnext
    exact hs.step hok hstep

namespace ForgeState

variable {s s' : ForgeState Point} {a : ForgeAction Point}

/-- Whoever holds the mutex of the slot is still in its call. -/
def HolderUp (s : ForgeState Point) : Prop :=
  ∀ id, s.slotHolder = some id → ∃ c made, s.callers id = .storing c made

theorem HolderUp.step (h : s.HolderUp) (hs : s.step a = some s') : s'.HolderUp := by
  cases a with
  | launch id la =>
    obtain ⟨flags, launch, -, rfl⟩ := step_launch hs
    exact h
  | call id c =>
    have hs : s.call id c = some s' := hs
    unfold call at hs
    split at hs
    next => cases hs
    next hready =>
      have hready : s.callers id = .ready := not_not.mp hready
      have hother : ∀ holder, s.slotHolder = some holder → holder ≠ id := by
        rintro holder hholder rfl
        obtain ⟨c, made, hstoring⟩ := h holder hholder
        cases hready.symm.trans hstoring
      split at hs
      next =>
        cases hs
        intro holder hholder
        simpa [setCaller, hother holder hholder] using h holder hholder
      next =>
        split at hs
        next => cases hs
        next =>
          split at hs
          next =>
            cases hs
            intro holder hholder
            obtain rfl := Option.some.inj hholder
            exact ⟨c, 0, by simp [setCaller]⟩
          next =>
            cases hs
            intro holder hholder
            simpa [notify, setCaller, hother holder hholder] using h holder hholder
  | callStep id =>
    have hs : s.callStep id = some s' := hs
    unfold callStep at hs
    split at hs
    next c made hstoring =>
      split at hs
      next =>
        cases hs
        intro holder hholder
        by_cases hid : holder = id
        · exact ⟨c, made + 1, by simp [notify, setCaller, hid]⟩
        · simpa [notify, setCaller, hid] using h holder hholder
      next =>
        cases hs
        intro holder hholder
        have hne : s.slotHolder ≠ some id := by
          intro hheld
          simp [hheld] at hholder
        have hheld : s.slotHolder = some holder := by simpa [hne] using hholder
        have hid : holder ≠ id := by
          rintro rfl
          exact hne hheld
        simpa [setCaller, hid] using h holder hheld
    next => cases hs

theorem holderUp {l : List (ForgeAction Point)} (h : (forgeMachine Point).Run l s) :
    s.HolderUp := by
  refine h.invariant ?_ ?_
  · rintro s rfl id hid
    cases hid
  · intro s a s' hs hstep
    exact hs.step hstep

/-- The steps of callers leave every launch where it is. -/
def SameLaunches (s s' : ForgeState Point) : Prop :=
  ∀ id, (∀ rest, s.launches id = .starting rest → s'.launches id = .starting rest) ∧
    ((s.launches id).alive → (s'.launches id).alive)

theorem SameLaunches.refl : s.SameLaunches s := fun _ => ⟨fun _ => id, id⟩

theorem SameLaunches.trans {s'' : ForgeState Point} (h : s.SameLaunches s')
    (h' : s'.SameLaunches s'') : s.SameLaunches s'' := by
  intro id
  exact ⟨fun rest hrest => (h' id).1 rest ((h id).1 rest hrest),
    fun halive => (h' id).2 ((h id).2 halive)⟩

theorem sameLaunches_notify {stops cancels : Bool}
    (h : s'.launches = fun id => (s.launches id).notify stops cancels) : s.SameLaunches s' := by
  intro id
  have hid : s'.launches id = (s.launches id).notify stops cancels := by rw [h]
  rw [hid]
  cases hl : s.launches id with
  | working worker => exact ⟨fun _ hrest => (by cases hrest), fun _ => rfl⟩
  | leaving worker ended rest => exact ⟨fun _ hrest => (by cases hrest), fun _ => rfl⟩
  | starting rest => exact ⟨fun _ hrest => hrest, fun halive => halive⟩
  | ready => exact ⟨fun _ hrest => (by cases hrest), fun halive => halive⟩
  | gone => exact ⟨fun _ hrest => (by cases hrest), fun halive => halive⟩

theorem SameLaunches.inProgress {id : Nat} (h : s.SameLaunches s')
    (hp : (s.launches id).inProgress) : (s'.launches id).inProgress := by
  have halive := (h id).2
  cases hl : s.launches id with
  | starting rest =>
    rw [(h id).1 rest hl]
    rfl
  | working worker => exact Launch.inProgress_of_alive (halive (by rw [hl]; rfl))
  | leaving worker ended rest => exact Launch.inProgress_of_alive (halive (by rw [hl]; rfl))
  | ready => simp [hl, Launch.inProgress, Launch.alive] at hp
  | gone => simp [hl, Launch.inProgress, Launch.alive] at hp

/-- The holder of the slot's mutex can make its last stores and return. -/
theorem leads_released (h : s.HolderUp) :
    ∃ s', Leads step s s' ∧ s'.slotHolder = none ∧ s.SameLaunches s' := by
  cases hholder : s.slotHolder with
  | none => exact ⟨s, .refl, hholder, .refl⟩
  | some holder =>
    obtain ⟨c, made, hstoring⟩ := h holder hholder
    generalize hleft : c.stores.length - made = left
    induction left generalizing s made with
    | zero =>
      have hdone : c.stores[made]? = none := List.getElem?_eq_none (by omega)
      let s₁ : ForgeState Point := { s.setCaller holder .gone with slotHolder := none }
      have hs₁ : s.step (.callStep holder) = some s₁ := by
        simp [step, callStep, hstoring, hdone, hholder, s₁]
      exact ⟨s₁, .head hs₁ .refl, rfl, .refl⟩
    | succ left ih =>
      have hlt : made < c.stores.length := by omega
      have hstore : c.stores[made]? = some c.stores[made] := List.getElem?_eq_getElem hlt
      let s₁ : ForgeState Point :=
        ({ s with flags := s.flags.after c.stores[made] }.setCaller holder
          (.storing c (made + 1))).notify (c.stores[made] == FlagStore.stop true) c.cancels
      have hs₁ : s.step (.callStep holder) = some s₁ := by
        simp [step, callStep, hstoring, hstore, s₁]
      have hnext : s₁.callers holder = .storing c (made + 1) := by
        simp [s₁, notify, setCaller]
      obtain ⟨s₂, hleads, hnone, hsame⟩ := ih (h.step hs₁) hholder (made + 1) hnext (by omega)
      have hfirst : s.SameLaunches s₁ := sameLaunches_notify rfl
      exact ⟨s₂, .head hs₁ hleads, hnone, hfirst.trans hsame⟩

/-- With the slot free, a start can go on to its spawn, whatever the others do. -/
theorem leads_spawned {id : Nat} {rest : List FlagStore} (hfree : s.slotHolder = none)
    (hstarting : s.launches id = .starting rest) :
    ∃ s', Leads step s s' ∧ s'.slotHolder = none ∧ (s'.launches id).alive ∧
      ∀ j, j ≠ id → s'.launches j = s.launches j := by
  induction rest generalizing s with
  | nil =>
    let s₁ : ForgeState Point := { s with
      launches := Function.update s.launches id (.working {}) }
    have hs₁ : s.step (.launch id .go) = some s₁ := by
      simp [step, hstarting, Launch.step, s₁]
    refine ⟨s₁, .head hs₁ .refl, hfree, by simp [s₁, Launch.alive], ?_⟩
    intro j hj
    simp [s₁, hj]
  | cons store rest ih =>
    let s₁ : ForgeState Point := { s with
      flags := s.flags.after store
      launches := Function.update s.launches id (.starting rest) }
    have hs₁ : s.step (.launch id .go) = some s₁ := by
      simp [step, hstarting, Launch.step, hfree, s₁]
    have hnext : s₁.launches id = .starting rest := by simp [s₁]
    obtain ⟨s₂, hleads, hnone, halive, hothers⟩ := ih (s := s₁) hfree hnext
    refine ⟨s₂, .head hs₁ hleads, hnone, halive, ?_⟩
    intro j hj
    rw [hothers j hj]
    simp [s₁, hj]

theorem leads_alive {id : Nat} (hfree : s.slotHolder = none)
    (hp : (s.launches id).inProgress) :
    ∃ s', Leads step s s' ∧ s'.slotHolder = none ∧ (s'.launches id).alive ∧
      ∀ j, j ≠ id → s'.launches j = s.launches j := by
  cases hl : s.launches id with
  | starting rest => exact leads_spawned hfree hl
  | working worker => exact ⟨s, .refl, hfree, by rw [hl]; rfl, fun _ _ => rfl⟩
  | leaving worker ended rest => exact ⟨s, .refl, hfree, by rw [hl]; rfl, fun _ _ => rfl⟩
  | ready => simp [hl, Launch.inProgress, Launch.alive] at hp
  | gone => simp [hl, Launch.inProgress, Launch.alive] at hp

/-- Two launches in progress can both get a worker up. -/
theorem leads_two_workers {i j : Nat} (h : s.HolderUp) (hij : i ≠ j)
    (hi : (s.launches i).inProgress) (hj : (s.launches j).inProgress) :
    ∃ s', Leads step s s' ∧ ¬ s'.SingleWorker := by
  obtain ⟨s₁, hl₁, hfree₁, hsame⟩ := leads_released h
  obtain ⟨s₂, hl₂, hfree₂, halive₂, hothers₂⟩ := leads_alive hfree₁ (hsame.inProgress hi)
  have hj₂ : (s₂.launches j).inProgress := by
    rw [hothers₂ j hij.symm]
    exact hsame.inProgress hj
  obtain ⟨s₃, hl₃, -, halive₃, hothers₃⟩ := leads_alive hfree₂ hj₂
  refine ⟨s₃, hl₁.trans (hl₂.trans hl₃), fun hsingle => ?_⟩
  have halive : (s₃.launches i).alive := by
    rw [hothers₃ i hij]
    exact halive₂
  exact hij (hsingle i j halive halive₃)

end ForgeState

/-- Every run whose starts pass their swap alone has one worker at most, which sees every stop
request and holds `FORGE_ACTIVE` and the slot; a start that passes it beside another launch can go
on to a second worker. -/
theorem forge_singleWorker_iff_startsAlone (Point : Type) :
    (∀ l s, ((forgeMachine Point).guarded ForgeState.StartsAlone).Run l s →
      s.SingleWorker ∧ s.RequestsVisible ∧ s.Interlocked) ∧
    ∀ l s a s', (forgeMachine Point).Run l s → s.step a = some s' → ¬ s.StartsAlone a →
      ∃ l' s'', (forgeMachine Point).Run (l ++ [a] ++ l') s'' ∧ ¬ s''.SingleWorker := by
  constructor
  · intro l s h
    have hdisciplined := forge_disciplined h
    exact ⟨hdisciplined.singleWorker, hdisciplined.requestsVisible, hdisciplined.interlocked⟩
  · intro l s a s' hrun hs hno
    have hrun' : (forgeMachine Point).Run (l ++ [a]) s' := hrun.next hs
    have hup := ForgeState.holderUp hrun'
    obtain ⟨id, rfl, hrunning, j, hj⟩ : ∃ id, a = .launch id (.start false) ∧
        s.flags.running = false ∧ ∃ j, (s.launches j).inProgress := by
      unfold ForgeState.StartsAlone at hno
      split at hno
      next id =>
        obtain ⟨hrunning, hno⟩ := Classical.not_imp.mp hno
        obtain ⟨j, hj⟩ := not_forall.mp hno
        exact ⟨id, rfl, hrunning, j, not_not.mp hj⟩
      next => exact absurd trivial hno
    obtain ⟨flags, launch, hm, rfl⟩ := ForgeState.step_launch hs
    obtain ⟨hready, hstarting⟩ := hm.claimed hrunning
    have hne : id ≠ j := by
      rintro rfl
      exact hready hj
    obtain ⟨s'', hleads, hbad⟩ := ForgeState.leads_two_workers hup hne
      (by simpa using hstarting) (by simpa [hne.symm] using hj)
    obtain ⟨l', hrun''⟩ := hleads.run hrun'
    exact ⟨l', s'', hrun'', hbad⟩

/-- A start with its four stores and the spawn. -/
def started (id : Nat) : List (ForgeAction Point) :=
  .launch id (.start false) :: List.replicate 5 (.launch id .go)

/-- `StartsAlone` tested over the first `n` launches. -/
def ForgeState.startsAloneBelow (n : Nat) (s : ForgeState Point) : ForgeAction Point → Bool
  | .launch _ (.start false) =>
    s.flags.running || (List.range n).all fun id => !(s.launches id).inProgress
  | _ => true

theorem ForgeState.startsAlone_of_below {n : Nat} {s : ForgeState Point}
    {a : ForgeAction Point} (hfresh : s.FreshFrom n) (h : s.startsAloneBelow n a) :
    s.StartsAlone a := by
  unfold ForgeState.startsAloneBelow at h
  split at h
  next =>
    intro hrunning id hp
    simp only [hrunning, Bool.false_or, List.all_eq_true, List.mem_range, Bool.not_eq_true'] at h
    by_cases hid : id < n
    · exact absurd hp (by simp [h id hid])
    · rw [hfresh id (Nat.not_lt.mp hid)] at hp
      cases hp
  next hother =>
    unfold ForgeState.StartsAlone
    split
    next id => exact (hother id rfl).elim
    next => trivial

/-- The first worker stores its tail and its thread ends before the second start; the operator then
stops the second worker. -/
def restartAfterExit : List (ForgeAction Unit) :=
  started 0 ++
  [.launch 0 (.poll false), .launch 0 (.finish (.refused {} false)), .launch 0 .go, .launch 0 .go,
    .launch 0 .go, .launch 0 .go] ++
  started 1 ++ [.call 0 .stop, .callStep 0, .callStep 0, .callStep 0]

theorem forge_restart_after_exit : ∃ s : ForgeState Unit,
    ((forgeMachine Unit).guarded ForgeState.StartsAlone).Run restartAfterExit s ∧
      s.launches 1 = .working ⟨.measuring, true, false⟩ ∧
      s.SingleWorker ∧ s.RequestsVisible ∧ s.Interlocked := by
  have hrun : ∃ s : ForgeState Unit, restartAfterExit.foldlM (fun s a =>
      if a.launchesBelow 2 && s.startsAloneBelow 2 a then s.step a else none) {} = some s ∧
      s.launches 1 = .working ⟨.measuring, true, false⟩ := ⟨_, rfl, rfl⟩
  obtain ⟨s, hs, hworking⟩ := hrun
  have hguarded : ((forgeMachine Unit).guarded ForgeState.StartsAlone).Run restartAfterExit s :=
    forge_guarded_of_foldlM (fun _ _ => ForgeState.startsAlone_of_below) hs
  exact ⟨s, hguarded, hworking, (forge_singleWorker_iff_startsAlone Unit).1 _ s hguarded⟩

def restartAfterRecovery : List (ForgeAction Unit) :=
  started 0 ++
  [.call 0 .abort, .callStep 0, .callStep 0, .callStep 0,
    .call 1 .recoverAfterReset, .callStep 1, .callStep 1, .callStep 1, .callStep 1] ++
  started 1

def restartInTail : List (ForgeAction Unit) :=
  started 0 ++ [.launch 0 (.finish (.refused {} false)), .launch 0 .go] ++ started 1 ++
  [.launch 0 .go, .launch 0 .go]

/-- Reset and start again before the old worker has polled: two workers, and the old one is no
longer asked to stop. Start while the old worker leaves: it takes the new one's interlock away. -/
theorem forge_two_workers_after_recovery :
    ¬ (∀ l s, (forgeMachine Unit).Run l s → s.SingleWorker) ∧
    ¬ (∀ l s, (forgeMachine Unit).Run l s → s.RequestsVisible) ∧
    ¬ ∀ l s, (forgeMachine Unit).Run l s → s.Interlocked := by
  have hrecovery : ∃ s, (forgeMachine Unit).Run restartAfterRecovery s ∧
      s.launches 0 = .working ⟨.measuring, true, true⟩ ∧ (s.launches 1).alive ∧
      s.flags.stop = false :=
    ⟨_, Machine.run_ofStep_iff.mpr rfl, rfl, rfl, rfl⟩
  obtain ⟨s, hrun, hold, hnew, hstop⟩ := hrecovery
  refine ⟨fun h => ?_, fun h => ?_, fun h => ?_⟩
  · have heq := h _ s hrun 0 1 (by rw [hold]; rfl) hnew
    cases heq
  · have hvisible := h _ s hrun 0 _ hold rfl
    rw [hstop] at hvisible
    cases hvisible
  · have htail : ∃ s, (forgeMachine Unit).Run restartInTail s ∧
        s.launches 1 = .working {} ∧ s.flags.forgeActive = false :=
      ⟨_, Machine.run_ofStep_iff.mpr rfl, rfl, rfl⟩
    obtain ⟨s, hrun, hworking, hactive⟩ := htail
    have hinterlocked := (h _ s hrun 1).1 (by rw [hworking]; trivial)
    rw [hactive] at hinterlocked
    cases hinterlocked

end Nidavellir

import Nidavellir.ForgeAll
import Nidavellir.MemSweep
import Nidavellir.RealSweep

namespace Nidavellir

/-- What is set on the card, and the intent of the armed boot flag. -/
structure CardTrack where
  mem : Int
  core : Int
  lock : Option Nat
  ceiling : Option VfPoint
  flag : Option TuningPoint

namespace CardTrack

def AtStock (t : CardTrack) : Prop :=
  t.mem = 0 ∧ t.core = 0 ∧ t.lock = none ∧ t.ceiling = none

/-- The intent names every setting that is not stock. -/
def NamedBy (t : CardTrack) (intent : TuningPoint) : Prop :=
  (t.mem ≠ 0 → intent.setting "gpu_mem_offset_mhz" = t.mem) ∧
    (t.core ≠ 0 → intent.setting "gpu_offset_mhz" = t.core) ∧
    (∀ v, t.lock = some v → intent.setting "gpu_voltage_mv" = v) ∧
    (∀ p, t.ceiling = some p → intent.setting "gpu_freq_mhz" = p.freqMhz ∧
      intent.setting "gpu_voltage_mv" = p.voltageMv)

/-- A write that fails changes nothing. -/
def after (t : CardTrack) : LegacyEvent → CardTrack
  | .resetAll true => { t with mem := 0, core := 0, lock := none, ceiling := none }
  | .armBootFlag intent _ true => { t with flag := some intent }
  | .clearBootFlag => { t with flag := none }
  | .setMemOffsetMhz offset true => { t with mem := offset }
  | .setCoreOffsetMhz offset true => { t with core := offset }
  | .lockCoreVoltageMv mv true => { t with lock := some mv }
  | .unlockCoreVoltage true => { t with lock := none }
  | .applyCore point true => { t with ceiling := some point }
  | .applyAndPersist _ core mem =>
    { t with
        ceiling := core.or t.ceiling
        mem := mem.getD t.mem
        flag := some (applyIntent core mem) }
  | _ => t

/-- A load runs at stock or under a flag that names what is set; the flag is cleared at stock. -/
def Allows (t : CardTrack) : LegacyEvent → Prop
  | .load => t.AtStock ∨ ∃ intent, t.flag = some intent ∧ t.NamedBy intent
  | .clearBootFlag => t.AtStock
  | _ => True

/-- Every event is allowed in the state that the earlier ones leave. -/
def Protected : CardTrack → List LegacyEvent → Prop
  | _, [] => True
  | t, e :: events => t.Allows e ∧ (t.after e).Protected events

def run (t : CardTrack) (events : List LegacyEvent) : CardTrack := events.foldl after t

variable {t : CardTrack} {xs ys : List LegacyEvent}

theorem protected_append : t.Protected (xs ++ ys) ↔ t.Protected xs ∧ (t.run xs).Protected ys := by
  induction xs generalizing t with
  | nil => simp [Protected, run]
  | cons e xs ih =>
    rw [List.cons_append, Protected, Protected, ih, and_assoc]
    rfl

def stock (flag : Option TuningPoint) : CardTrack := ⟨0, 0, none, none, flag⟩

theorem stock_atStock (flag : Option TuningPoint) : (stock flag).AtStock := ⟨rfl, rfl, rfl, rfl⟩

/-- A start does not know what is set on the card, so it loads at stock only behind a reset. -/
theorem protected_start {ok : Bool} {events : List LegacyEvent} :
    (∀ t : CardTrack, t.Protected (.resetAll ok :: .load :: events)) ↔
      ok = true ∧ ∀ flag, (stock flag).Protected events := by
  constructor
  · intro h
    cases ok with
    | false =>
      obtain ⟨-, hload, -⟩ := h ⟨50, 0, none, none, none⟩
      rcases hload with ⟨hmem, -⟩ | ⟨intent, hflag, -⟩
      · cases hmem
      · cases hflag
    | true =>
      refine ⟨rfl, fun flag => ?_⟩
      obtain ⟨-, -, hrest⟩ := h ⟨50, 0, none, none, flag⟩
      exact hrest
  · rintro ⟨rfl, h⟩ t
    exact ⟨trivial, .inl (stock_atStock _), h t.flag⟩

/-- The end of a sweep: the flag goes at stock. -/
theorem protected_end {ok : Bool} :
    t.Protected [.resetAll ok, .clearBootFlag] ↔ ok = true ∨ t.AtStock := by
  cases ok with
  | true => simp [Protected, Allows, after, AtStock]
  | false => simp [Protected, Allows, after]

/-- Without its flag the card allows no more. -/
def unarmed (t : CardTrack) : CardTrack := { t with flag := none }

theorem unarmed_after (e : LegacyEvent) :
    t.unarmed.after e = t.after e ∨ t.unarmed.after e = (t.after e).unarmed := by
  cases e with
  | resetAll ok => cases ok <;> exact .inr rfl
  | armBootFlag intent phase ok =>
    cases ok with
    | true => exact .inl rfl
    | false => exact .inr rfl
  | clearBootFlag => exact .inl rfl
  | setMemOffsetMhz offset ok => cases ok <;> exact .inr rfl
  | setCoreOffsetMhz offset ok => cases ok <;> exact .inr rfl
  | lockCoreVoltageMv mv ok => cases ok <;> exact .inr rfl
  | unlockCoreVoltage ok => cases ok <;> exact .inr rfl
  | applyCore point ok => cases ok <;> exact .inr rfl
  | load => exact .inr rfl
  | applyAndPersist label core mem => exact .inl rfl

theorem Allows.of_unarmed {e : LegacyEvent} (h : t.unarmed.Allows e) : t.Allows e := by
  cases e with
  | load =>
    rcases h with hstock | ⟨intent, hflag, -⟩
    · exact .inl hstock
    · cases hflag
  | _ => exact h

theorem Protected.of_unarmed (h : t.unarmed.Protected xs) : t.Protected xs := by
  induction xs generalizing t with
  | nil => exact trivial
  | cons e xs ih =>
    obtain ⟨hallowed, hrest⟩ := h
    refine ⟨hallowed.of_unarmed, ?_⟩
    rcases unarmed_after (t := t) e with heq | heq
    · rwa [heq] at hrest
    · rw [heq] at hrest
      exact ih hrest

theorem stock_loads {flag : Option TuningPoint} {events : List LegacyEvent} (n : Nat) :
    (stock flag).Protected (List.replicate n .load ++ events) ↔ (stock flag).Protected events := by
  induction n with
  | zero => rfl
  | succ n ih =>
    rw [List.replicate_succ, List.cons_append]
    exact (and_iff_right (.inl (stock_atStock flag))).trans ih

end CardTrack

open CardTrack

section Mem

open MemSweep

/-- The first step of the climb is not clean, and what it sets is armed before and reset behind. -/
def MemGuarded (a : MemSweepAnswers) : Prop :=
  a.ctx = .ok () → a.resetFirst = true ∧ ((a.climb step).stop = true ∨
    (a.climb step).set = false ∨
    ¬ (a.climb step).Passes ∧ (a.climb step).armed = true ∧ a.resetLast = true)

theorem memIntent_setting (offset : Int) :
    (memIntent offset).setting "gpu_mem_offset_mhz" = offset := by
  simp [memIntent, TuningPoint.fromAxes]

/-- The card behind an armed and set memory offset. -/
def memSet (offset : Int) : CardTrack := ⟨offset, 0, none, none, some (memIntent offset)⟩

theorem memSet_load (offset : Int) : (memSet offset).Allows .load := by
  refine .inr ⟨memIntent offset, rfl, fun _ => memIntent_setting offset, ?_, nofun, nofun⟩
  intro h
  exact absurd rfl h

theorem memSet_not_atStock : ¬ (memSet step).AtStock := by
  rintro ⟨hmem, -⟩
  cases hmem

theorem protected_loads {t : CardTrack} {a : ClimbAnswer} {events : List LegacyEvent}
    (hset : a.set = true) (hload : t.Allows .load) :
    t.Protected (a.loads ++ events) ↔ t.Protected events := by
  unfold ClimbAnswer.loads
  rw [if_pos hset]
  cases a.chase with
  | none => exact and_iff_right hload
  | some result => exact (and_iff_right hload).trans (and_iff_right hload)

/-- A set offset of the first step is loaded under its own flag, or under none. -/
theorem protected_firstStep {a : ClimbAnswer} {events : List LegacyEvent} (hset : a.set = true) :
    (∀ flag, (stock flag).Protected (climbEvents a step ++ events)) ↔
      a.armed = true ∧ (memSet step).Protected events := by
  unfold climbEvents
  rw [hset]
  constructor
  · intro h
    obtain ⟨-, -, hrest⟩ := h none
    cases harmed : a.armed with
    | true =>
      rw [harmed] at hrest
      exact ⟨rfl, (protected_loads hset (memSet_load step)).mp hrest⟩
    | false =>
      rw [harmed] at hrest
      unfold ClimbAnswer.loads at hrest
      rw [if_pos hset] at hrest
      rcases hrest.1 with ⟨hmem, -⟩ | ⟨intent, hflag, -⟩
      · cases hmem
      · cases hflag
  · rintro ⟨harmed, h⟩ flag
    rw [harmed]
    exact ⟨trivial, trivial, (protected_loads hset (memSet_load step)).mpr h⟩

theorem soaked_extends (a : MemSweepAnswers) :
    ∃ more, (soaked a).events = (climb a.climb step (climbStart a)).events ++ more := by
  unfold soaked
  simp only
  split
  · exact soakLoop_extends _ _ _
  · exact ⟨[], by simp⟩

theorem soaked_of_no_peak {a : MemSweepAnswers}
    (h : (climb a.climb step (climbStart a)).prog.peakOffsetMhz = 0) :
    soaked a = climb a.climb step (climbStart a) := by
  unfold soaked
  simp only [h]
  rw [if_neg (by simp)]

theorem memSweep_protected_iff (a : MemSweepAnswers) :
    (∀ t : CardTrack, t.Protected (runMemSweep a).events) ↔ MemGuarded a := by
  unfold MemGuarded
  cases hctx : a.ctx with
  | error e =>
    have hrun : runMemSweep a = {} := by
      unfold runMemSweep
      rw [hctx]
    rw [hrun]
    exact iff_of_true (fun _ => trivial) nofun
  | ok ctx =>
    have hstart : (climbStart a).events = [.resetAll a.resetFirst, .load] := rfl
    rw [(runMemSweep_soaked hctx).2.2]
    refine Iff.trans ?_ (forall_prop_of_true rfl).symm
    cases hstop : (a.climb step).stop with
    | true =>
      have hclimb := climb_stop (s := climbStart a) hstop
      rw [soaked_of_no_peak (by rw [hclimb]; rfl), hclimb, hstart]
      refine protected_start.trans (and_congr_right fun _ => ?_)
      exact iff_of_true (fun flag => protected_end.mpr (.inr (stock_atStock flag))) (.inl rfl)
    | false =>
      by_cases hpass : (a.climb step).Passes
      · obtain ⟨hon, -, hsound, -, hevents⟩ := climbStep_passes (s := climbStart a) step hpass rfl
        have hmore : ∃ more, (climb a.climb step (climbStart a)).events =
            (climbStep (a.climb step) step (climbStart a)).1.events ++ more := by
          rw [climb_goes_on hstop hon, if_neg (by decide)]
          exact climb_extends _ _ _ hsound
        obtain ⟨more, hmore⟩ := hmore
        obtain ⟨rest, hrest⟩ := soaked_extends a
        rw [hrest, hmore, hevents, hstart]
        simp only [List.append_assoc, List.cons_append, List.nil_append]
        refine protected_start.trans (and_congr_right fun _ => ?_)
        rw [protected_firstStep hpass.1]
        refine iff_of_false ?_ ?_
        · rintro ⟨-, hclear, -⟩
          exact memSet_not_atStock hclear
        · rintro (h | h | ⟨h, -⟩)
          · cases h
          · rw [hpass.1] at h
            cases h
          · exact h hpass
      · obtain ⟨hon, hat, -, -, hevents⟩ := climbStep_ends (s := climbStart a) step hpass rfl
        have hclimb := climb_ends (s := climbStart a) hstop hon
        rw [soaked_of_no_peak (by rw [hclimb, hat]; rfl), hclimb, hevents, hstart]
        simp only [List.cons_append, List.nil_append]
        refine protected_start.trans (and_congr_right fun _ => ?_)
        cases hset : (a.climb step).set with
        | false =>
          refine iff_of_true (fun flag => ?_) (.inr (.inl rfl))
          unfold climbEvents ClimbAnswer.loads
          rw [hset]
          refine ⟨trivial, trivial, protected_end.mpr (.inr ?_)⟩
          cases (a.climb step).armed <;> exact stock_atStock _
        | true =>
          rw [protected_firstStep hset, protected_end]
          constructor
          · rintro ⟨harmed, h⟩
            exact .inr (.inr ⟨hpass, harmed, h.resolve_right memSet_not_atStock⟩)
          · rintro (h | h | ⟨-, harmed, h⟩)
            · cases h
            · cases h
            · exact ⟨harmed, .inl h⟩

end Mem

section Forge

open ForgeAll

/-- The pipeline ends before the first load of the core stage. -/
def ForgeGuarded (a : ForgeAllAnswers) : Prop :=
  a.ctx = .ok () → a.resetFirst = true ∧ (caught a.vram ≠ .stable ∨ a.stopAfterVram = true ∨
    a.lock = false ∨ (a.core 0).stop = true)

theorem coreLoop_first {core : Int → CoreAnswer} {off : Int} (hgo : (core off).stop = false)
    (best : Nat) (events : List LegacyEvent) :
    ∃ more, (coreLoop core off best events).2 =
      events ++ .setCoreOffsetMhz off (core off).set :: .load :: more := by
  rw [coreLoop]
  simp only [hgo, Bool.false_eq_true, if_false]
  cases caught (core off).res with
  | stable =>
    simp only
    split
    · exact ⟨[], rfl⟩
    · obtain ⟨⟨more, hmore, -⟩, -⟩ := coreLoop_spec core (off + 15) (core off).clk
        (events ++ [.setCoreOffsetMhz off (core off).set, .load])
      rw [hmore, List.append_assoc]
      exact ⟨more, rfl⟩
  | crash =>
    simp only [List.append_assoc]
    exact ⟨_, rfl⟩
  | silentError => exact ⟨[], rfl⟩
  | unstable => exact ⟨[], rfl⟩

/-- The core stage locks the voltage and loads it without a flag. -/
theorem stock_coreStage {set : Bool} {events : List LegacyEvent} :
    ¬ (stock none).Protected (.lockCoreVoltageMv coreVoltageMv true :: .setCoreOffsetMhz 0 set ::
      .load :: events) := by
  rintro ⟨-, -, hload, -⟩
  cases set <;>
  · rcases hload with ⟨-, -, hlock, -⟩ | ⟨intent, hflag, -⟩
    · cases hlock
    · cases hflag

/-- Where nothing ends the pipeline before, its core stage starts with a load. -/
theorem runForgeAll_dwells {a : ForgeAllAnswers} (hctx : a.ctx = .ok ())
    (hvram : caught a.vram = .stable) (hstop : a.stopAfterVram = false) (hlock : a.lock = true)
    (hgo : (a.core 0).stop = false) :
    ∃ rest, (runForgeAll a).events = .resetAll a.resetFirst :: .load ::
      .lockCoreVoltageMv coreVoltageMv true :: .setCoreOffsetMhz 0 (a.core 0).set :: .load ::
        rest := by
  obtain ⟨more, hmore⟩ := coreLoop_first hgo 0
    ([.resetAll a.resetFirst, .load] ++ [.lockCoreVoltageMv coreVoltageMv true])
  have hlocked : ∀ e ∈ [LegacyEvent.resetAll a.resetFirst, .load] ++
      [.lockCoreVoltageMv coreVoltageMv true], persists e = false := by
    simp [persists]
  have hpersists := (coreLoop_spec a.core 0 0 _).1.none_persists hlocked
  have hgate : ¬ (!(caught a.vram).isStable) = true := by
    rw [hvram]
    decide
  unfold runForgeAll
  rw [hctx]
  simp only [if_neg hgate, hstop, hlock, Bool.false_eq_true, if_false, Bool.not_true]
  generalize coreLoop a.core 0 0 _ = found at hmore hpersists ⊢
  obtain ⟨best, events⟩ := found
  change events = _ at hmore
  cases best with
  | none =>
    change ∃ rest, events ++ _ = _
    rw [hmore]
    exact ⟨_, rfl⟩
  | some clk =>
    obtain ⟨⟨later, hlater⟩, -⟩ := forgePackage_spec a clk events hpersists
    change ∃ rest, (forgePackage a clk events).events = _
    rw [hlater, hmore]
    exact ⟨_, rfl⟩

theorem forgeAll_protected_iff (a : ForgeAllAnswers) :
    (∀ t : CardTrack, t.Protected (runForgeAll a).events) ↔ ForgeGuarded a := by
  by_cases hguarded : a.ctx = .ok () ∧ caught a.vram = .stable ∧ a.stopAfterVram = false ∧
      a.lock = true ∧ (a.core 0).stop = false
  · obtain ⟨hctx, hvram, hstop, hlock, hgo⟩ := hguarded
    obtain ⟨rest, hrest⟩ := runForgeAll_dwells hctx hvram hstop hlock hgo
    rw [hrest]
    refine iff_of_false (fun h => ?_) (fun h => ?_)
    · exact stock_coreStage ((protected_start.mp h).2 none)
    · have hends := (h hctx).2
      rw [hvram, hstop, hlock, hgo] at hends
      simp at hends
  · unfold ForgeGuarded runForgeAll
    cases hctx : a.ctx with
    | error e => exact iff_of_true (fun _ => ⟨trivial, trivial⟩) nofun
    | ok ctx =>
      refine Iff.trans ?_ (forall_prop_of_true rfl).symm
      simp only
      split
      next hgate =>
        have hvram : caught a.vram ≠ .stable := by
          simpa [StabilityResult.isStable] using hgate
        refine protected_start.trans (and_congr_right fun _ => ?_)
        exact iff_of_true (fun _ => ⟨trivial, trivial⟩) (.inl hvram)
      next hgate =>
        have hvram : caught a.vram = .stable := by
          simpa [StabilityResult.isStable] using hgate
        split
        next hstop =>
          refine protected_start.trans (and_congr_right fun _ => ?_)
          exact iff_of_true (fun _ => ⟨trivial, trivial⟩) (.inr (.inl hstop))
        next hstop =>
          cases hlock : a.lock with
          | false =>
            refine protected_start.trans (and_congr_right fun _ => ?_)
            exact iff_of_true (fun _ => ⟨trivial, trivial, trivial⟩) (.inr (.inr (.inl rfl)))
          | true =>
            have hcore : (a.core 0).stop = true := by
              by_contra hgo
              exact hguarded ⟨hctx, hvram, by simpa using hstop, hlock, by simpa using hgo⟩
            have hloop : ∀ events, coreLoop a.core 0 0 events = (none, events) := by
              intro events
              rw [coreLoop]
              simp only [hcore, if_true]
            simp only [hloop]
            refine protected_start.trans (and_congr_right fun _ => ?_)
            exact iff_of_true (fun _ => ⟨trivial, trivial, trivial⟩) (.inr (.inr (.inr hcore)))

end Forge

section Real

open RealSweep

/-- No load at any voltage is stable, each is armed, and stock comes back behind them. `locked` says
whether a voltage is held. -/
def VoltagesGuarded (volts : Nat → VoltAnswer) (resetMid : Bool) : List Nat → Nat → Bool → Prop
  | [], _, locked => locked = false ∨ resetMid = true
  | _ :: rest, vi, locked =>
    let a := volts vi
    let first := a.steps 0
    if a.stop ∨ a.lock = false then locked = false ∨ resetMid = true
    else if first.stop then resetMid = true
    else if first.set = false then VoltagesGuarded volts resetMid rest (vi + 1) true
    else first.armed = true ∧
      match caught first.res with
      | .stable => False
      | .silentError | .unstable => VoltagesGuarded volts resetMid rest (vi + 1) true
      | .crash =>
        if first.recovered then VoltagesGuarded volts resetMid rest (vi + 1) (!first.unlocked)
        else first.unlocked = true ∨ resetMid = true

def RealGuarded (q : Quality) (a : RealSweepAnswers) : Prop :=
  a.ctx = .ok () → a.resetFirst = true ∧
    (caught a.vram ≠ .stable ∨ VoltagesGuarded a.volts a.resetMid q.voltages 0 false)

/-- The card with a voltage held, or none. -/
def held (lock : Option Nat) (flag : Option TuningPoint) : CardTrack := ⟨0, 0, lock, none, flag⟩

theorem realIntent_setting (v : Nat) (offset : Int) :
    (realIntent v offset).setting "gpu_voltage_mv" = v := by
  simp [realIntent, TuningPoint.fromAxes]

theorem held_load {v : Nat} {flag : Option TuningPoint} : (held (some v) flag).Allows .load ↔
    ∃ intent, flag = some intent ∧ intent.setting "gpu_voltage_mv" = v := by
  constructor
  · rintro (⟨-, -, hlock, -⟩ | ⟨intent, hflag, -, -, hlock, -⟩)
    · cases hlock
    · exact ⟨intent, hflag, hlock v rfl⟩
  · rintro ⟨intent, hflag, hv⟩
    refine .inr ⟨intent, hflag, ?_, ?_, ?_, nofun⟩
    · intro h
      exact absurd rfl h
    · intro h
      exact absurd rfl h
    · rintro v' ⟨⟩
      exact hv

theorem held_end (lock : Option Nat) {flag : Option TuningPoint} {ok : Bool}
    {tail : List LegacyEvent} :
    (held lock flag).Protected (.resetAll ok :: .clearBootFlag :: tail) ↔
      (lock.isSome = false ∨ ok = true) ∧ (stock none).Protected tail := by
  cases ok with
  | true =>
    change True ∧ (stock flag).AtStock ∧ (stock none).Protected tail ↔ _
    simp [stock_atStock]
  | false =>
    change True ∧ (held lock flag).AtStock ∧ _ ↔ _
    cases lock with
    | none =>
      change True ∧ (stock flag).AtStock ∧ (stock none).Protected tail ↔ _
      simp [stock_atStock]
    | some v => simp [held, AtStock]

/-- The first load at a held voltage is named by its own intent or not at all. -/
theorem held_dwell {v : Nat} {flag : Option TuningPoint} {armed : Bool} {events : List LegacyEvent}
    (hflag : ∀ intent, flag = some intent → intent.setting "gpu_voltage_mv" ≠ v) :
    (held (some v) flag).Protected (.armBootFlag (realIntent v 0) "gpu_real_sweep" armed ::
        .setCoreOffsetMhz 0 true :: .load :: events) ↔
      armed = true ∧ (held (some v) (some (realIntent v 0))).Protected events := by
  cases armed with
  | true =>
    change True ∧ True ∧ (held (some v) (some (realIntent v 0))).Allows .load ∧
      (held (some v) (some (realIntent v 0))).Protected events ↔ _
    simp [held_load, realIntent_setting]
  | false =>
    change True ∧ True ∧ (held (some v) flag).Allows .load ∧ _ ↔ _
    rw [held_load]
    constructor
    · rintro ⟨-, -, ⟨intent, hnamed, hv⟩, -⟩
      exact absurd hv (hflag intent hnamed)
    · rintro ⟨h, -⟩
      cases h

theorem voltLoop_refused (q : Quality) (vi v : Nat) {steps : Nat → StepAnswer} (s : SweepState)
    (hstop : (steps 0).stop = false) (hset : (steps 0).set = false) :
    voltLoop q vi v steps 0 0 q.stepMhz q.step_pos none s = (.next none, s,
      [.armBootFlag (realIntent v 0) "gpu_real_sweep" (steps 0).armed,
        .setCoreOffsetMhz 0 false]) := by
  rw [voltLoop]
  simp [hstop, hset]

theorem voltLoop_stop (q : Quality) (vi v : Nat) {steps : Nat → StepAnswer} (s : SweepState)
    (hstop : (steps 0).stop = true) :
    voltLoop q vi v steps 0 0 q.stepMhz q.step_pos none s = (.out, s, []) := by
  rw [voltLoop]
  simp [hstop]

/-- What the first set step of a voltage leads to: a stable load clears the flag under the lock; any
other load ends the voltage. -/
def FirstStep (a : StepAnswer) (s s' : SweepState) (ending : VoltEnd) (more : List LegacyEvent) :
    Prop :=
  match caught a.res with
  | .stable => ∃ later, more = .clearBootFlag :: later
  | .silentError | .unstable =>
    ending = .next none ∧ more = [] ∧ s'.topCandidate = s.topCandidate
  | .crash => ending = (if a.recovered then .next none else .out) ∧
    more = [.setCoreOffsetMhz 0 a.setZero, .unlockCoreVoltage a.unlocked] ∧
      s'.topCandidate = s.topCandidate

theorem voltLoop_first (q : Quality) (vi v : Nat) {steps : Nat → StepAnswer} (s : SweepState)
    (hstop : (steps 0).stop = false) (hset : (steps 0).set = true) :
    ∃ ending s' more, voltLoop q vi v steps 0 0 q.stepMhz q.step_pos none s = (ending, s',
      .armBootFlag (realIntent v 0) "gpu_real_sweep" (steps 0).armed ::
        .setCoreOffsetMhz 0 true :: .load :: more) ∧ FirstStep (steps 0) s s' ending more := by
  unfold FirstStep
  rw [voltLoop]
  simp only [hstop, hset, Bool.false_eq_true, if_false, Bool.not_true]
  cases caught (steps 0).res with
  | stable =>
    simp only
    split
    · exact ⟨_, _, _, rfl, [], rfl⟩
    · exact ⟨_, _, _, rfl, _, rfl⟩
  | silentError => exact ⟨_, _, _, rfl, rfl, rfl, rfl⟩
  | unstable => exact ⟨_, _, _, rfl, rfl, rfl, rfl⟩
  | crash =>
    simp only
    split
    next hrecovered => exact ⟨_, _, _, rfl, rfl, rfl, rfl⟩
    next hrecovered => exact ⟨_, _, _, rfl, rfl, rfl, rfl⟩

section Held

variable {lock : Option Nat} {flag : Option TuningPoint} {events : List LegacyEvent}

theorem held_lock (v : Nat) : (held lock flag).Protected (.lockCoreVoltageMv v true :: events) ↔
    (held (some v) flag).Protected events := and_iff_right trivial

theorem held_refused_lock (v : Nat) :
    (held lock flag).Protected (.lockCoreVoltageMv v false :: events) ↔
      (held lock flag).Protected events := and_iff_right trivial

theorem held_zero (ok : Bool) : (held lock flag).Protected (.setCoreOffsetMhz 0 ok :: events) ↔
    (held lock flag).Protected events := by
  cases ok <;> exact and_iff_right trivial

theorem held_unlock (ok : Bool) : (held lock flag).Protected (.unlockCoreVoltage ok :: events) ↔
    (held (if ok then none else lock) flag).Protected events := by
  cases ok <;> exact and_iff_right trivial

theorem held_arm (v : Nat) (ok : Bool) :
    (held lock flag).Protected
        (.armBootFlag (realIntent v 0) "gpu_real_sweep" ok :: events) ↔
      (held lock (if ok then some (realIntent v 0) else flag)).Protected events := by
  cases ok <;> exact and_iff_right trivial

end Held

/-- No voltage of the list is named by the flag. -/
def Unnamed (flag : Option TuningPoint) (vs : List Nat) : Prop :=
  ∀ v ∈ vs, ∀ intent, flag = some intent → intent.setting "gpu_voltage_mv" ≠ v

theorem unnamed_intent {v : Nat} {vs : List Nat} (h : v ∉ vs) :
    Unnamed (some (realIntent v 0)) vs := by
  rintro v' hv' intent ⟨⟩
  rw [realIntent_setting]
  intro heq
  exact h (Int.ofNat_inj.mp heq ▸ hv')

theorem Unnamed.tail {flag : Option TuningPoint} {v : Nat} {vs : List Nat}
    (h : Unnamed flag (v :: vs)) : Unnamed flag vs :=
  fun v' hv' => h v' (List.mem_cons_of_mem _ hv')

/-- The state in which a voltage is climbed. -/
def entered (s : SweepState) (vi : Nat) : SweepState :=
  { s with prog := { s.prog with phase := .voltageBisection, freqIndex := vi } }

section Voltages

variable {q : Quality} {volts : Nat → VoltAnswer} {v vi : Nat} {s s' : SweepState}
  {events : List LegacyEvent}

theorem voltagesLoop_out (rest : List Nat) (hstop : (volts vi).stop = false)
    (hlock : (volts vi).lock = true)
    (h : voltLoop q vi v (volts vi).steps 0 0 q.stepMhz q.step_pos none (entered s vi) =
      (.out, s', events)) :
    voltagesLoop q volts (v :: rest) vi s = (s', .lockCoreVoltageMv v true :: events) := by
  unfold entered at h
  unfold voltagesLoop
  simp only [hstop, hlock, Bool.false_eq_true, if_false, Bool.not_true, h]

theorem voltagesLoop_next (rest : List Nat) {best : Option Nat} (hstop : (volts vi).stop = false)
    (hlock : (volts vi).lock = true)
    (h : voltLoop q vi v (volts vi).steps 0 0 q.stepMhz q.step_pos none (entered s vi) =
      (.next best, s', events)) :
    ∃ s'', s''.topCandidate = s'.topCandidate ∧
      voltagesLoop q volts (v :: rest) vi s = ((voltagesLoop q volts rest (vi + 1) s'').1,
        .lockCoreVoltageMv v true :: (events ++ .setCoreOffsetMhz 0 (volts vi).zeroAfter ::
          (voltagesLoop q volts rest (vi + 1) s'').2)) := by
  unfold entered at h
  rw [voltagesLoop]
  simp only [hstop, hlock, Bool.false_eq_true, if_false, Bool.not_true, h]
  exact ⟨{ s' with prog := { s'.prog with
    tradeoffs := s'.prog.tradeoffs ++ q.safePoint v best } }, rfl, rfl⟩

theorem voltages_protected_iff (q : Quality) (volts : Nat → VoltAnswer) (resetMid : Bool)
    (tail : List LegacyEvent) (vs : List Nat) (vi : Nat) (s : SweepState) (lock : Option Nat)
    (flag : Option TuningPoint) (hnodup : vs.Nodup) (hflag : Unnamed flag vs) :
    (held lock flag).Protected
        ((voltagesLoop q volts vs vi s).2 ++ .resetAll resetMid :: .clearBootFlag :: tail) ↔
      VoltagesGuarded volts resetMid vs vi lock.isSome ∧ (stock none).Protected tail := by
  induction vs generalizing vi s lock flag with
  | nil =>
    unfold voltagesLoop VoltagesGuarded
    exact held_end lock
  | cons v rest ih =>
    obtain ⟨hnotin, hrest⟩ := List.nodup_cons.mp hnodup
    have hv : ∀ intent, flag = some intent → intent.setting "gpu_voltage_mv" ≠ v :=
      hflag v List.mem_cons_self
    unfold VoltagesGuarded
    simp only
    cases hstop : (volts vi).stop with
    | true =>
      have hloop : voltagesLoop q volts (v :: rest) vi s = (s, []) := by
        unfold voltagesLoop
        simp only [hstop, if_true]
      rw [hloop, if_pos (.inl rfl)]
      exact held_end lock
    | false =>
      cases hlock : (volts vi).lock with
      | false =>
        have hloop : voltagesLoop q volts (v :: rest) vi s =
            (s, [.lockCoreVoltageMv v false]) := by
          unfold voltagesLoop
          simp only [hstop, hlock, Bool.false_eq_true, if_false, Bool.not_false, if_true]
        rw [hloop, if_pos (.inr rfl)]
        exact (held_refused_lock v).trans (held_end lock)
      | true =>
        rw [if_neg (by simp)]
        cases hgo : ((volts vi).steps 0).stop with
        | true =>
          rw [if_pos rfl,
            voltagesLoop_out rest hstop hlock (voltLoop_stop q vi v (entered s vi) hgo)]
          refine (held_lock v).trans ((held_end (some v)).trans ?_)
          simp
        | false =>
          rw [if_neg (by simp)]
          cases hset : ((volts vi).steps 0).set with
          | false =>
            obtain ⟨s'', -, hloop⟩ := voltagesLoop_next rest hstop hlock
              (voltLoop_refused q vi v (entered s vi) hgo hset)
            rw [hloop, if_pos rfl]
            simp only [List.cons_append, List.nil_append]
            rw [held_lock, held_arm, held_zero, held_zero]
            refine ih (vi + 1) s'' (some v) _ hrest ?_
            split
            · exact unnamed_intent hnotin
            · exact hflag.tail
          | true =>
            rw [if_neg (by simp)]
            obtain ⟨ending, s', more, hvolt, hfirst⟩ :=
              voltLoop_first q vi v (entered s vi) hgo hset
            have hquiet : ending = .next none → more = [] →
                ((held lock flag).Protected ((voltagesLoop q volts (v :: rest) vi s).2 ++
                  .resetAll resetMid :: .clearBootFlag :: tail) ↔
                (((volts vi).steps 0).armed = true ∧
                  VoltagesGuarded volts resetMid rest (vi + 1) true) ∧
                  (stock none).Protected tail) := by
              rintro rfl rfl
              obtain ⟨s'', -, hloop⟩ := voltagesLoop_next rest hstop hlock hvolt
              rw [hloop]
              simp only [List.cons_append, List.nil_append]
              rw [held_lock, held_dwell hv, held_zero,
                ih (vi + 1) s'' (some v) _ hrest (unnamed_intent hnotin), and_assoc]
              rfl
            unfold FirstStep at hfirst
            cases hres : caught ((volts vi).steps 0).res with
            | stable =>
              rw [hres] at hfirst
              obtain ⟨later, rfl⟩ := hfirst
              have hbegins : ∃ rest', (voltagesLoop q volts (v :: rest) vi s).2 =
                  .lockCoreVoltageMv v true ::
                    .armBootFlag (realIntent v 0) "gpu_real_sweep" ((volts vi).steps 0).armed ::
                      .setCoreOffsetMhz 0 true :: .load :: .clearBootFlag :: rest' := by
                cases ending with
                | out =>
                  rw [voltagesLoop_out rest hstop hlock hvolt]
                  exact ⟨later, rfl⟩
                | next best =>
                  obtain ⟨s'', -, hloop⟩ := voltagesLoop_next rest hstop hlock hvolt
                  rw [hloop]
                  exact ⟨_, rfl⟩
              obtain ⟨rest', hrest'⟩ := hbegins
              rw [hrest']
              simp only [List.cons_append]
              rw [held_lock, held_dwell hv]
              refine iff_of_false ?_ ?_
              · rintro ⟨-, ⟨-, -, hnone, -⟩, -⟩
                cases hnone
              · rintro ⟨⟨-, h⟩, -⟩
                exact h
            | silentError =>
              rw [hres] at hfirst
              exact hquiet hfirst.1 hfirst.2.1
            | unstable =>
              rw [hres] at hfirst
              exact hquiet hfirst.1 hfirst.2.1
            | crash =>
              rw [hres] at hfirst
              obtain ⟨rfl, rfl, -⟩ := hfirst
              cases hrecovered : ((volts vi).steps 0).recovered with
              | true =>
                rw [hrecovered] at hvolt
                obtain ⟨s'', -, hloop⟩ := voltagesLoop_next rest hstop hlock hvolt
                rw [hloop]
                simp only [List.cons_append, List.nil_append]
                rw [held_lock, held_dwell hv, held_zero, held_unlock, held_zero,
                  ih (vi + 1) s'' _ _ hrest (unnamed_intent hnotin), and_assoc]
                cases ((volts vi).steps 0).unlocked <;> rfl
              | false =>
                rw [hrecovered] at hvolt
                rw [voltagesLoop_out rest hstop hlock hvolt]
                simp only [List.cons_append, List.nil_append]
                rw [held_lock, held_dwell hv, held_zero, held_unlock, held_end, and_assoc]
                cases ((volts vi).steps 0).unlocked <;> simp

/-- A guarded climb leaves no candidate of the top voltage. -/
theorem guarded_no_candidate {resetMid : Bool} {vs : List Nat} {locked : Bool}
    (h : VoltagesGuarded volts resetMid vs vi locked) :
    (voltagesLoop q volts vs vi s).1.topCandidate = s.topCandidate := by
  induction vs generalizing vi s locked with
  | nil => rfl
  | cons v rest ih =>
    unfold VoltagesGuarded at h
    simp only at h
    cases hstop : (volts vi).stop with
    | true =>
      unfold voltagesLoop
      simp only [hstop, if_true]
    | false =>
      cases hlock : (volts vi).lock with
      | false =>
        unfold voltagesLoop
        simp only [hstop, hlock, Bool.false_eq_true, if_false, Bool.not_false, if_true]
      | true =>
        rw [if_neg (by simp [hstop, hlock])] at h
        cases hgo : ((volts vi).steps 0).stop with
        | true =>
          rw [voltagesLoop_out rest hstop hlock (voltLoop_stop q vi v (entered s vi) hgo)]
          rfl
        | false =>
          rw [hgo, if_neg (by simp)] at h
          cases hset : ((volts vi).steps 0).set with
          | false =>
            obtain ⟨s'', hs'', hloop⟩ := voltagesLoop_next rest hstop hlock
              (voltLoop_refused q vi v (entered s vi) hgo hset)
            rw [hset, if_pos rfl] at h
            rw [hloop, ih h, hs'']
            rfl
          | true =>
            rw [hset, if_neg (by simp)] at h
            replace h := h.2
            obtain ⟨ending, s', more, hvolt, hfirst⟩ :=
              voltLoop_first q vi v (entered s vi) hgo hset
            unfold FirstStep at hfirst
            cases hres : caught ((volts vi).steps 0).res with
            | stable =>
              rw [hres] at h
              exact h.elim
            | silentError =>
              rw [hres] at h hfirst
              obtain ⟨rfl, rfl, hkept⟩ := hfirst
              obtain ⟨s'', hs'', hloop⟩ := voltagesLoop_next rest hstop hlock hvolt
              rw [hloop, ih h, hs'', hkept]
              rfl
            | unstable =>
              rw [hres] at h hfirst
              obtain ⟨rfl, rfl, hkept⟩ := hfirst
              obtain ⟨s'', hs'', hloop⟩ := voltagesLoop_next rest hstop hlock hvolt
              rw [hloop, ih h, hs'', hkept]
              rfl
            | crash =>
              rw [hres] at h hfirst
              obtain ⟨rfl, rfl, hkept⟩ := hfirst
              cases hrecovered : ((volts vi).steps 0).recovered with
              | true =>
                rw [hrecovered] at h hvolt
                obtain ⟨s'', hs'', hloop⟩ := voltagesLoop_next rest hstop hlock hvolt
                rw [hloop, ih h, hs'', hkept]
                rfl
              | false =>
                rw [hrecovered] at hvolt
                rw [voltagesLoop_out rest hstop hlock hvolt, hkept]
                rfl

end Voltages

/-- Behind the warm-up the sweep climbs the voltages and validates. -/
theorem runRealSweep_climbs {q : Quality} {a : RealSweepAnswers} (hctx : a.ctx = .ok ())
    (hvram : caught a.vram = .stable) :
    ∃ s validated, s.topCandidate = none ∧
      (runRealSweep q a).2 = .resetAll a.resetFirst :: .load :: (List.replicate a.warmups .load ++
        ((voltagesLoop q a.volts q.voltages 0 s).2 ++ .resetAll a.resetMid :: .clearBootFlag ::
          (validated ++ [.resetAll a.resetLast, .clearBootFlag]))) ∧
      ((voltagesLoop q a.volts q.voltages 0 s).1.topCandidate = none → validated = []) := by
  have hgate : ¬ (!(caught a.vram).isStable) = true := by
    rw [hvram]
    decide
  let start : SweepState := { prog :=
    { phase := .baseline, totalFreqs := q.voltages.length } }
  have hevents : ∃ validated, (runRealSweep q a).2 = .resetAll a.resetFirst :: .load ::
      (List.replicate a.warmups .load ++ ((voltagesLoop q a.volts q.voltages 0 start).2 ++
        .resetAll a.resetMid :: .clearBootFlag ::
          (validated ++ [.resetAll a.resetLast, .clearBootFlag]))) ∧
      ((voltagesLoop q a.volts q.voltages 0 start).1.topCandidate = none → validated = []) := by
    unfold runRealSweep
    rw [hctx]
    simp only [if_neg hgate, start]
    generalize voltagesLoop q a.volts q.voltages 0 _ = climbed
    obtain ⟨s, events⟩ := climbed
    simp only
    split
    · exact ⟨[], by simp, fun _ => rfl⟩
    · cases hcandidate : s.topCandidate with
      | none => exact ⟨[], by simp, fun _ => rfl⟩
      | some candidate =>
        obtain ⟨v0, off0⟩ := candidate
        simp only [List.append_assoc, List.cons_append, List.nil_append]
        exact ⟨_, rfl, nofun⟩
  obtain ⟨validated, hrun, hnone⟩ := hevents
  exact ⟨start, validated, rfl, hrun, hnone⟩

theorem realSweep_protected_iff (q : Quality) (a : RealSweepAnswers) :
    (∀ t : CardTrack, t.Protected (runRealSweep q a).2) ↔ RealGuarded q a := by
  unfold RealGuarded
  cases hctx : a.ctx with
  | error e =>
    have hrun : (runRealSweep q a).2 = [] := by
      unfold runRealSweep
      rw [hctx]
    rw [hrun]
    exact iff_of_true (fun _ => trivial) nofun
  | ok ctx =>
    refine Iff.trans ?_ (forall_prop_of_true rfl).symm
    by_cases hvram : caught a.vram = .stable
    · obtain ⟨s, validated, hs, hrun, hnone⟩ := runRealSweep_climbs (q := q) hctx hvram
      have hclimb : (stock none).Protected ((voltagesLoop q a.volts q.voltages 0 s).2 ++
          .resetAll a.resetMid :: .clearBootFlag ::
            (validated ++ [.resetAll a.resetLast, .clearBootFlag])) ↔
          VoltagesGuarded a.volts a.resetMid q.voltages 0 false ∧
            (stock none).Protected (validated ++ [.resetAll a.resetLast, .clearBootFlag]) :=
        voltages_protected_iff q a.volts a.resetMid _ q.voltages 0 s none none q.distinct nofun
      rw [hrun]
      refine protected_start.trans (and_congr_right fun _ => ?_)
      simp only [stock_loads]
      constructor
      · intro h
        exact .inr (hclimb.mp (h none)).1
      · intro h flag
        have hguarded := h.resolve_left (absurd hvram)
        have hquiet := hnone ((guarded_no_candidate hguarded).trans hs)
        refine Protected.of_unarmed (hclimb.mpr ⟨hguarded, ?_⟩)
        rw [hquiet]
        exact protected_end.mpr (.inr (stock_atStock none))
    · have hgate : (!(caught a.vram).isStable) = true := by
        cases hres : caught a.vram with
        | stable => exact absurd hres hvram
        | _ => rfl
      unfold runRealSweep
      rw [hctx]
      simp only [if_pos hgate]
      refine protected_start.trans (and_congr_right fun _ => ?_)
      exact iff_of_true (fun _ => ⟨trivial, trivial⟩) (.inl hvram)

end Real

/-- A run of one of the sweeps. -/
inductive LegacyRun
  | forgeAll (a : ForgeAll.ForgeAllAnswers)
  | memSweep (a : MemSweep.MemSweepAnswers)
  | realSweep (q : RealSweep.Quality) (a : RealSweep.RealSweepAnswers)

namespace LegacyRun

def events : LegacyRun → List LegacyEvent
  | .forgeAll a => (ForgeAll.runForgeAll a).events
  | .memSweep a => (MemSweep.runMemSweep a).events
  | .realSweep q a => (RealSweep.runRealSweep q a).2

def Guarded : LegacyRun → Prop
  | .forgeAll a => ForgeGuarded a
  | .memSweep a => MemGuarded a
  | .realSweep q a => RealGuarded q a

end LegacyRun

theorem legacyRun_protected_iff (r : LegacyRun) :
    (∀ t : CardTrack, t.Protected r.events) ↔ r.Guarded := by
  cases r with
  | forgeAll a => exact forgeAll_protected_iff a
  | memSweep a => exact memSweep_protected_iff a
  | realSweep q a => exact realSweep_protected_iff q a

/-- The core stage of the pipeline loads under the voltage lock, and no flag is armed. -/
theorem forgeAll_loads_unarmed :
    ¬ (stock none).Protected (LegacyRun.forgeAll ForgeAll.brittleCard).events := by
  obtain ⟨rest, hrest⟩ := runForgeAll_dwells (a := ForgeAll.brittleCard) rfl rfl rfl rfl rfl
  intro h
  change (stock none).Protected (ForgeAll.runForgeAll ForgeAll.brittleCard).events at h
  rw [hrest] at h
  obtain ⟨-, -, hcore⟩ := h
  exact stock_coreStage hcore

end Nidavellir

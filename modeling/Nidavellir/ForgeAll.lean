import Nidavellir.GpuSweep

namespace Nidavellir

namespace ForgeAll

def coreVoltageMv : Nat := 900

structure CoreAnswer where
  stop : Bool
  set : Bool
  res : Option StabilityResult
  clk : Nat
  setZero : Bool

structure MemAnswer where
  stop : Bool
  set : Bool
  res : Option StabilityResult
  peak : ℚ
  minbw : ℚ
  integ : Option StabilityResult
  setZero : Bool

structure PackageAnswer where
  set : Bool
  res : Option StabilityResult
  setZero : Bool
  recovered : Bool
  applied : Bool

/-- What the pipeline meets. Each offset is tried once in its stage, and each attempt of the
package once. A load that panics answers `none`. -/
structure ForgeAllAnswers where
  ctx : Except String Unit
  resetFirst : Bool
  vram : Option StabilityResult
  stopAfterVram : Bool
  lock : Bool
  core : Int → CoreAnswer
  coreZero : Bool
  coreApplied : Bool
  mem : Int → MemAnswer
  memZero : Bool
  coreReapplied : Bool
  package : Nat → PackageAnswer
  resetFinish : Bool

/-- A soak of the package: the core point applied last, the memory offset, the result. -/
structure PackageSoak where
  core : Option VfPoint
  memOffsetMhz : Int
  result : StabilityResult
deriving DecidableEq

structure ForgeAllProgress where
  running : Bool := true
  phase : String := "starting"
  note : Option String := none

structure ForgeAllRun where
  progress : ForgeAllProgress := {}
  events : List LegacyEvent := []
  packages : List PackageSoak := []

/-- The clock of the last stable step, or `none` where a stop was seen. -/
def coreLoop (core : Int → CoreAnswer) (offset : Int) (bestClk : Nat)
    (events : List LegacyEvent) : Option Nat × List LegacyEvent :=
  let a := core offset
  if a.stop then (none, events)
  else
    let events := events ++ [.setCoreOffsetMhz offset a.set, .load]
    match caught a.res with
    | .stable =>
      if 300 < offset + 15 then (some a.clk, events)
      else coreLoop core (offset + 15) a.clk events
    | .crash => (some bestClk, events ++ [.setCoreOffsetMhz 0 a.setZero])
    | .silentError | .unstable => (some bestClk, events)
termination_by (300 - offset).toNat

/-- One offset of the memory stage: whether it held, and what was done. -/
def memStep (a : MemAnswer) (moff : Int) : Bool × List LegacyEvent :=
  let res := caught a.res
  let (peak, minbw) := if res = .crash then (0, 0) else (a.peak, a.minbw)
  let consistent := decide (0 < peak) && decide (95 / 100 ≤ minbw / peak)
  let integ := if res = .crash then .crash else caught a.integ
  let ok := res.isStable && integ.isStable && consistent
  let loads := if res = .crash then [.load] else [.load, .load, .load]
  let recovery := if !ok && res = .crash then [.setMemOffsetMhz 0 a.setZero] else []
  (ok, .setMemOffsetMhz moff a.set :: loads ++ recovery)

def memLoop (mem : Int → MemAnswer) (moff bestMem : Int) (events : List LegacyEvent) :
    Int × List LegacyEvent :=
  let a := mem moff
  if a.stop then (bestMem, events)
  else
    let (ok, done) := memStep a moff
    let events := events ++ done
    if ok then
      if 1500 < moff + 50 then (moff, events) else memLoop mem (moff + 50) moff events
    else (bestMem, events)
termination_by (1500 - moff).toNat

/-- The state of the package soaks: the core point applied last, and what was done. -/
structure PackageState where
  core : Option VfPoint
  events : List LegacyEvent
  packages : List PackageSoak

def packageStep (a : PackageAnswer) (corePoint : VfPoint) (memFinal : Int) (s : PackageState) :
    Bool × PackageState :=
  let res := caught a.res
  let s := { s with
    events := s.events ++ [.setMemOffsetMhz memFinal a.set, .load]
    packages := s.packages ++ [⟨s.core, memFinal, res⟩] }
  if res.isStable then (true, s)
  else if res = .crash then
    let s := { s with events := s.events ++ [.setMemOffsetMhz 0 a.setZero] }
    if a.recovered then
      (false,
        { s with core := some corePoint, events := s.events ++ [.applyCore corePoint a.applied] })
    else (false, s)
  else (false, s)

/-- The attempts at the package, 100 MHz of memory less each time. -/
def packageLoop (package : Nat → PackageAnswer) (corePoint : VfPoint) :
    List Nat → Int → PackageState → (Int × Bool) × PackageState
  | [], memFinal, s => ((memFinal, false), s)
  | attempt :: rest, memFinal, s =>
    let memFinal := if memFinal < 0 then 0 else memFinal
    match packageStep (package attempt) corePoint memFinal s with
    | (true, s) => ((memFinal, true), s)
    | (false, s) =>
      let memFinal := memFinal - 100
      if memFinal ≤ 0 ∧ 1 ≤ attempt then ((0, false), s)
      else packageLoop package corePoint rest memFinal s

/-- Stock, and the phase the pipeline ends in. -/
def finish (phase : String) (note : Option String) (resetFinish : Bool)
    (events : List LegacyEvent) : ForgeAllRun where
  progress := ⟨false, phase, note⟩
  events := events ++ [.resetAll resetFinish]

def applyIfAny (coreFreq : Nat) (applied : Bool) : List LegacyEvent :=
  if 0 < coreFreq then [.applyCore ⟨coreFreq, coreVoltageMv⟩ applied] else []

/-- The stages behind the core search: the core point is applied, the memory searched, the package
soaked and persisted. -/
def forgePackage (a : ForgeAllAnswers) (bestClk : Nat) (events : List LegacyEvent) : ForgeAllRun :=
  let events := events ++ [.setCoreOffsetMhz 0 a.coreZero]
  let coreFreq := bestClk - 45
  let corePoint : VfPoint := ⟨coreFreq, coreVoltageMv⟩
  let events := events ++ applyIfAny coreFreq a.coreApplied
  let (bestMem, events) := memLoop a.mem 50 0 events
  let events := events ++ [.setMemOffsetMhz 0 a.memZero] ++ applyIfAny coreFreq a.coreReapplied
  let coreOpt := if 0 < coreFreq then some corePoint else none
  let ((memFinal, soakOk), s) :=
    packageLoop a.package corePoint [0, 1, 2] bestMem ⟨coreOpt, events, []⟩
  let memOpt := if soakOk && decide (0 < memFinal) then some memFinal else none
  { progress :=
      { running := false
        phase := "done"
        note := some (if soakOk then
            "Forja completa e validada — aplicada e persistida. Confirme em jogo."
          else "Concluído com recuo — perfil conservador aplicado. Confirme em jogo.") }
    events := s.events ++ [.applyAndPersist "Forge All" coreOpt memOpt]
    packages := s.packages }

def runForgeAll (a : ForgeAllAnswers) : ForgeAllRun :=
  match a.ctx with
  | .error _ => finish "aborted" none a.resetFinish []
  | .ok () =>
    let events := [.resetAll a.resetFirst, .load]
    if !(caught a.vram).isStable then
      finish "aborted" (some "VRAM falhou no gate — não é seguro tunar.") a.resetFinish events
    else if a.stopAfterVram then finish "aborted" none a.resetFinish events
    else
      let events := events ++ [.lockCoreVoltageMv coreVoltageMv a.lock]
      if !a.lock then finish "aborted" none a.resetFinish events
      else
        match coreLoop a.core 0 0 events with
        | (none, events) => finish "aborted" none a.resetFinish events
        | (some bestClk, events) => forgePackage a bestClk events

/-- A stop is seen at the head of a step of the core stage. -/
inductive CoreStops (core : Int → CoreAnswer) : Int → Prop
  | here {off : Int} (h : (core off).stop = true) : CoreStops core off
  | later {off : Int} (go : (core off).stop = false) (h : caught (core off).res = .stable)
    (hcap : off + 15 ≤ 300) (later : CoreStops core (off + 15)) : CoreStops core off

/-- The core stage from `off`, with `best` behind it, ends at the clock `clk`. -/
inductive CoreFinds (core : Int → CoreAnswer) : Int → Nat → Nat → Prop
  | ends {off : Int} {best : Nat} (go : (core off).stop = false)
    (h : caught (core off).res ≠ .stable) : CoreFinds core off best best
  | top {off : Int} {best : Nat} (go : (core off).stop = false)
    (h : caught (core off).res = .stable) (hcap : 300 < off + 15) :
    CoreFinds core off best (core off).clk
  | next {off : Int} {best clk : Nat} (go : (core off).stop = false)
    (h : caught (core off).res = .stable) (hcap : off + 15 ≤ 300)
    (later : CoreFinds core (off + 15) (core off).clk clk) : CoreFinds core off best clk

/-- A check before the package stages ends the pipeline. -/
def Aborts (a : ForgeAllAnswers) : Prop :=
  a.ctx ≠ .ok () ∨ caught a.vram ≠ .stable ∨ a.stopAfterVram = true ∨ a.lock = false ∨
    CoreStops a.core 0

def persists : LegacyEvent → Bool
  | .applyAndPersist _ _ _ => true
  | _ => false

/-- Nothing was persisted, and the reset to stock came last. -/
def EndsAtStock (r : ForgeAllRun) : Prop :=
  r.progress.phase = "aborted" ∧ (∃ before ok, r.events = before ++ [.resetAll ok]) ∧
    ∀ e ∈ r.events, persists e = false

/-- One profile was persisted, last of all: the core that the clock `clk` gives, whether or not the
package held, and the memory offset at which the last soak of the package was stable. -/
def PersistsPackage (clk : Nat) (r : ForgeAllRun) : Prop :=
  r.progress.phase = "done" ∧ ∃ before core mem,
    r.events = before ++ [.applyAndPersist "Forge All" core mem] ∧
      (∀ e ∈ before, persists e = false) ∧
      core = (if 45 < clk then some ⟨clk - 45, coreVoltageMv⟩ else none) ∧
      (∀ m, mem = some m ↔ 0 < m ∧ ∃ soak, r.packages.getLast? = some soak ∧
        soak.memOffsetMhz = m ∧ soak.result = .stable) ∧
      ∀ p, core = some p → ∀ soak ∈ r.packages, soak.core = some p

section CoreStage

variable {core : Int → CoreAnswer} {off : Int} {best : Nat} {events : List LegacyEvent}

/-- Events with nothing persisted behind those of before. -/
def Writes (before after : List LegacyEvent) : Prop :=
  ∃ more, after = before ++ more ∧ ∀ e ∈ more, persists e = false

theorem Writes.refl : Writes events events := ⟨[], by simp, by simp⟩

theorem Writes.trans {e₁ e₂ e₃ : List LegacyEvent} (h : Writes e₁ e₂) (h' : Writes e₂ e₃) :
    Writes e₁ e₃ := by
  obtain ⟨more, rfl, hmore⟩ := h
  obtain ⟨more', rfl, hmore'⟩ := h'
  refine ⟨more ++ more', by simp, fun e he => ?_⟩
  rcases List.mem_append.mp he with he | he
  · exact hmore e he
  · exact hmore' e he

theorem Writes.append {more : List LegacyEvent} (h : ∀ e ∈ more, persists e = false) :
    Writes events (events ++ more) := ⟨more, rfl, h⟩

theorem Writes.none_persists {before : List LegacyEvent} (h : Writes before events)
    (hbefore : ∀ e ∈ before, persists e = false) : ∀ e ∈ events, persists e = false := by
  obtain ⟨more, rfl, hmore⟩ := h
  intro e he
  rcases List.mem_append.mp he with he | he
  · exact hbefore e he
  · exact hmore e he

theorem coreLoop_spec (core : Int → CoreAnswer) (off : Int) (best : Nat)
    (events : List LegacyEvent) :
    Writes events (coreLoop core off best events).2 ∧
      ((coreLoop core off best events).1 = none ∧ CoreStops core off ∨
        ∃ clk, (coreLoop core off best events).1 = some clk ∧ CoreFinds core off best clk ∧
          ¬ CoreStops core off) := by
  induction hn : (300 - off).toNat using Nat.strong_induction_on generalizing off best events with
  | _ n ih =>
    rw [coreLoop]
    simp only
    cases hstop : (core off).stop with
    | true => exact ⟨.refl, .inl ⟨rfl, .here hstop⟩⟩
    | false =>
      have hset : ∀ e ∈ [LegacyEvent.setCoreOffsetMhz off (core off).set, .load],
          persists e = false := by simp [persists]
      have hends : caught (core off).res ≠ .stable → ¬ CoreStops core off := by
        rintro hres (h | ⟨_, h, _, _⟩)
        · rw [hstop] at h
          cases h
        · exact hres h
      simp only [Bool.false_eq_true, if_false]
      cases hres : caught (core off).res with
      | stable =>
        by_cases hcap : 300 < off + 15
        · simp only [if_pos hcap]
          refine ⟨.append hset, .inr ⟨_, rfl, .top hstop hres hcap, ?_⟩⟩
          rintro (h | ⟨_, _, hroom, _⟩)
          · rw [hstop] at h
            cases h
          · omega
        · simp only [if_neg hcap]
          obtain ⟨hwrites, hend⟩ := ih _ (by omega) (off + 15) (core off).clk
            (events ++ [.setCoreOffsetMhz off (core off).set, .load]) rfl
          refine ⟨(Writes.append hset).trans hwrites, ?_⟩
          rcases hend with ⟨hnone, hstops⟩ | ⟨clk, hclk, hfinds, hgoes⟩
          · exact .inl ⟨hnone, .later hstop hres (by omega) hstops⟩
          · refine .inr ⟨clk, hclk, .next hstop hres (by omega) hfinds, ?_⟩
            rintro (h | ⟨_, _, _, hlater⟩)
            · rw [hstop] at h
              cases h
            · exact hgoes hlater
      | crash =>
        refine ⟨(Writes.append hset).trans (.append (by simp [persists])), .inr ⟨best, rfl, ?_, ?_⟩⟩
        · exact .ends hstop (by simp [hres])
        · exact hends (by simp [hres])
      | silentError =>
        exact ⟨.append hset, .inr ⟨best, rfl, .ends hstop (by simp [hres]), hends (by simp [hres])⟩⟩
      | unstable =>
        exact ⟨.append hset, .inr ⟨best, rfl, .ends hstop (by simp [hres]), hends (by simp [hres])⟩⟩

end CoreStage

section Package

variable {corePoint : VfPoint}

theorem memStep_writes (a : MemAnswer) (moff : Int) :
    ∀ e ∈ (memStep a moff).2, persists e = false := by
  unfold memStep
  by_cases hres : caught a.res = .crash <;> simp [hres, persists, StabilityResult.isStable]

theorem memLoop_writes (mem : Int → MemAnswer) (moff best : Int) (events : List LegacyEvent) :
    Writes events (memLoop mem moff best events).2 := by
  induction hn : (1500 - moff).toNat using Nat.strong_induction_on
    generalizing moff best events with
  | _ n ih =>
    have hwrites := memStep_writes (mem moff) moff
    rw [memLoop]
    cases hstop : (mem moff).stop with
    | true => exact .refl
    | false =>
      simp only [Bool.false_eq_true, if_false]
      cases hok : (memStep (mem moff) moff).1 with
      | false => exact .append hwrites
      | true =>
        simp only [if_true]
        by_cases hcap : 1500 < moff + 50
        · rw [if_pos hcap]
          exact .append hwrites
        · rw [if_neg hcap]
          exact (Writes.append hwrites).trans (ih _ (by omega) (moff + 50) moff _ rfl)

/-- What holds between the attempts at the package: none has passed, and all of them ran at the
core point. -/
structure PackageInv (coreOpt : Option VfPoint) (s : PackageState) : Prop where
  failed : ∀ soak, s.packages.getLast? = some soak → soak.result ≠ .stable
  core : ∀ p, coreOpt = some p → s.core = some p
  soaked : ∀ p, coreOpt = some p → ∀ soak ∈ s.packages, soak.core = some p

theorem packageStep_spec (a : PackageAnswer) (memFinal : Int) {s : PackageState}
    {coreOpt : Option VfPoint} (hinv : PackageInv coreOpt s)
    (hpoint : ∀ p, coreOpt = some p → p = corePoint) :
    Writes s.events (packageStep a corePoint memFinal s).2.events ∧
      (∀ p, coreOpt = some p → ∀ soak ∈ (packageStep a corePoint memFinal s).2.packages,
        soak.core = some p) ∧
      ((packageStep a corePoint memFinal s).1 = true →
        (packageStep a corePoint memFinal s).2.packages.getLast? =
          some ⟨s.core, memFinal, .stable⟩) ∧
      ((packageStep a corePoint memFinal s).1 = false →
        PackageInv coreOpt (packageStep a corePoint memFinal s).2) := by
  have hset : ∀ e ∈ [LegacyEvent.setMemOffsetMhz memFinal a.set, .load], persists e = false := by
    simp [persists]
  have hsoaked : ∀ p, coreOpt = some p → ∀ soak ∈ s.packages ++
      [(⟨s.core, memFinal, caught a.res⟩ : PackageSoak)], soak.core = some p := by
    intro p hp soak hsoak
    rcases List.mem_append.mp hsoak with hsoak | hsoak
    · exact hinv.soaked p hp soak hsoak
    · obtain rfl := List.mem_singleton.mp hsoak
      exact hinv.core p hp
  have hfailed : caught a.res ≠ .stable → ∀ soak, (s.packages ++
      [(⟨s.core, memFinal, caught a.res⟩ : PackageSoak)]).getLast? = some soak →
        soak.result ≠ .stable := by
    intro hres soak hsoak
    rw [List.getLast?_concat] at hsoak
    cases hsoak
    exact hres
  unfold packageStep
  simp only
  split
  next hstable =>
    have hres : caught a.res = .stable := by simpa [StabilityResult.isStable] using hstable
    rw [hres] at hsoaked ⊢
    exact ⟨.append hset, hsoaked, fun _ => List.getLast?_concat, nofun⟩
  next hstable =>
    have hres : caught a.res ≠ .stable := by simpa [StabilityResult.isStable] using hstable
    split
    next =>
      have hcleared : ∀ e ∈ [LegacyEvent.setMemOffsetMhz 0 a.setZero], persists e = false := by
        simp [persists]
      have hzero : Writes s.events (s.events ++ [.setMemOffsetMhz memFinal a.set, .load] ++
          [.setMemOffsetMhz 0 a.setZero]) := (Writes.append hset).trans (Writes.append hcleared)
      split
      next =>
        refine ⟨hzero.trans (.append (by simp [persists])), hsoaked, nofun, fun _ => ?_⟩
        exact ⟨hfailed hres, fun p hp => congrArg some (hpoint p hp).symm, hsoaked⟩
      next => exact ⟨hzero, hsoaked, nofun, fun _ => ⟨hfailed hres, hinv.core, hsoaked⟩⟩
    next =>
      exact ⟨.append hset, hsoaked, nofun, fun _ => ⟨hfailed hres, hinv.core, hsoaked⟩⟩

theorem packageLoop_spec (package : Nat → PackageAnswer) {coreOpt : Option VfPoint}
    (hpoint : ∀ p, coreOpt = some p → p = corePoint) (attempts : List Nat) (memFinal : Int)
    (s : PackageState) (hinv : PackageInv coreOpt s) :
    Writes s.events (packageLoop package corePoint attempts memFinal s).2.events ∧
      (∀ p, coreOpt = some p →
        ∀ soak ∈ (packageLoop package corePoint attempts memFinal s).2.packages,
          soak.core = some p) ∧
      ((packageLoop package corePoint attempts memFinal s).1.2 = true →
        ∃ core, (packageLoop package corePoint attempts memFinal s).2.packages.getLast? =
          some ⟨core, (packageLoop package corePoint attempts memFinal s).1.1, .stable⟩) ∧
      ((packageLoop package corePoint attempts memFinal s).1.2 = false →
        ∀ soak, (packageLoop package corePoint attempts memFinal s).2.packages.getLast? =
          some soak → soak.result ≠ .stable) := by
  induction attempts generalizing memFinal s with
  | nil => exact ⟨.refl, hinv.soaked, nofun, fun _ => hinv.failed⟩
  | cons attempt rest ih =>
    unfold packageLoop
    simp only
    generalize (if memFinal < 0 then 0 else memFinal) = memSoaked
    obtain ⟨hwrites, hsoaked, hpassed, hfailed⟩ :=
      packageStep_spec (package attempt) memSoaked hinv hpoint
    generalize packageStep (package attempt) corePoint memSoaked s = answer
      at hwrites hsoaked hpassed hfailed ⊢
    obtain ⟨go, s'⟩ := answer
    cases go with
    | true => exact ⟨hwrites, hsoaked, fun _ => ⟨_, hpassed rfl⟩, nofun⟩
    | false =>
      have hinv' := hfailed rfl
      simp only
      split
      next => exact ⟨hwrites, hsoaked, nofun, fun _ => hinv'.failed⟩
      next =>
        obtain ⟨hlater, hrest⟩ := ih _ s' hinv'
        exact ⟨hwrites.trans hlater, hrest⟩

end Package

theorem forgePackage_spec (a : ForgeAllAnswers) (clk : Nat) (events : List LegacyEvent)
    (hevents : ∀ e ∈ events, persists e = false) :
    (∃ more, (forgePackage a clk events).events = events ++ more) ∧
      PersistsPackage clk (forgePackage a clk events) := by
  have happlies : ∀ applied, ∀ e ∈ applyIfAny (clk - 45) applied, persists e = false := by
    intro applied e he
    unfold applyIfAny at he
    split at he
    · obtain rfl := List.mem_singleton.mp he
      rfl
    · cases he
  have hzero : ∀ ok, ∀ e ∈ [LegacyEvent.setCoreOffsetMhz 0 ok], persists e = false := by
    simp [persists]
  have hmemZero : ∀ ok, ∀ e ∈ [LegacyEvent.setMemOffsetMhz 0 ok], persists e = false := by
    simp [persists]
  have hcore : (if 0 < clk - 45 then some (⟨clk - 45, coreVoltageMv⟩ : VfPoint) else none) =
      if 45 < clk then some ⟨clk - 45, coreVoltageMv⟩ else none := by
    by_cases h : 45 < clk
    · rw [if_pos h, if_pos (by omega)]
    · rw [if_neg h, if_neg (by omega)]
  unfold forgePackage
  simp only [hcore]
  have hmem := memLoop_writes a.mem 50 0
    (events ++ [.setCoreOffsetMhz 0 a.coreZero] ++ applyIfAny (clk - 45) a.coreApplied)
  generalize memLoop a.mem 50 0
    (events ++ [.setCoreOffsetMhz 0 a.coreZero] ++ applyIfAny (clk - 45) a.coreApplied) = found
      at hmem ⊢
  obtain ⟨bestMem, searched⟩ := found
  have hsearched := ((((Writes.append (hzero _)).trans (Writes.append (happlies _))).trans
    hmem).trans (Writes.append (hmemZero a.memZero))).trans
      (Writes.append (happlies a.coreReapplied))
  have hpoint : ∀ p, (if 45 < clk then some (⟨clk - 45, coreVoltageMv⟩ : VfPoint) else none) =
      some p → p = ⟨clk - 45, coreVoltageMv⟩ := by
    intro p hp
    split at hp
    · exact (Option.some.inj hp).symm
    · cases hp
  obtain ⟨hwrites, hsoaked, hpassed, hfailed⟩ := packageLoop_spec a.package hpoint
    [0, 1, 2] bestMem
    ⟨if 45 < clk then some ⟨clk - 45, coreVoltageMv⟩ else none,
      searched ++ [.setMemOffsetMhz 0 a.memZero] ++ applyIfAny (clk - 45) a.coreReapplied, []⟩
    ⟨nofun, fun p hp => hp, nofun⟩
  generalize packageLoop a.package ⟨clk - 45, coreVoltageMv⟩ [0, 1, 2] bestMem _ = soaked
    at hwrites hsoaked hpassed hfailed ⊢
  obtain ⟨⟨memFinal, soakOk⟩, s⟩ := soaked
  have hbefore := hsearched.trans hwrites
  refine ⟨?_, rfl, s.events, _, _, rfl, hbefore.none_persists hevents, rfl, ?_, hsoaked⟩
  · obtain ⟨more, hmore, -⟩ := hbefore
    change s.events = events ++ more at hmore
    simp only [hmore, List.append_assoc]
    exact ⟨_, rfl⟩
  · intro m
    cases soakOk with
    | false =>
      constructor
      · intro h
        cases h
      · rintro ⟨-, soak, hsoak, -, hstable⟩
        exact absurd hstable (hfailed rfl soak hsoak)
    | true =>
      obtain ⟨core, hlast⟩ := hpassed rfl
      change s.packages.getLast? = some ⟨core, memFinal, .stable⟩ at hlast
      change (if decide (0 < memFinal) = true then some memFinal else none) = some m ↔
        0 < m ∧ ∃ soak, s.packages.getLast? = some soak ∧ _
      rw [hlast]
      by_cases hpos : 0 < memFinal
      · rw [if_pos (decide_eq_true hpos)]
        constructor
        · intro h
          obtain rfl := Option.some.inj h
          exact ⟨hpos, _, rfl, rfl, rfl⟩
        · rintro ⟨-, soak, hsoak, rfl, -⟩
          cases hsoak
          rfl
      · rw [if_neg (by simpa using hpos)]
        constructor
        · intro h
          cases h
        · rintro ⟨hm, soak, hsoak, rfl, -⟩
          cases hsoak
          exact absurd hm hpos

theorem finish_endsAtStock (note : Option String) (ok : Bool) {events : List LegacyEvent}
    (h : ∀ e ∈ events, persists e = false) : EndsAtStock (finish "aborted" note ok events) := by
  refine ⟨rfl, ⟨events, ok, rfl⟩, fun e he => ?_⟩
  rcases List.mem_append.mp he with he | he
  · exact h e he
  · obtain rfl := List.mem_singleton.mp he
    rfl

/-- The pipeline ends at stock with nothing persisted where a check before the package stages ends
it, and persists once, at its very end, otherwise. -/
theorem runForgeAll_persists (a : ForgeAllAnswers) :
    Aborts a ∧ EndsAtStock (runForgeAll a) ∨
      ¬ Aborts a ∧ ∃ clk, CoreFinds a.core 0 0 clk ∧ PersistsPackage clk (runForgeAll a) := by
  unfold runForgeAll Aborts
  cases hctx : a.ctx with
  | error e => exact .inl ⟨.inl nofun, finish_endsAtStock _ _ nofun⟩
  | ok ctx =>
    have hstart : ∀ e ∈ [LegacyEvent.resetAll a.resetFirst, .load], persists e = false := by
      simp [persists]
    have hlocked : ∀ e ∈ [LegacyEvent.resetAll a.resetFirst, .load] ++
        [.lockCoreVoltageMv coreVoltageMv a.lock], persists e = false := by
      simp [persists]
    simp only
    by_cases hvram : caught a.vram = .stable
    · rw [hvram]
      cases hstop : a.stopAfterVram with
      | true =>
        exact .inl ⟨.inr (.inr (.inl rfl)), finish_endsAtStock _ _ hstart⟩
      | false =>
        cases hlock : a.lock with
        | false =>
          rw [hlock] at hlocked
          exact .inl ⟨.inr (.inr (.inr (.inl rfl))), finish_endsAtStock _ _ hlocked⟩
        | true =>
          rw [hlock] at hlocked
          obtain ⟨hwrites, hend⟩ := coreLoop_spec a.core 0 0
            ([LegacyEvent.resetAll a.resetFirst, .load] ++ [.lockCoreVoltageMv coreVoltageMv true])
          have hevents := hwrites.none_persists hlocked
          change _ ∧ EndsAtStock (match coreLoop a.core 0 0 _ with
              | (none, events) => finish "aborted" none a.resetFinish events
              | (some bestClk, events) => forgePackage a bestClk events) ∨ _ ∧ _
          generalize coreLoop a.core 0 0 _ = found at hend hevents ⊢
          obtain ⟨best, events⟩ := found
          rcases hend with ⟨rfl, hstops⟩ | ⟨clk, rfl, hfinds, hgoes⟩
          · exact .inl ⟨.inr (.inr (.inr (.inr hstops))), finish_endsAtStock _ _ hevents⟩
          · refine .inr ⟨?_, clk, hfinds, (forgePackage_spec a clk events hevents).2⟩
            simp [hgoes]
    · have hgate : (!(caught a.vram).isStable) = true := by
        simpa [StabilityResult.isStable] using hvram
      rw [if_pos hgate]
      exact .inl ⟨.inr (.inl hvram), finish_endsAtStock _ _ hstart⟩

/-- A card that holds its stock clock under the lock and nothing else. -/
def brittleCard : ForgeAllAnswers where
  ctx := .ok ()
  resetFirst := true
  vram := some .stable
  stopAfterVram := false
  lock := true
  core off := ⟨false, true, some (if off = 0 then .stable else .unstable), 1800, true⟩
  coreZero := true
  coreApplied := true
  mem _ := ⟨false, true, some .silentError, 448, 440, some .stable, true⟩
  memZero := true
  coreReapplied := true
  package _ := ⟨true, some .unstable, true, true, true⟩
  resetFinish := true

/-- Both soaks of the package fail, and its core is persisted. -/
theorem brittleCard_persists_unsoaked_core :
    (runForgeAll brittleCard).events.getLast? =
      some (.applyAndPersist "Forge All" (some ⟨1755, 900⟩) none) ∧
    (runForgeAll brittleCard).packages =
      [⟨some ⟨1755, 900⟩, 0, .unstable⟩, ⟨some ⟨1755, 900⟩, 0, .unstable⟩] := by
  decide +kernel

end ForgeAll

end Nidavellir

import Nidavellir.VfHardware

namespace Nidavellir

open Extremes GpuApplyOps PointWrites

/-- A card with its state, the persisted profile and the clock; every single write succeeds. -/
structure Rig where
  card : VfCard
  hw : Hardware
  persisted : Option AppliedProfile
  now : String

instance : GpuApplyOps Rig where
  armBootFlag _ _ rig := (.ok (), rig)
  applyCore point rig := (.ok (), { rig with hw := applyCorePoint rig.card point rig.hw })
  applyAnchoredUndervolt targetMhz anchorMv rig :=
    let answer := applyAnchoredUndervoltPoint rig.card targetMhz anchorMv rig.hw
    (answer.1, { rig with hw := answer.2 })
  setMemOffsetMhz m rig := (.ok (), { rig with hw := { rig.hw with memOffset := m } })
  resetToStock rig := ((), { rig with hw := rig.card.resetToStock rig.hw })
  resetAll rig := (.ok (), { rig with hw := rig.card.resetAll rig.hw })
  nowRfc3339 rig := (rig.now, rig)
  saveApplied profile rig := ((), { rig with persisted := some profile })
  spawnClear rig := ((), rig)

/-- What writes the card: the two applies, the memory apply, and a service restart without a
reboot. -/
inductive ApplyOp
  | apply (label : String) (core : Option VfPoint) (memOffsetMhz : Option Int)
  | applyUndervolt (label : String) (targetMhz anchorMv : Nat) (memOffsetMhz : Option Int)
  | applyMemPeak (peakOffsetMhz : Int)
  | restart

namespace ApplyOp

/-- The profile that the operation puts on the card. -/
def profile (rig : Rig) : ApplyOp → Option AppliedProfile
  | apply label core mem => some ⟨label, core, mem, none, none⟩
  | applyUndervolt label targetMhz anchorMv mem =>
    some ⟨label, some ⟨targetMhz, anchorMv⟩, mem, none, some ⟨targetMhz, anchorMv⟩⟩
  | applyMemPeak peak =>
    if peak ≤ 0 then none
    else
      let ap := rig.persisted.getD ⟨"", none, none, none, none⟩
      some ⟨if ap.label.isEmpty then "Custom" else ap.label, ap.core, some peak, none, none⟩
  | restart => rig.persisted

/-- A service start releases both locks before it applies anything. -/
def prepared (rig : Rig) : ApplyOp → Rig
  | restart => { rig with hw := { rig.hw with clockCap := none, voltageLock := none } }
  | _ => rig

def run (op : ApplyOp) (rig : Rig) : Except String Unit × Rig :=
  match op with
  | apply label core mem => applyAndPersist label core mem rig
  | applyUndervolt label targetMhz anchorMv mem =>
    applyAndPersistUndervolt label targetMhz anchorMv mem rig
  | applyMemPeak peak =>
    if peak ≤ 0 then (.error "Run the memory sweep first", rig)
    else
      let ap := rig.persisted.getD ⟨"", none, none, none, none⟩
      applyAndPersist (if ap.label.isEmpty then "Custom" else ap.label) ap.core (some peak) rig
  | restart =>
    let rig := restart.prepared rig
    match rig.persisted with
    | none => (.ok (), rig)
    | some ap => reapply ap rig

theorem run_eq_reapply {op : ApplyOp} {rig : Rig} {profile : AppliedProfile}
    (h : op.profile rig = some profile) : op.run rig = reapply profile (op.prepared rig) := by
  cases op with
  | apply label core mem =>
    cases h
    rfl
  | applyUndervolt label targetMhz anchorMv mem =>
    cases h
    rfl
  | applyMemPeak peak =>
    by_cases hpeak : peak ≤ 0
    · simp only [ApplyOp.profile, if_pos hpeak] at h
      cases h
    · simp only [ApplyOp.profile, if_neg hpeak, Option.some.injEq] at h
      subst h
      simp only [ApplyOp.run, if_neg hpeak]
      rfl
  | restart =>
    change rig.persisted = some profile at h
    simp only [ApplyOp.run, prepared, h]

theorem run_of_profile_none {op : ApplyOp} {rig : Rig} (h : op.profile rig = none) :
    (op.run rig).2 = op.prepared rig := by
  cases op with
  | apply label core mem => cases h
  | applyUndervolt label targetMhz anchorMv mem => cases h
  | applyMemPeak peak =>
    by_cases hpeak : peak ≤ 0
    · simp only [ApplyOp.run, if_pos hpeak]
      rfl
    · simp only [ApplyOp.profile, if_neg hpeak] at h
      cases h
  | restart =>
    change rig.persisted = none at h
    simp only [ApplyOp.run, prepared, h]

end ApplyOp

/-- A card at stock. -/
def Rig.atStock (card : VfCard) (persisted : Option AppliedProfile) (now : String) : Rig :=
  ⟨card, .stock, persisted, now⟩

/-- The state after a history of operations, failed ones included. -/
def Rig.after (rig : Rig) (history : List ApplyOp) : Rig :=
  history.foldl (fun rig op => (op.run rig).2) rig

/-- What the profile establishes on a card at stock. -/
def establishedBy (card : VfCard) (profile : AppliedProfile) : Hardware :=
  (reapply profile (Rig.atStock card none "")).2.hw

/-- Nothing that the flatten-down writer leaves alone, or plans from, is other than stock. -/
def CoreClean (card : VfCard) (hw : Hardware) : Option VfPoint → Prop
  | none =>
    hw.clockCap = none ∧ hw.coreOffset = 0 ∧ ∀ bin ∈ card.table, hw.offsets bin.index = 0
  | some point =>
    if card.table = [] then fallbackOffset card point hw = fallbackOffset card point .stock
    else
      hw.clockCap = none ∧ hw.coreOffset = 0 ∧ ∀ bin ∈ card.table,
        (chooseCeilingMv card.table point.voltageMv).1 ≤ bin.mv →
          ((bin.base : Int) + hw.offsets bin.index).toNat = bin.base

/-- When an apply of the profile overwrites all that went before. -/
def OverwritesAll (card : VfCard) (hw : Hardware) (profile : AppliedProfile) : Prop :=
  profile.undervolt.isSome ∨
    hw.voltageLock = none ∧ (profile.memOffsetMhz = none → hw.memOffset = 0) ∧
      CoreClean card hw profile.core

def TableOnly (card : VfCard) (hw : Hardware) : Prop :=
  ∀ i, i ∉ card.table.map VfBin.index → hw.offsets i = 0

section Readback

variable {card : VfCard} {hw : Hardware} {offsets : Nat → Int}

theorem minByKey_map {α β γ : Type*} [LinearOrder γ] (f : β → γ) (g : α → β) (l : List α) :
    minByKey f (l.map g) = (minByKey (f ∘ g) l).map g := by
  unfold minByKey
  induction l with
  | nil => rfl
  | cons a l ih =>
    rw [List.map_cons, List.argmin_cons, List.argmin_cons, ih]
    cases List.argmin (f ∘ g) l with
    | none => rfl
    | some c =>
      simp only [Option.map_some, Function.comp_apply]
      split <;> rfl

theorem maxByKey_map {α β γ : Type*} [LinearOrder γ] (f : β → γ) (g : α → β) (l : List α) :
    maxByKey f (l.map g) = (maxByKey (f ∘ g) l).map g := by
  unfold maxByKey
  rw [← List.map_reverse]
  exact minByKey_map (γ := γᵒᵈ) f g l.reverse

/-- The bin of a voltage does not depend on what the clocks read. -/
theorem chooseCeilingMv_readback (card : VfCard) (offsets : Nat → Int) (measuredMv : Nat) :
    chooseCeilingMv (card.readVfCurveModern offsets) measuredMv =
      chooseCeilingMv card.table measuredMv := by
  have hnearest : nearestVfBinAtOrAbove (card.readVfCurveModern offsets) measuredMv =
      nearestVfBinAtOrAbove card.table measuredMv := by
    unfold nearestVfBinAtOrAbove VfCard.readVfCurveModern
    rw [List.filter_map, minByKey_map, maxByKey_map, ← Option.map_or, Option.map_map]
    rfl
  unfold chooseCeilingMv
  rw [hnearest]

theorem zeroed_keys (card : VfCard) :
    (card.table.map fun bin => (bin.index, (0 : Int))).map Prod.fst =
      card.table.map VfBin.index := by
  rw [List.map_map]
  rfl

theorem zeroed_of_notMem {i : Nat} (hi : i ∉ card.table.map VfBin.index) :
    card.zeroed offsets i = offsets i :=
  writeAll_of_notMem (by rw [zeroed_keys]; exact hi)

theorem zeroed_eq (h : TableOnly card hw) : card.zeroed hw.offsets = fun _ => 0 := by
  funext i
  by_cases hi : i ∈ card.table.map VfBin.index
  · obtain ⟨bin, hbin, rfl⟩ := List.mem_map.mp hi
    exact writeAll_of_mem (by rw [zeroed_keys]; exact card.distinct)
      (List.mem_map.mpr ⟨bin, hbin, rfl⟩)
  · rw [zeroed_of_notMem hi, h i hi]

end Readback

section FlattenDown

variable {card : VfCard} {hw : Hardware} {offsets : Nat → Int} {ceilingMv targetMhz : Nat}

def ceilingOffsets (card : VfCard) (ceilingMv targetMhz : Nat) (offsets : Nat → Int) : Nat → Int :=
  writeAll ((planVfCeiling (card.readVfCurveModern offsets) ceilingMv targetMhz).map fun entry =>
    (entry.index, entry.desiredOffsetMhz)) offsets

theorem planVfCeiling_keys (card : VfCard) (ceilingMv targetMhz : Nat) (offsets : Nat → Int) :
    ((planVfCeiling (card.readVfCurveModern offsets) ceilingMv targetMhz).map fun entry =>
      (entry.index, entry.desiredOffsetMhz)).map Prod.fst = card.table.map VfBin.index := by
  unfold planVfCeiling VfCard.readVfCurveModern
  rw [List.map_map, List.map_map, List.map_map]
  rfl

theorem ceilingOffsets_of_mem {bin : VfBin} (hbin : bin ∈ card.table) :
    ceilingOffsets card ceilingMv targetMhz offsets bin.index =
      if ceilingMv ≤ bin.mv then
        (targetMhz : Int) - (((bin.base : Int) + offsets bin.index).toNat : Int)
      else 0 := by
  unfold ceilingOffsets
  refine writeAll_of_mem ?_ (List.mem_map.mpr ?_)
  · rw [planVfCeiling_keys]
    exact card.distinct
  · refine ⟨planVfCeilingEntry ceilingMv targetMhz
      (bin.index, bin.mv, ((bin.base : Int) + offsets bin.index).toNat), ?_, ?_⟩
    · exact List.mem_map.mpr ⟨_, List.mem_map.mpr ⟨bin, hbin, rfl⟩, rfl⟩
    · by_cases h : ceilingMv ≤ bin.mv
      · rw [if_pos h]
        refine Prod.ext rfl ?_
        exact if_pos (decide_eq_true h)
      · rw [if_neg h]
        refine Prod.ext rfl ?_
        exact if_neg fun hmem => h (of_decide_eq_true hmem)

theorem ceilingOffsets_of_notMem {i : Nat} (hi : i ∉ card.table.map VfBin.index) :
    ceilingOffsets card ceilingMv targetMhz offsets i = offsets i := by
  unfold ceilingOffsets
  exact writeAll_of_notMem (by rw [planVfCeiling_keys]; exact hi)

theorem applyCorePoint_ceiling (htable : card.table ≠ []) (point : VfPoint) :
    applyCorePoint card point hw = { hw with
      offsets := ceilingOffsets card (chooseCeilingMv card.table point.voltageMv).1 point.freqMhz
        hw.offsets } := by
  have hcurve : (card.readVfCurveModern hw.offsets).isEmpty = false := by
    unfold VfCard.readVfCurveModern
    simpa using htable
  unfold applyCorePoint applyVfCeiling
  simp only [chooseCeilingMv_readback, hcurve, Bool.false_eq_true, if_false]
  rfl

theorem applyCorePoint_fallback (htable : card.table = []) (point : VfPoint) :
    applyCorePoint card point hw = { hw with
      coreOffset := fallbackOffset card point hw, clockCap := some point.freqMhz } := by
  have hcurve : (card.readVfCurveModern hw.offsets).isEmpty = true := by
    unfold VfCard.readVfCurveModern
    simp [htable]
  unfold applyCorePoint applyVfCeiling
  simp only [hcurve, if_true]

def coreApplied (card : VfCard) (core : Option VfPoint) (hw : Hardware) : Hardware :=
  core.elim hw fun point => applyCorePoint card point hw

def memApplied (mem : Option Int) (hw : Hardware) : Hardware :=
  { hw with memOffset := mem.getD hw.memOffset }

theorem applyAndPersist_rig (label : String) (core : Option VfPoint) (mem : Option Int)
    (rig : Rig) :
    applyAndPersist label core mem rig = (.ok (), { rig with
      hw := memApplied mem (coreApplied rig.card core rig.hw)
      persisted := some ⟨label, core, mem, some rig.now, none⟩ }) := by
  cases core <;> cases mem <;> rfl

/-- A second plan of the ceiling is the first one just when the curve still reads back stock where
it plans from it. -/
theorem ceilingOffsets_eq_stock_iff (htab : TableOnly card hw) :
    ceilingOffsets card ceilingMv targetMhz hw.offsets =
        ceilingOffsets card ceilingMv targetMhz (fun _ => 0) ↔
      ∀ bin ∈ card.table, ceilingMv ≤ bin.mv →
        ((bin.base : Int) + hw.offsets bin.index).toNat = bin.base := by
  constructor
  · intro h bin hbin hmv
    have hbase : ((bin.base : Int) + 0).toNat = bin.base := by simp
    have hcell := congrFun h bin.index
    rw [ceilingOffsets_of_mem hbin, ceilingOffsets_of_mem hbin, if_pos hmv, if_pos hmv,
      hbase] at hcell
    omega
  · intro h
    funext i
    by_cases hi : i ∈ card.table.map VfBin.index
    · obtain ⟨bin, hbin, rfl⟩ := List.mem_map.mp hi
      rw [ceilingOffsets_of_mem hbin, ceilingOffsets_of_mem hbin]
      by_cases hmv : ceilingMv ≤ bin.mv
      · have hbase : ((bin.base : Int) + 0).toNat = bin.base := by simp
        rw [if_pos hmv, if_pos hmv, h bin hbin hmv, hbase]
      · rw [if_neg hmv, if_neg hmv]
    · rw [ceilingOffsets_of_notMem hi, ceilingOffsets_of_notMem hi, htab i hi]

theorem offsets_eq_stock_iff (htab : TableOnly card hw) :
    hw.offsets = (fun _ => 0) ↔ ∀ bin ∈ card.table, hw.offsets bin.index = 0 := by
  constructor
  · intro h bin _
    rw [h]
  · intro h
    funext i
    by_cases hi : i ∈ card.table.map VfBin.index
    · obtain ⟨bin, hbin, rfl⟩ := List.mem_map.mp hi
      exact h bin hbin
    · exact htab i hi

theorem memApplied_eq_iff (mem : Option Int) (hw hw' : Hardware) :
    memApplied mem hw = memApplied mem hw' ↔
      hw.offsets = hw'.offsets ∧ hw.clockCap = hw'.clockCap ∧
        hw.voltageLock = hw'.voltageLock ∧ (mem = none → hw.memOffset = hw'.memOffset) ∧
          hw.coreOffset = hw'.coreOffset := by
  rw [Hardware.ext_iff]
  cases mem with
  | none => simp [memApplied]
  | some m => simp [memApplied]

/-- The first-generation apply forgets the past just when the past left nothing it keeps. -/
theorem coreApplied_eq_stock_iff (htab : TableOnly card hw) (core : Option VfPoint)
    (mem : Option Int) :
    memApplied mem (coreApplied card core hw) = memApplied mem (coreApplied card core .stock) ↔
      hw.voltageLock = none ∧ (mem = none → hw.memOffset = 0) ∧ CoreClean card hw core := by
  rw [memApplied_eq_iff]
  cases core with
  | none =>
    simp only [coreApplied, Option.elim_none, Hardware.stock, CoreClean,
      offsets_eq_stock_iff htab]
    tauto
  | some point =>
    simp only [coreApplied, Option.elim_some, CoreClean]
    by_cases htable : card.table = []
    · rw [applyCorePoint_fallback htable, applyCorePoint_fallback htable, if_pos htable]
      have hoffsets : hw.offsets = fun _ => 0 := by
        rw [offsets_eq_stock_iff htab, htable]
        intro bin hbin
        cases hbin
      simp only [Hardware.stock, hoffsets, true_and]
    · rw [applyCorePoint_ceiling htable, applyCorePoint_ceiling htable, if_neg htable]
      simp only [Hardware.stock, ceilingOffsets_eq_stock_iff htab]
      tauto

theorem applyCorePoint_offsets_of_notMem (point : VfPoint) {i : Nat}
    (hi : i ∉ card.table.map VfBin.index) :
    (applyCorePoint card point hw).offsets i = hw.offsets i := by
  by_cases htable : card.table = []
  · rw [applyCorePoint_fallback htable]
  · rw [applyCorePoint_ceiling htable]
    exact ceilingOffsets_of_notMem hi

end FlattenDown

section Anchored

variable {card : VfCard} {hw hw' : Hardware} {targetMhz anchorMv : Nat}

theorem writeEntries_of_notMem {anchorIndex i : Nat} {entries : List AnchoredBinEntry}
    (hi : ∀ e ∈ entries, e.index ≠ i) (offsets : Nat → Int) :
    (writeEntries anchorIndex entries offsets).2 i = offsets i := by
  induction entries generalizing offsets with
  | nil => rfl
  | cons e rest ih =>
    unfold writeEntries
    split
    next => rfl
    next =>
      rw [ih (fun e he => hi e (List.mem_cons_of_mem _ he)),
        Function.update_of_ne (hi e List.mem_cons_self).symm]

theorem applyBoundedAnchored_of_notMem {curve : List VfBin} {binIndex : Nat} {prevOffsetMhz : Int}
    {limits : PositiveOffsetLimits} {offsets : Nat → Int} {i : Nat}
    (hi : i ∉ curve.map VfBin.index) :
    (applyBoundedAnchoredPositiveOffset curve binIndex targetMhz prevOffsetMhz limits offsets).2 i =
      offsets i := by
  unfold applyBoundedAnchoredPositiveOffset
  cases hplan : planBoundedAnchoredPositiveOffset curve binIndex targetMhz prevOffsetMhz
      limits with
  | error e => rfl
  | ok plan =>
    have hentries : ∀ e ∈ plan.entries, e.index ≠ i := by
      rintro e he rfl
      obtain ⟨bin, hbin, hindex⟩ := planBoundedAnchoredPositiveOffset_entry_mem hplan he
      exact hi (List.mem_map.mpr ⟨bin, hbin, hindex.symm⟩)
    simp only
    split
    next => rfl
    next =>
      have hwrite : (writeEntries plan.anchor.index plan.entries offsets).2 i = offsets i :=
        writeEntries_of_notMem hentries offsets
      split
      next heq => rwa [heq] at hwrite
      next heq => rwa [heq] at hwrite

theorem resetAll_eq (h : TableOnly card hw) :
    card.resetAll hw = { Hardware.stock with clockCap := hw.clockCap } := by
  unfold VfCard.resetAll
  rw [zeroed_eq h]
  rfl

/-- The offsets behind the writes of an anchored plan on a card that was reset. -/
def anchoredOffsets (card : VfCard) (targetMhz boostTop anchorIdx : Nat) (offsets : Nat → Int) :
    Nat → Int :=
  (applyBoundedAnchoredPositiveOffset (saneTable card) anchorIdx targetMhz 0
    (anchoredLimits (saneTable card) boostTop) offsets).2

/-- An anchored apply is refused at stock, taken back to stock, or done under both locks. -/
theorem applyAnchored_cases (card : VfCard) (targetMhz anchorMv : Nat) (hw : Hardware) :
    (∃ e, applyAnchoredUndervoltPoint card targetMhz anchorMv hw = (.error e, card.resetAll hw)) ∨
    (∃ boostTop anchorIdx e, applyAnchoredUndervoltPoint card targetMhz anchorMv hw =
      (.error e, card.resetToStock { card.resetAll hw with
        voltageLock := some anchorMv
        offsets := anchoredOffsets card targetMhz boostTop anchorIdx
          (card.resetAll hw).offsets })) ∨
    (∃ boostTop anchorIdx, applyAnchoredUndervoltPoint card targetMhz anchorMv hw =
      (.ok (), { card.resetAll hw with
        voltageLock := some anchorMv
        offsets := anchoredOffsets card targetMhz boostTop anchorIdx (card.resetAll hw).offsets
        clockCap := some targetMhz })) := by
  unfold applyAnchoredUndervoltPoint
  simp only
  split
  next => exact Or.inl ⟨_, rfl⟩
  next =>
    split
    next => exact Or.inl ⟨_, rfl⟩
    next boostTop _ =>
      split
      next => exact Or.inl ⟨_, rfl⟩
      next anchorIdx _ =>
        split
        next offsets heq =>
          have hoffsets : anchoredOffsets card targetMhz boostTop anchorIdx
              (card.resetAll hw).offsets = offsets := congrArg Prod.snd heq
          exact Or.inr (Or.inl ⟨boostTop, anchorIdx, _, by rw [hoffsets]⟩)
        next plan offsets heq =>
          have hoffsets : anchoredOffsets card targetMhz boostTop anchorIdx
              (card.resetAll hw).offsets = offsets := congrArg Prod.snd heq
          split
          next => exact Or.inr (Or.inr ⟨boostTop, anchorIdx, by rw [hoffsets]⟩)
          next => exact Or.inr (Or.inl ⟨boostTop, anchorIdx, _, by rw [hoffsets]⟩)

theorem anchoredOffsets_of_notMem {boostTop anchorIdx i : Nat} {offsets : Nat → Int}
    (hi : i ∉ card.table.map VfBin.index) :
    anchoredOffsets card targetMhz boostTop anchorIdx offsets i = offsets i := by
  refine applyBoundedAnchored_of_notMem fun hsane => hi ?_
  obtain ⟨bin, hbin, rfl⟩ := List.mem_map.mp hsane
  exact List.mem_map.mpr ⟨bin, List.mem_of_mem_filter hbin, rfl⟩

theorem applyAnchored_offsets_of_notMem {i : Nat} (hi : i ∉ card.table.map VfBin.index) :
    (applyAnchoredUndervoltPoint card targetMhz anchorMv hw).2.offsets i = hw.offsets i := by
  have hreset : (card.resetAll hw).offsets i = hw.offsets i := zeroed_of_notMem hi
  rcases applyAnchored_cases card targetMhz anchorMv hw with
    ⟨e, h⟩ | ⟨boostTop, anchorIdx, e, h⟩ | ⟨boostTop, anchorIdx, h⟩
  · rw [h]
    exact hreset
  · rw [h]
    exact (zeroed_of_notMem hi).trans ((anchoredOffsets_of_notMem hi).trans hreset)
  · rw [h]
    exact (anchoredOffsets_of_notMem hi).trans hreset

/-- The reset comes first, so neither the answer nor what a success leaves depends on the past. -/
theorem applyAnchored_forgets (targetMhz anchorMv : Nat) (h : TableOnly card hw)
    (h' : TableOnly card hw') :
    (applyAnchoredUndervoltPoint card targetMhz anchorMv hw).1 =
        (applyAnchoredUndervoltPoint card targetMhz anchorMv hw').1 ∧
      ((applyAnchoredUndervoltPoint card targetMhz anchorMv hw).1 = .ok () →
        (applyAnchoredUndervoltPoint card targetMhz anchorMv hw).2 =
          (applyAnchoredUndervoltPoint card targetMhz anchorMv hw').2) := by
  unfold applyAnchoredUndervoltPoint
  rw [resetAll_eq h, resetAll_eq h']
  simp only
  split
  next => exact ⟨rfl, nofun⟩
  next =>
    split
    next => exact ⟨rfl, nofun⟩
    next =>
      split
      next => exact ⟨rfl, nofun⟩
      next =>
        split
        next => exact ⟨rfl, nofun⟩
        next =>
          split
          next => exact ⟨rfl, fun _ => rfl⟩
          next => exact ⟨rfl, nofun⟩

theorem resetToStock_eq (h : TableOnly card hw) (hmem : hw.memOffset = 0) :
    card.resetToStock hw = .stock := by
  unfold VfCard.resetToStock
  rw [zeroed_eq h, hmem]
  rfl

/-- From stock, what an anchored write fails on is taken back whole. -/
theorem applyAnchored_error_stock {e : String}
    (hfailed : (applyAnchoredUndervoltPoint card targetMhz anchorMv .stock).1 = .error e) :
    (applyAnchoredUndervoltPoint card targetMhz anchorMv .stock).2 = .stock := by
  have hreset : card.resetAll .stock = .stock := resetAll_eq fun _ _ => rfl
  rcases applyAnchored_cases card targetMhz anchorMv .stock with
    ⟨e, h⟩ | ⟨boostTop, anchorIdx, e, h⟩ | ⟨boostTop, anchorIdx, h⟩
  · rw [h, hreset]
  · rw [h, hreset]
    exact resetToStock_eq (fun i hi => anchoredOffsets_of_notMem hi) rfl
  · rw [h] at hfailed
    cases hfailed

theorem applyAnchored_voltageLock
    (hdone : (applyAnchoredUndervoltPoint card targetMhz anchorMv hw).1 = .ok ()) :
    (applyAnchoredUndervoltPoint card targetMhz anchorMv hw).2.voltageLock = some anchorMv := by
  rcases applyAnchored_cases card targetMhz anchorMv hw with
    ⟨e, h⟩ | ⟨boostTop, anchorIdx, e, h⟩ | ⟨boostTop, anchorIdx, h⟩
  · rw [h] at hdone
    cases hdone
  · rw [h] at hdone
    cases hdone
  · rw [h]

end Anchored

section History

variable {rig : Rig} {op : ApplyOp} {profile : AppliedProfile}

theorem applyAndPersistUndervolt_error {label : String} {targetMhz anchorMv : Nat}
    {mem : Option Int} {e : String}
    (h : (applyAnchoredUndervoltPoint rig.card targetMhz anchorMv rig.hw).1 = .error e) :
    applyAndPersistUndervolt label targetMhz anchorMv mem rig = (.error e, { rig with
      hw := (applyAnchoredUndervoltPoint rig.card targetMhz anchorMv rig.hw).2 }) := by
  unfold applyAndPersistUndervolt
  simp only [armBootFlag, applyAnchoredUndervolt, h]

theorem applyAndPersistUndervolt_ok {label : String} {targetMhz anchorMv : Nat}
    {mem : Option Int}
    (h : (applyAnchoredUndervoltPoint rig.card targetMhz anchorMv rig.hw).1 = .ok ()) :
    applyAndPersistUndervolt label targetMhz anchorMv mem rig = (.ok (), { rig with
      hw := memApplied mem (applyAnchoredUndervoltPoint rig.card targetMhz anchorMv rig.hw).2
      persisted := some ⟨label, some ⟨targetMhz, anchorMv⟩, mem, some rig.now,
        some ⟨targetMhz, anchorMv⟩⟩ }) := by
  unfold applyAndPersistUndervolt
  simp only [armBootFlag, applyAnchoredUndervolt, h]
  cases mem <;> rfl

/-- No apply writes a point outside the table, and none changes the card. -/
theorem reapply_frame (profile : AppliedProfile) (rig : Rig) :
    (reapply profile rig).2.card = rig.card ∧ ∀ i, i ∉ rig.card.table.map VfBin.index →
      (reapply profile rig).2.hw.offsets i = rig.hw.offsets i := by
  obtain ⟨label, core, mem, appliedAt, undervolt⟩ := profile
  cases undervolt with
  | none =>
    change (applyAndPersist label core mem rig).2.card = rig.card ∧ _
    change _ ∧ ∀ i, _ → (applyAndPersist label core mem rig).2.hw.offsets i = _
    rw [applyAndPersist_rig]
    refine ⟨rfl, fun i hi => ?_⟩
    cases core with
    | none => rfl
    | some point => exact applyCorePoint_offsets_of_notMem point hi
  | some uv =>
    change (applyAndPersistUndervolt label uv.targetMhz uv.anchorMv mem rig).2.card = _ ∧ ∀ i, _ →
      (applyAndPersistUndervolt label uv.targetMhz uv.anchorMv mem rig).2.hw.offsets i = _
    cases hanswer : (applyAnchoredUndervoltPoint rig.card uv.targetMhz uv.anchorMv rig.hw).1 with
    | error e =>
      rw [applyAndPersistUndervolt_error hanswer]
      exact ⟨rfl, fun i hi => applyAnchored_offsets_of_notMem hi⟩
    | ok answer =>
      rw [applyAndPersistUndervolt_ok hanswer]
      exact ⟨rfl, fun i hi => applyAnchored_offsets_of_notMem hi⟩

theorem prepared_frame (op : ApplyOp) (rig : Rig) :
    (op.prepared rig).card = rig.card ∧ (op.prepared rig).hw.offsets = rig.hw.offsets := by
  cases op <;> exact ⟨rfl, rfl⟩

theorem run_tableOnly (op : ApplyOp) (h : TableOnly rig.card rig.hw) :
    (op.run rig).2.card = rig.card ∧ TableOnly rig.card (op.run rig).2.hw := by
  obtain ⟨hcard, hoffsets⟩ := prepared_frame op rig
  cases hprofile : op.profile rig with
  | none =>
    rw [ApplyOp.run_of_profile_none hprofile]
    refine ⟨hcard, fun i hi => ?_⟩
    rw [hoffsets]
    exact h i hi
  | some profile =>
    rw [ApplyOp.run_eq_reapply hprofile]
    have hframe := reapply_frame profile (op.prepared rig)
    rw [hcard, hoffsets] at hframe
    exact ⟨hframe.1, fun i hi => (hframe.2 i hi).trans (h i hi)⟩

theorem after_tableOnly (history : List ApplyOp) (h : TableOnly rig.card rig.hw) :
    (rig.after history).card = rig.card ∧ TableOnly rig.card (rig.after history).hw := by
  induction history generalizing rig with
  | nil => exact ⟨rfl, h⟩
  | cons op history ih =>
    obtain ⟨hcard, htab⟩ := run_tableOnly op h
    rw [← hcard] at htab
    have hafter := ih htab
    rw [hcard] at hafter
    exact hafter

theorem reapply_history_iff (h : TableOnly rig.card rig.hw)
    (hok : (reapply profile rig).1 = .ok ()) :
    (reapply profile rig).2.hw = establishedBy rig.card profile ↔
      OverwritesAll rig.card rig.hw profile := by
  have hstock : TableOnly rig.card .stock := fun _ _ => rfl
  obtain ⟨label, core, mem, appliedAt, undervolt⟩ := profile
  cases undervolt with
  | none =>
    change (applyAndPersist label core mem rig).2.hw =
      (applyAndPersist label core mem (Rig.atStock rig.card none "")).2.hw ↔ _
    rw [applyAndPersist_rig, applyAndPersist_rig]
    refine (coreApplied_eq_stock_iff h core mem).trans ?_
    simp only [OverwritesAll, Option.isSome_none, Bool.false_eq_true, false_or]
  | some uv =>
    change (applyAndPersistUndervolt label uv.targetMhz uv.anchorMv mem rig).1 = _ at hok
    change (applyAndPersistUndervolt label uv.targetMhz uv.anchorMv mem rig).2.hw =
      (applyAndPersistUndervolt label uv.targetMhz uv.anchorMv mem
        (Rig.atStock rig.card none "")).2.hw ↔ _
    obtain ⟨hanswer, hleft⟩ := applyAnchored_forgets uv.targetMhz uv.anchorMv h hstock
    have hdone : (applyAnchoredUndervoltPoint rig.card uv.targetMhz uv.anchorMv rig.hw).1 =
        .ok () := by
      cases hcase : (applyAnchoredUndervoltPoint rig.card uv.targetMhz uv.anchorMv rig.hw).1 with
      | error e =>
        rw [applyAndPersistUndervolt_error hcase] at hok
        cases hok
      | ok answer => rfl
    have hdone' : (applyAnchoredUndervoltPoint rig.card uv.targetMhz uv.anchorMv .stock).1 =
        .ok () := hanswer.symm.trans hdone
    have hfresh : applyAndPersistUndervolt label uv.targetMhz uv.anchorMv mem
        (Rig.atStock rig.card none "") = _ := applyAndPersistUndervolt_ok hdone'
    rw [applyAndPersistUndervolt_ok hdone, hfresh, hleft hdone]
    exact ⟨fun _ => Or.inl rfl, fun _ => rfl⟩

/-- After any history, a successful apply leaves what its profile alone establishes just when what
it does not write was already so. -/
theorem apply_history_iff (card : VfCard) (persisted : Option AppliedProfile) (now : String)
    (history : List ApplyOp) (op : ApplyOp) (profile : AppliedProfile)
    (hprofile : op.profile ((Rig.atStock card persisted now).after history) = some profile)
    (hok : (op.run ((Rig.atStock card persisted now).after history)).1 = .ok ()) :
    (op.run ((Rig.atStock card persisted now).after history)).2.hw =
        establishedBy card profile ↔
      OverwritesAll card
        (op.prepared ((Rig.atStock card persisted now).after history)).hw profile := by
  have hstart : TableOnly (Rig.atStock card persisted now).card .stock := fun _ _ => rfl
  obtain ⟨hcard, htab⟩ := after_tableOnly history hstart
  obtain ⟨hcard', hoffsets⟩ := prepared_frame op ((Rig.atStock card persisted now).after history)
  rw [ApplyOp.run_eq_reapply hprofile] at hok ⊢
  have hcards := hcard'.trans hcard
  have hprepared : TableOnly (op.prepared ((Rig.atStock card persisted now).after history)).card
      (op.prepared ((Rig.atStock card persisted now).after history)).hw := by
    intro i hi
    rw [hcards] at hi
    rw [hoffsets]
    exact htab i hi
  have hiff := reapply_history_iff hprepared hok
  rwa [hcards] at hiff

/-- Eight points, fifty megahertz apart. -/
def eightBinCard : VfCard where
  table := [(0, 800, 1500), (1, 810, 1550), (2, 820, 1600), (3, 830, 1650), (4, 840, 1700),
    (5, 850, 1750), (6, 860, 1800), (7, 870, 1850)]
  distinct := by decide
  legacyCurve _ := none

/-- An undervolt over a ceiling leaves what it does alone; a memory apply over an undervolt leaves
its locks. -/
theorem undervolt_then_memory :
    ((ApplyOp.applyUndervolt "Deep Calm" 1700 820 (some 300)).run
        ((Rig.atStock eightBinCard none "now").after
          [.apply "Godforge" (some ⟨1700, 850⟩) none, .apply "Memory" none (some 500)])).2.hw =
      establishedBy eightBinCard
        ⟨"Deep Calm", some ⟨1700, 820⟩, some 300, none, some ⟨1700, 820⟩⟩ ∧
    ((ApplyOp.apply "Memory" none (some 300)).run
        ((Rig.atStock eightBinCard none "now").after
          [.applyUndervolt "Deep Calm" 1700 820 (some 500)])).2.hw ≠
      establishedBy eightBinCard ⟨"Memory", none, some 300, none, none⟩ := by
  constructor
  · exact (apply_history_iff eightBinCard none "now"
      [.apply "Godforge" (some ⟨1700, 850⟩) none, .apply "Memory" none (some 500)]
      (.applyUndervolt "Deep Calm" 1700 820 (some 300))
      ⟨"Deep Calm", some ⟨1700, 820⟩, some 300, none, some ⟨1700, 820⟩⟩ rfl
      (by decide +kernel)).mpr (Or.inl rfl)
  · refine (apply_history_iff eightBinCard none "now"
      [.applyUndervolt "Deep Calm" 1700 820 (some 500)] (.apply "Memory" none (some 300))
      ⟨"Memory", none, some 300, none, none⟩ rfl (by decide +kernel)).not.mpr ?_
    have hlocked : ((Rig.atStock eightBinCard none "now").after
        [.applyUndervolt "Deep Calm" 1700 820 (some 500)]).hw.voltageLock = some 820 := by
      decide +kernel
    rintro (hundervolt | ⟨hlock, -⟩)
    · cases hundervolt
    · cases hlocked.symm.trans hlock

/-- The same ceiling applied twice is no ceiling, and the locks of an undervolt outlive the switch
to a ceiling. -/
theorem apply_twice_unflattens :
    eightBinCard.readVfCurveModern ((Rig.atStock eightBinCard none "now").after
        [.apply "Godforge" (some ⟨1700, 850⟩) none]).hw.offsets =
      [(0, 800, 1500), (1, 810, 1550), (2, 820, 1600), (3, 830, 1650), (4, 840, 1700),
        (5, 850, 1700), (6, 860, 1700), (7, 870, 1700)] ∧
    eightBinCard.readVfCurveModern ((Rig.atStock eightBinCard none "now").after
        [.apply "Godforge" (some ⟨1700, 850⟩) none,
          .apply "Godforge" (some ⟨1700, 850⟩) none]).hw.offsets = eightBinCard.table ∧
    ((ApplyOp.applyUndervolt "Godforge" 1700 820 none).run
        (Rig.atStock eightBinCard none "now")).1 = .ok () ∧
    ((Rig.atStock eightBinCard none "now").after [.applyUndervolt "Godforge" 1700 820 none,
        .apply "Godforge" (some ⟨1700, 850⟩) none]).hw.voltageLock = some 820 ∧
    (establishedBy eightBinCard
      ⟨"Godforge", some ⟨1700, 850⟩, none, none, none⟩).voltageLock = none := by
  decide +kernel

end History

end Nidavellir

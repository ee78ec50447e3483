import Nidavellir.FaultyHardware

namespace Nidavellir

open Attempt GpuApplyOps

variable {card : VfCard} {ε : Type}

namespace Driver

/-- Point after point; a write that fails leaves those before it written. -/
def writeEach {α : Type} (refusal : α → Option String) (point : α → Nat × Int)
    (text : Nat → Fault → String) : List α → Driver card String Unit
  | [] => pure ()
  | entry :: rest =>
    match refusal entry with
    | some reason => throw reason
    | none => do
      ExceptT.adapt (text (point entry).1) (setPoint (point entry).1 (point entry).2)
      writeEach refusal point text rest

def writeCeiling (plan : List VfWritePlanEntry) : Driver card String Unit :=
  writeEach (fun _ => none) (fun entry => (entry.index, entry.desiredOffsetMhz))
    (fun index f => s!"set_point({index}) status {f.status}") plan

def applyVfCeiling (ceilingMv targetMhz : Nat) : Driver card String Nat := do
  let curve ← readVfCurveModern
  if curve.isEmpty then throw "curva V/F vazia (GetStatus não retornou pontos)"
  else
    let plan := planVfCeiling curve ceilingMv targetMhz
    writeCeiling plan
    return (plan.filter fun entry => !entry.desiredOffsetIsZero).length

def curveFreqAt (voltageMv : Nat) : Driver card ε (Option Nat) := do
  let points ← observe (look fun rig => card.legacyCurve rig.hw)
  return (points.toOption.join).bind fun points =>
    (Extremes.maxByKey Prod.fst (points.filter fun p => decide (p.1 ≤ voltageMv))).map Prod.snd

/-- The offset is written first; without the cap the apply continues. -/
def fallbackCore (point : VfPoint) : Driver card String Unit := do
  let base ← curveFreqAt point.voltageMv
  setCoreOffsetMhz (max (-300) (min 400 ((point.freqMhz : Int) - base.getD point.freqMhz)))
  let _ ← observe (lockCoreClockMaxMhz point.freqMhz)
  pure ()

def applyCorePoint (point : VfPoint) : Driver card String Unit := do
  if ← vfCurveSupported then
    let curve ← readVfCurveModern
    match ← observe (applyVfCeiling (chooseCeilingMv curve point.voltageMv).1 point.freqMhz) with
    | .ok _ => pure ()
    | .error _ => fallbackCore point
  else fallbackCore point

def f2ResetTolKhz : Nat := 1000

/-- What the reset reads back decides how much the reason says. -/
def confirmCleared (reason : String) : List Nat → Driver card ε String
  | [] => do
    match ← observe readCoreVoltageLockMv with
    | .ok (some lockedMv) =>
      return s!"{reason}; reset readback voltage lock still active at {lockedMv} mV"
    | .ok none => return reason
    | .error error => return s!"{reason}; reset voltage-lock readback failed: {error}"
  | idx :: rest => do
    match ← observe (getPointKhz idx) with
    | .ok khz =>
      if khz.natAbs ≤ f2ResetTolKhz then confirmCleared reason rest
      else return s!"{reason}; reset readback {khz} kHz NOT cleared at idx {idx}"
    | .error _ =>
      return s!"{reason}; reset readback unavailable at idx {idx} — cannot confirm cleared"

/-- The error of an apply that is taken back. -/
def refuse (indices : List Nat) (reason : String) : Driver card String Unit := do
  resetToStock
  throw (← confirmCleared reason indices)

/-- Only the anchor may carry a positive offset. -/
def writeEntries (anchorIndex : Nat) (entries : List AnchoredBinEntry) : Driver card String Unit :=
  writeEach
    (fun e =>
      if e.offsetMhz > 0 ∧ e.index ≠ anchorIndex then
        some (s!"F2 anchored: refusing positive offset +{e.offsetMhz} on non-anchor bin " ++
          s!"{e.voltageMv} mV — fail closed")
      else none)
    (fun e => (e.index, e.offsetMhz))
    (fun index f => s!"F2 anchored: set_point({index}) status {f.status}") entries

def applyBoundedAnchoredPositiveOffset (staticBaseCurve : List VfBin)
    (anchorBinIndex targetMhz : Nat) (prevOffsetMhz : Int) (limits : PositiveOffsetLimits) :
    Driver card String AnchoredPositiveOffsetPlan :=
  match planBoundedAnchoredPositiveOffset staticBaseCurve anchorBinIndex targetMhz prevOffsetMhz
      limits with
  | .error e => throw e
  | .ok plan =>
    if plan.anchor.offsetMhz ≤ 0 ∨ plan.anchor.offsetMhz > limits.absMaxOffsetMhz then
      throw (s!"F2 anchored: refusing to write out-of-bound anchor offset " ++
        s!"{plan.anchor.offsetMhz} MHz (cap +{limits.absMaxOffsetMhz}) — fail closed")
    else do
      writeEntries plan.anchor.index plan.entries
      return plan

/-- The offsets that the touched points read back. -/
def readOffsets : List AnchoredBinEntry → Driver card ε (List (Nat × Option Int))
  | [] => pure []
  | e :: rest => do
    let khz ← observe (getPointKhz e.index)
    let others ← readOffsets rest
    return (e.index, khz.toOption.map fun khz => khz.tdiv 1000) :: others

def observedAt (observed : List (Nat × Option Int)) (idx : Nat) : Option Int :=
  (observed.find? fun o => o.1 == idx).bind Prod.snd

/-- The lock, the curve and the ceiling, each of which must succeed. -/
def writeAnchored (sane : List VfBin) (anchorIdx targetMhz anchorMv : Nat)
    (limits : PositiveOffsetLimits) : Driver card String Unit := do
  match ← observe (lockCoreVoltageVerified anchorMv) with
  | .error error => refuse (sane.map VfBin.index) s!"F2 apply: {error}"
  | .ok () =>
    match ← observe (applyBoundedAnchoredPositiveOffset sane anchorIdx targetMhz 0 limits) with
    | .error e => refuse (sane.map VfBin.index) s!"F2 apply: anchored write rejected ({e})"
    | .ok plan =>
      let observed ← readOffsets plan.entries
      let touched := plan.entries.map AnchoredBinEntry.index
      let verdict := verifyAnchoredPositiveOffset plan (observedAt observed) f2VerifyTolMhz
      if verdict = .anchoredRaiseVerified then
        match ← observe (lockCoreClockMaxMhz targetMhz) with
        | .error e => refuse touched s!"F2 apply: clock ceiling ({targetMhz} MHz) failed ({e})"
        | .ok () => pure ()
      else refuse touched s!"F2 apply: anchored verify failed ({verdict.debug})"

def applyAnchoredUndervolt (targetMhz anchorMv : Nat) : Driver card String Unit := do
  ExceptT.adapt (fun e => s!"F2 apply: pre-apply stock reset failed: {e}") resetAll
  let base ← readVfBaseCurveModern
  let sane := base.filter fun bin => isF2SanePoint bin.mv bin.base
  if sane.isEmpty then throw "F2 apply: no sane static VF base points — fail closed (no write)"
  else
    let live ← readVfCurveModern
    match f2StockClockCeiling live with
    | .error e => throw s!"F2 apply: stock clock domain unavailable: {e}"
    | .ok boostTop =>
      match selectExactApplyAnchorBin sane targetMhz anchorMv with
      | none =>
        throw (s!"F2 apply: exact validated VF bin {anchorMv} mV is unavailable or cannot " ++
          s!"raise to {targetMhz} MHz — fail closed (no write)")
      | some anchorIdx =>
        writeAnchored sane anchorIdx targetMhz anchorMv (anchoredLimits sane boostTop)

variable {start rig : FaultyRig card} {G : Hardware → Prop}

/-- A write of a point of the table. -/
theorem Stage.setPoint (h : Stage G start rig)
    (hG : ∀ hw offsets, G hw → G { hw with offsets }) {index : Nat} (offset : Int)
    (hindex : index ∈ card.table.map VfBin.index) :
    Stage G start (rig.change fun hw =>
      { hw with offsets := Function.update hw.offsets index offset }).next where
  framed := by
    refine ⟨h.framed.persisted, h.framed.sticky, fun i hi => ?_⟩
    have hne : i ≠ index := fun heq => hi (heq ▸ hindex)
    exact (Function.update_of_ne hne ..).trans (h.framed.outside i hi)
  reached := fun hok => hG _ _ (h.reached hok)

/-- A pass that succeeds wrote every point; one that fails only points of the table. -/
theorem exits_writeEach {α : Type} {refusal : α → Option String} {point : α → Nat × Int}
    {text : Nat → Fault → String} (hG : ∀ hw offsets, G hw → G { hw with offsets })
    (entries : List α) (hnodup : (entries.map fun e => (point e).1).Nodup)
    (htable : ∀ e ∈ entries, (point e).1 ∈ card.table.map VfBin.index)
    (h : Stage G start rig) :
    Exits (writeEach refusal point text entries) rig
      (fun _ after => Stage G start after ∧ after.hw.voltageLock = rig.hw.voltageLock ∧
        (∀ i ∉ entries.map fun e => (point e).1, after.hw.offsets i = rig.hw.offsets i) ∧
        ∀ e ∈ entries, after.hw.offsets (point e).1 = (point e).2)
      (fun _ after => Stage G start after) := by
  induction entries generalizing rig with
  | nil => exact exits_pure ⟨h, rfl, fun _ _ => rfl, by simp⟩
  | cons entry entries ih =>
    rw [List.map_cons, List.nodup_cons] at hnodup
    unfold writeEach
    cases refusal entry with
    | some reason => exact exits_throw h
    | none =>
      have hset := h.setPoint hG (point entry).2 (htable entry List.mem_cons_self)
      refine exits_bind (exits_adapt (exits_touch ?_ (fun _ => hset) fun _ => h.next))
      refine (ih hnodup.2 (fun e he => htable e (List.mem_cons_of_mem _ he)) hset).mono
        (fun _ after hafter => ?_) fun _ _ herr => herr
      obtain ⟨hstage, hlock, hother, hwritten⟩ := hafter
      refine ⟨hstage, hlock, fun i hi => ?_, fun e he => ?_⟩
      · rw [List.map_cons, List.mem_cons, not_or] at hi
        rw [hother i hi.2]
        exact Function.update_of_ne hi.1 ..
      · rcases List.mem_cons.mp he with rfl | hmem
        · rw [hother _ hnodup.1]
          exact Function.update_self ..
        · exact hwritten e hmem

theorem keeps_confirmCleared {I : FaultyRig card → Prop} (hI : ∀ rig, I rig → I rig.next)
    (reason : String) (indices : List Nat) :
    Keeps I (confirmCleared reason indices : Driver card ε String) := by
  induction indices with
  | nil =>
    refine ((keeps_look hI).adapt.observe).bind fun locked => ?_
    rcases locked with _ | _ | _ <;> exact keeps_pure _
  | cons idx indices ih =>
    refine (keeps_look hI).observe.bind fun khz => ?_
    cases khz with
    | error _ => exact keeps_pure _
    | ok khz =>
      dsimp only
      split
      next => exact ih
      next => exact keeps_pure _

/-- An apply that is taken back leaves the card at stock. -/
theorem exits_refuse (mem : Int → Prop) (h : Stage (fun hw => mem hw.memOffset) start rig)
    (indices : List Nat) (reason : String) :
    Exits (refuse indices reason) rig (fun _ _ => False)
      (fun _ after => Stage (fun hw => mem hw.memOffset ∧ Stocked card hw) start after) := by
  refine exits_bind
    ((exits_resetToStock mem h).mono (fun _ after hafter => ?_) fun _ _ => False.elim)
  have hkeeps : Keeps (Stage (fun hw => mem hw.memOffset ∧ Stocked card hw) start)
      (confirmCleared reason indices : Driver card String String) :=
    keeps_confirmCleared (I := Stage _ start) (fun _ h => h.next) reason indices
  exact exits_bind ((hkeeps after hafter).mono (fun _ _ hkept => exits_throw hkept)
    fun _ _ hkept => hkept)

theorem Stage.setLock (h : Stage G start rig)
    (hG : ∀ hw lock, G hw → G { hw with voltageLock := lock }) (lock : Option Nat) :
    Stage G start (rig.change fun hw => { hw with voltageLock := lock }).next :=
  h.change (fun _ => rfl) fun hw hg => hG hw lock hg

theorem exits_lockCoreVoltageMv {anchorMv : Nat}
    (hG : ∀ hw lock, G hw → G { hw with voltageLock := lock }) (h : Stage G start rig) :
    Exits (lockCoreVoltageMv anchorMv) rig
      (fun _ after => Stage G start after ∧ after.hw.voltageLock = some anchorMv)
      (fun _ after => Stage G start after) := by
  refine exits_bind (exits_adapt (exits_look ?_ fun _ => h.next))
  split
  next => exact exits_throw h.next
  next entryId _ =>
    have hclear := h.next.setLock hG none
    have hlock := hclear.setLock hG (some anchorMv)
    refine exits_bind (exits_adapt (exits_touch ?_ (fun _ => hclear) fun _ => h.next.next))
    exact exits_bind (exits_adapt (exits_touch (exits_pure ⟨hlock, rfl⟩) (fun _ => hlock)
      fun _ => hclear.next))

theorem exits_lockVerified {anchorMv : Nat}
    (hG : ∀ hw lock, G hw → G { hw with voltageLock := lock }) (h : Stage G start rig) :
    Exits (lockCoreVoltageVerified anchorMv) rig
      (fun _ after => Stage G start after ∧ after.hw.voltageLock = some anchorMv)
      (fun _ after => Stage G start after) := by
  refine exits_bind (exits_adapt ((exits_lockCoreVoltageMv hG h).mono
    (fun entryId after hlocked => ?_) fun _ _ herr => herr))
  refine exits_bind (exits_adapt (exits_adapt (exits_look ?_ fun _ => hlocked.1.next)))
  split
  next => exact exits_throw hlocked.1.next
  next =>
    split
    next => exact exits_pure ⟨hlocked.1.next, hlocked.2⟩
    next => exact exits_throw hlocked.1.next

theorem planned_indices {sane : List VfBin} {anchorIdx targetMhz : Nat} {prevOffsetMhz : Int}
    {limits : PositiveOffsetLimits} {plan : AnchoredPositiveOffsetPlan}
    (h : planBoundedAnchoredPositiveOffset sane anchorIdx targetMhz prevOffsetMhz limits =
      .ok plan) : plan.entries.map AnchoredBinEntry.index = sane.map VfBin.index := by
  have hall := Fallible.mapM_eq_ok.mp (planBoundedAnchoredPositiveOffset_ok h).2.1
  clear h
  generalize plan.entries = entries at hall ⊢
  induction hall with
  | nil => rfl
  | cons hfirst _ ih => rw [List.map_cons, List.map_cons, anchoredEntry_index hfirst, ih]

/-- The plan of the bins read, and what of it is on the card. -/
structure CurveWritten (sane : List VfBin) (anchorIdx targetMhz : Nat)
    (limits : PositiveOffsetLimits) (plan : AnchoredPositiveOffsetPlan) (hw : Hardware) : Prop where
  planned : planBoundedAnchoredPositiveOffset sane anchorIdx targetMhz 0 limits = .ok plan
  written : ∀ e ∈ plan.entries, hw.offsets e.index = e.offsetMhz

theorem exits_applyBounded {sane : List VfBin} {anchorIdx targetMhz : Nat}
    {limits : PositiveOffsetLimits} (hG : ∀ hw offsets, G hw → G { hw with offsets })
    (hsane : sane.Sublist card.table) (h : Stage G start rig) :
    Exits (applyBoundedAnchoredPositiveOffset sane anchorIdx targetMhz 0 limits) rig
      (fun plan after => Stage G start after ∧ after.hw.voltageLock = rig.hw.voltageLock ∧
        CurveWritten sane anchorIdx targetMhz limits plan after.hw)
      (fun _ after => Stage G start after) := by
  unfold applyBoundedAnchoredPositiveOffset
  split
  next => exact exits_throw h
  next plan hplan =>
    split
    next => exact exits_throw h
    next =>
      have hindices : plan.entries.map AnchoredBinEntry.index = sane.map VfBin.index :=
        planned_indices hplan
      have hsub : (sane.map VfBin.index).Sublist (card.table.map VfBin.index) := hsane.map _
      have hnodup : (plan.entries.map AnchoredBinEntry.index).Nodup :=
        hindices ▸ hsub.nodup card.distinct
      have htable : ∀ e ∈ plan.entries, e.index ∈ card.table.map VfBin.index := fun e he =>
        hsub.subset (hindices ▸ List.mem_map_of_mem he)
      refine exits_bind ((exits_writeEach hG plan.entries hnodup htable h).mono
        (fun _ after hafter => exits_pure ?_) fun _ _ herr => herr)
      exact ⟨hafter.1, hafter.2.1, hplan, hafter.2.2.2⟩

theorem exits_readOffsets {I : FaultyRig card → Prop} (hI : ∀ rig, I rig → I rig.next)
    (entries : List AnchoredBinEntry) (h : I rig) :
    Exits (readOffsets entries : Driver card ε _) rig (fun _ after => I after)
      fun _ _ => False := by
  induction entries generalizing rig with
  | nil => exact exits_pure h
  | cons e entries ih =>
    have hrest := ih (hI rig h)
    refine exits_bind (exits_observe (exits_look ?_ fun fault => ?_))
    · exact exits_bind (hrest.mono (fun _ _ hafter => exits_pure hafter) fun _ _ => id)
    · exact exits_bind (hrest.mono (fun _ _ hafter => exits_pure hafter) fun _ _ => id)

theorem exits_writeAnchored {sane : List VfBin} {anchorIdx targetMhz anchorMv : Nat}
    {limits : PositiveOffsetLimits} (hsane : sane.Sublist card.table)
    (h : Stage (fun hw => hw.memOffset = 0) start rig) :
    Exits (writeAnchored sane anchorIdx targetMhz anchorMv limits) rig
      (fun _ after => Stage (fun hw => hw.memOffset = 0) start after ∧
        after.hw.voltageLock = some anchorMv ∧ after.hw.clockCap = some targetMhz ∧
        ∃ plan, CurveWritten sane anchorIdx targetMhz limits plan after.hw)
      (fun _ after => Stage (fun hw => hw.memOffset = 0 ∧ Stocked card hw) start after) := by
  have hrefuse {rig : FaultyRig card} (h : Stage (fun hw => hw.memOffset = 0) start rig)
      {ok : Unit → FaultyRig card → Prop} (indices : List Nat) (reason : String) :
      Exits (refuse indices reason) rig ok
        (fun _ after => Stage (fun hw => hw.memOffset = 0 ∧ Stocked card hw) start after) :=
    (exits_refuse (· = 0) h indices reason).mono (fun _ _ => False.elim) fun _ _ => id
  refine exits_bind (exits_observe ((exits_lockVerified (fun _ _ hg => hg) h).mono
    (fun _ locked hlocked => ?_) fun error failed hfailed => hrefuse hfailed _ _))
  dsimp only
  refine exits_bind (exits_observe ((exits_applyBounded (fun _ _ hg => hg) hsane hlocked.1).mono
    (fun plan written hwritten => ?_) fun e failed hfailed => hrefuse hfailed _ _))
  dsimp only
  have hreads : Exits (readOffsets plan.entries : Driver card String _) written
      (fun _ after => Stage (fun hw => hw.memOffset = 0) start after ∧
        after.hw.voltageLock = some anchorMv ∧
          CurveWritten sane anchorIdx targetMhz limits plan after.hw) fun _ _ => False :=
    exits_readOffsets (I := fun rig => Stage _ start rig ∧ rig.hw.voltageLock = some anchorMv ∧
      CurveWritten sane anchorIdx targetMhz limits plan rig.hw) (fun _ h => ⟨h.1.next, h.2⟩)
      plan.entries ⟨hwritten.1, hwritten.2.1.trans hlocked.2, hwritten.2.2⟩
  refine exits_bind (hreads.mono (fun observed after hafter => ?_) fun _ _ => False.elim)
  split
  next =>
    have hcap : Stage (fun hw => hw.memOffset = 0) start
        (after.change fun hw => { hw with clockCap := some targetMhz }).next :=
      hafter.1.change (fun _ => rfl) fun _ hg => hg
    refine exits_bind (exits_observe (exits_adapt (exits_touch ?_ (fun _ => ?_) fun _ => ?_)))
    · exact exits_pure ⟨hcap, hafter.2.1, rfl, plan, hafter.2.2.planned, hafter.2.2.written⟩
    · exact hrefuse hcap _ _
    · exact hrefuse hafter.1.next _ _
  next => exact hrefuse hafter.1 _ _

/-- The hardware after resets that all succeeded. -/
def Restored (card : VfCard) (before hw : Hardware) : Prop :=
  (hw.clockCap = before.clockCap ∨ hw.clockCap = none) ∧ AllReset card hw

/-- The parts of an anchored undervolt, on the card. -/
structure AnchoredWritten (card : VfCard) (targetMhz anchorMv : Nat) (hw : Hardware) : Prop where
  voltageLock : hw.voltageLock = some anchorMv
  clockCap : hw.clockCap = some targetMhz
  curve : ∃ sane anchorIdx limits plan, sane.Sublist card.table ∧
    (∃ bin ∈ sane, bin.index = anchorIdx ∧ bin.mv = anchorMv) ∧
      CurveWritten sane anchorIdx targetMhz limits plan hw

theorem selectExactApplyAnchorBin_mem {sane : List VfBin} {targetMhz anchorMv anchorIdx : Nat}
    (h : selectExactApplyAnchorBin sane targetMhz anchorMv = some anchorIdx) :
    ∃ bin ∈ sane, bin.index = anchorIdx ∧ bin.mv = anchorMv := by
  obtain ⟨bin, hfind, hindex⟩ := Option.map_eq_some_iff.mp h
  have hbin := List.find?_some hfind
  simp only [Bool.and_eq_true, beq_iff_eq] at hbin
  exact ⟨bin, List.mem_of_find?_eq_some hfind, hindex, hbin.1⟩

theorem exits_applyAnchoredUndervolt (targetMhz anchorMv : Nat) (start rig : FaultyRig card)
    (h : Stage (fun hw => hw.clockCap = start.hw.clockCap) start rig) :
    Exits (applyAnchoredUndervolt targetMhz anchorMv) rig
      (fun _ after => Framed start after ∧ AnchoredWritten card targetMhz anchorMv after.hw)
      (fun _ after => Stage (Restored card start.hw) start after) := by
  refine exits_bind (exits_adapt ((exits_resetAll (· = start.hw.clockCap) h).mono
    (fun _ reset hreset => ?_) fun _ after hfailed => hfailed.mono fun _ => False.elim))
  have hrestored {after : FaultyRig card} (h : Stage (fun hw => hw.clockCap = start.hw.clockCap ∧
      AllReset card hw) start after) : Stage (Restored card start.hw) start after :=
    h.mono fun _ hg => ⟨.inl hg.1, hg.2⟩
  have hkeeps : Keeps (Stage (fun hw => hw.clockCap = start.hw.clockCap ∧ AllReset card hw) start)
      (readVfBaseCurveModern : Driver card String _) :=
    keeps_readPoints (I := Stage _ start) fun _ h => h.next
  have hkeeps' : Keeps (Stage (fun hw => hw.clockCap = start.hw.clockCap ∧ AllReset card hw) start)
      (readVfCurveModern : Driver card String _) :=
    keeps_readPoints (I := Stage _ start) fun _ h => h.next
  refine exits_bind (((hkeeps reset hreset).and (exits_readVfBaseCurve reset)).mono
    (fun base read hread => ?_) fun _ _ herr => herr.2.elim)
  dsimp only
  split
  next => exact exits_throw (hrestored hread.1)
  next =>
    refine exits_bind ((hkeeps' read hread.1).mono (fun live reread hreread => ?_)
      fun _ _ herr => hrestored herr)
    split
    next => exact exits_throw (hrestored hreread)
    next boostTop _ =>
      split
      next => exact exits_throw (hrestored hreread)
      next anchorIdx hanchor =>
        have hsane : (base.filter fun bin => isF2SanePoint bin.mv bin.base).Sublist card.table :=
          List.filter_sublist.trans hread.2
        refine (exits_writeAnchored hsane (hreread.mono fun _ hg => hg.2.memOffset)).mono
          (fun _ after hafter => ?_) fun _ after herr => ?_
        · obtain ⟨hstage, hlock, hcap, plan, hwritten⟩ := hafter
          exact ⟨hstage.framed, hlock, hcap, _, anchorIdx, _, plan, hsane,
            selectExactApplyAnchorBin_mem hanchor, hwritten⟩
        · exact herr.mono fun _ hg => ⟨.inr hg.2.clockCap, hg.2.voltageLock, hg.2.coreOffset, hg.1,
            hg.2.zeroed⟩

theorem planVfCeiling_indices (curve : List VfBin) (ceilingMv targetMhz : Nat) :
    ((planVfCeiling curve ceilingMv targetMhz).map fun entry => entry.index) =
      curve.map VfBin.index := by
  simp [planVfCeiling, planVfCeilingEntry, Function.comp_def]

theorem live_indices (card : VfCard) (offsets : Nat → Int) :
    (card.readVfCurveModern offsets).map VfBin.index = card.table.map VfBin.index := by
  simp [VfCard.readVfCurveModern, VfBin.index, Function.comp_def]

/-- The whole ceiling of the points that were read. -/
structure CeilingWritten (curve : List VfBin) (ceilingMv targetMhz : Nat) (hw : Hardware) :
    Prop where
  read : curve ≠ []
  written : ∀ entry ∈ planVfCeiling curve ceilingMv targetMhz,
    hw.offsets entry.index = entry.desiredOffsetMhz

/-- Only the offsets of the curve have been written since. -/
structure CurveTouched (before after : FaultyRig card) : Prop where
  outcomes : after.outcomes = before.outcomes
  controls : ∀ offsets, { after.hw with offsets } = { before.hw with offsets }

theorem CurveTouched.next {before after : FaultyRig card} (h : CurveTouched before after) :
    CurveTouched before after.next := ⟨h.outcomes, h.controls⟩

theorem keeps_writeEach {α : Type} {refusal : α → Option String} {point : α → Nat × Int}
    {text : Nat → Fault → String} {I : FaultyRig card → Prop} (hnext : ∀ rig, I rig → I rig.next)
    (hset : ∀ rig index offset, I rig → I (rig.change fun hw =>
      { hw with offsets := Function.update hw.offsets index offset })) (entries : List α) :
    Keeps I (writeEach refusal point text entries) := by
  induction entries with
  | nil => exact keeps_pure _
  | cons entry entries ih =>
    intro rig h
    unfold writeEach
    cases refusal entry with
    | some reason => exact exits_throw h
    | none =>
      have hwritten := hnext _ (hset rig (point entry).1 (point entry).2 h)
      exact exits_bind (exits_adapt (exits_touch (ih _ hwritten) (fun _ => hwritten) fun _ =>
        hnext _ h))

theorem keeps_applyVfCeiling (before : FaultyRig card) (ceilingMv targetMhz : Nat) :
    Keeps (CurveTouched before) (applyVfCeiling ceilingMv targetMhz : Driver card String Nat) := by
  refine (keeps_readPoints fun _ h => h.next).bind fun curve => ?_
  split
  next => exact fun _ h => exits_throw h
  next =>
    exact (keeps_writeEach (fun _ h => h.next) (fun _ _ _ h => ⟨h.outcomes, h.controls⟩) _).bind
      fun _ => keeps_pure _

theorem exits_applyVfCeiling (ceilingMv targetMhz : Nat) (h : Framed start rig) :
    Exits (applyVfCeiling ceilingMv targetMhz) rig
      (fun _ after => Framed start after ∧
        CeilingWritten (rig.pointsRead rig.made) ceilingMv targetMhz after.hw)
      (fun _ after => Framed start after) := by
  refine exits_bind ((exits_readVfCurve rig).mono (fun curve read hread => ?_) fun _ _ =>
    False.elim)
  obtain ⟨rfl, rfl⟩ := hread
  have hstage : Stage (fun _ => True) start { rig with made := rig.made + card.table.length } :=
    ⟨⟨h.persisted, h.sticky, h.outside⟩, fun _ => trivial⟩
  split
  next => exact exits_throw hstage.framed
  next hne =>
    have hindices := planVfCeiling_indices (rig.pointsRead rig.made) ceilingMv targetMhz
    have hsub : ((rig.pointsRead rig.made).map VfBin.index).Sublist
        (card.table.map VfBin.index) := by
      rw [← live_indices card rig.hw.offsets]
      exact (pointsRead_sublist rig rig.made).map _
    refine exits_bind ((exits_writeEach (fun _ _ _ => trivial) _ ?_ (fun entry hentry => ?_)
      hstage).mono (fun _ after hafter => exits_pure ?_) fun _ _ herr => herr.framed)
    · exact hindices ▸ hsub.nodup card.distinct
    · exact hsub.subset (hindices ▸ List.mem_map_of_mem hentry)
    · exact ⟨hafter.1.framed, by simpa using hne, hafter.2.2.2⟩

/-- The clock that the offset of the fallback starts from: what the call `read` reads off the older
curve, with the offsets that stand by then, or the clock itself if that call fails. -/
def baseRead (before : FaultyRig card) (read : Nat) (offsets : Nat → Int) (point : VfPoint) : Nat :=
  if (before.outcomes read).answers then
    (Nidavellir.curveFreqAt card { before.hw with offsets } point.voltageMv).getD point.freqMhz
  else point.freqMhz

/-- A core point on the card after `made` calls: the whole ceiling, snapped to the first reading and
planned from the second, or the offset of the fallback, with its cap unless that call failed. -/
def CoreWritten (before : FaultyRig card) (point : VfPoint) (made : Nat) (hw : Hardware) : Prop :=
  ((before.outcomes before.made).answers = true ∧
    let live := before.pointsRead (before.made + 1)
    CeilingWritten (before.pointsRead (before.made + 1 + card.table.length))
      (chooseCeilingMv live point.voltageMv).1 point.freqMhz hw) ∨
  ∃ read, made = read + 3 ∧
    hw.coreOffset =
      max (-300) (min 400 ((point.freqMhz : Int) - baseRead before read hw.offsets point)) ∧
    ((before.outcomes (read + 2)).answers = true → hw.clockCap = some point.freqMhz)

theorem exits_fallbackCore {before : FaultyRig card} (point : VfPoint) (h : Framed start rig)
    (htouched : CurveTouched before rig) :
    Exits (fallbackCore point) rig
      (fun _ after => Framed start after ∧ CoreWritten before point after.made after.hw)
      (fun _ after => Framed start after) := by
  have hnext {rig : FaultyRig card} (h : Framed start rig) : Framed start rig.next :=
    ⟨h.persisted, h.sticky, h.outside⟩
  have htouch {rig : FaultyRig card} (h : Framed start rig) (f : Hardware → Hardware)
      (hf : (f rig.hw).offsets = rig.hw.offsets) : Framed start (rig.change f).next :=
    ⟨h.persisted, h.sticky, fun i hi => (congrFun hf i).trans (h.outside i hi)⟩
  have hwrite (base : Nat) (hbase : base = baseRead before rig.made rig.hw.offsets point) :
      Exits (do
        setCoreOffsetMhz (max (-300) (min 400 ((point.freqMhz : Int) - base)))
        let _ ← observe (lockCoreClockMaxMhz point.freqMhz)
        pure () : Driver card String Unit) rig.next
        (fun _ after => Framed start after ∧ CoreWritten before point after.made after.hw)
        (fun _ after => Framed start after) := by
    subst hbase
    have hset := htouch (hnext h) (fun hw => { hw with
      coreOffset := max (-300) (min 400 ((point.freqMhz : Int) -
        baseRead before rig.made rig.hw.offsets point)) }) rfl
    refine exits_bind (exits_adapt (exits_touch ?_ (fun _ => hset) fun _ => hnext (hnext h)))
    have hcap := htouch hset (fun hw => { hw with clockCap := some point.freqMhz }) rfl
    refine exits_bind (exits_observe (exits_adapt (exits_callAnswers (fun _ => ?_)
      (fun _ _ => ?_) fun _ hfail => ?_)))
    · exact exits_pure ⟨hcap, .inr ⟨rig.made, rfl, rfl, fun _ => rfl⟩⟩
    · exact exits_pure ⟨hcap, .inr ⟨rig.made, rfl, rfl, fun _ => rfl⟩⟩
    · refine exits_pure ⟨hnext hset, .inr ⟨rig.made, rfl, rfl, fun hdone => ?_⟩⟩
      rw [← htouched.outcomes] at hdone
      exact (Bool.false_ne_true (hfail.symm.trans hdone)).elim
  refine exits_bind (exits_bind (exits_observe (exits_lookAnswers (fun hdone => ?_)
    fun _ hfail => ?_)))
  · refine exits_pure (hwrite _ ?_)
    rw [htouched.outcomes] at hdone
    rw [baseRead, if_pos hdone, ← htouched.controls]
    rfl
  · refine exits_pure (hwrite _ ?_)
    rw [htouched.outcomes] at hfail
    rw [baseRead, if_neg (by simp [hfail])]
    rfl

theorem exits_applyCorePoint (point : VfPoint) (h : Framed start rig) :
    Exits (applyCorePoint point) rig
      (fun _ after => Framed start after ∧ CoreWritten rig point after.made after.hw)
      (fun _ after => Framed start after) := by
  have hprobed : Framed start rig.next := ⟨h.persisted, h.sticky, h.outside⟩
  have htouched : CurveTouched rig rig.next := ⟨rfl, fun _ => rfl⟩
  refine exits_bind (exits_bind (exits_observe (exits_lookAnswers (fun hdone => exits_pure ?_)
    fun _ _ => exits_pure ?_)))
  · refine exits_bind ((exits_readVfCurve rig.next).mono (fun live read hread => ?_) fun _ _ =>
      False.elim)
    obtain ⟨rfl, rfl⟩ := hread
    have hread : Framed start { rig.next with made := rig.next.made + card.table.length } :=
      ⟨h.persisted, h.sticky, h.outside⟩
    have hkept := keeps_applyVfCeiling rig
      (chooseCeilingMv (rig.next.pointsRead rig.next.made) point.voltageMv).1 point.freqMhz
      { rig.next with made := rig.next.made + card.table.length } ⟨rfl, fun _ => rfl⟩
    refine exits_bind (exits_observe (((exits_applyVfCeiling _ _ hread).and hkept).mono
      (fun _ after hafter => exits_pure ⟨hafter.1.1, .inl ⟨hdone, hafter.1.2⟩⟩)
      fun _ after hafter => exits_fallbackCore point hafter.1 hafter.2))
  · exact exits_fallbackCore point hprobed htouched

end Driver

/-- The applies over a card of which every call may fail; so may the writes of the boot flag and of
the persisted profile, whose own failure is ignored. -/
instance : GpuApplyOps (FaultyRig card) where
  armBootFlag _ _ :=
    exec (ExceptT.adapt Fault.error (Driver.call id))
  applyCore point := exec (Driver.applyCorePoint point)
  applyAnchoredUndervolt targetMhz anchorMv :=
    exec (Driver.applyAnchoredUndervolt targetMhz anchorMv)
  setMemOffsetMhz mhz := exec (Driver.setMemOffsetMhz mhz)
  resetToStock rig := ((), (exec (Driver.resetToStock : Driver card String Unit) rig).2)
  resetAll := exec Driver.resetAll
  nowRfc3339 rig := (rig.now, rig)
  saveApplied profile rig :=
    ((), (exec (Driver.call fun rig => { rig with persisted := some profile }) rig).2)
  spawnClear rig := ((), rig)

/-- No control keeps what an apply wrote: each is as it was before, or at stock. -/
structure NothingLeft (before after : Hardware) : Prop where
  offsets : ∀ i, after.offsets i = before.offsets i ∨ after.offsets i = 0
  clockCap : after.clockCap = before.clockCap ∨ after.clockCap = none
  voltageLock : after.voltageLock = before.voltageLock ∨ after.voltageLock = none
  memOffset : after.memOffset = before.memOffset ∨ after.memOffset = 0
  coreOffset : after.coreOffset = before.coreOffset ∨ after.coreOffset = 0

section Applies

variable {rig after : FaultyRig card} {label e : String} {targetMhz anchorMv : Nat}
  {core : Option VfPoint} {mem : Option Int}

theorem Driver.Stage.nothingLeft (h : Driver.Stage (Driver.Restored card rig.hw) rig after)
    (hok : after.resetsOk = true) : NothingLeft rig.hw after.hw := by
  obtain ⟨hcap, hreset⟩ := h.reached hok
  refine ⟨fun i => ?_, hcap, .inr hreset.voltageLock, .inr hreset.memOffset,
    .inr hreset.coreOffset⟩
  by_cases hi : i ∈ card.table.map VfBin.index
  · obtain ⟨bin, hbin, rfl⟩ := List.mem_map.mp hi
    exact .inr (hreset.zeroed bin hbin)
  · exact .inl (h.framed.outside i hi)

/-- Arming the flag is one call that touches nothing else. -/
theorem armed_next {intent : TuningPoint} {phase : String} {armed : Except String Unit}
    (h : armBootFlag intent phase rig = (armed, after)) : after = rig.next := by
  have hspec : Exits (ExceptT.adapt Fault.error (Driver.call id) : Driver card String Unit) rig
      (fun _ after => after = rig.next) (fun _ after => after = rig.next) :=
    exits_adapt (Driver.exits_call rfl (fun _ => rfl) fun _ => rfl)
  cases armed with
  | ok => exact hspec.ok_of_exec h
  | error e => exact hspec.err_of_exec h

/-- Saving the profile touches no hardware, and its own failure is ignored. -/
theorem persisted_ok {profile : Option String → AppliedProfile} {answer : Except String Unit}
    (h : persistApplied profile rig = (answer, after)) :
    answer = .ok () ∧ after.hw = rig.hw ∧ after.made = rig.made + 1 := by
  obtain ⟨rfl, rfl⟩ := Prod.mk.inj h
  refine ⟨rfl, ?_⟩
  change (rig.answer fun rig => { rig with persisted := some (profile (some rig.now)) }).2.hw =
      rig.hw ∧
    (rig.answer fun rig => { rig with persisted := some (profile (some rig.now)) }).2.made =
      rig.made + 1
  rcases rig.answer_cases _ with ⟨-, h⟩ | ⟨-, fault, h | h⟩
  · exact h ▸ ⟨rfl, rfl⟩
  · exact h ▸ ⟨rfl, rfl⟩
  · exact h ▸ ⟨rfl, rfl⟩

theorem stage_start (rig : FaultyRig card) :
    Driver.Stage (fun hw => hw.clockCap = rig.hw.clockCap) rig rig.next :=
  ⟨⟨rfl, id, fun _ _ => rfl⟩, fun _ => rfl⟩

/-- A memory write that fails is a write all the same; one that succeeds changes nothing else. -/
theorem exits_setMem {start : FaultyRig card} {mhz : Int} (h : Driver.Framed start rig) :
    Exits (Driver.setMemOffsetMhz mhz) rig
      (fun _ after => Driver.Framed start after ∧ after.hw = { rig.hw with memOffset := mhz } ∧
        after.made = rig.made + 1)
      (fun _ after => Driver.Framed start after) := by
  have hframed : Driver.Framed start (rig.change fun hw => { hw with memOffset := mhz }).next :=
    ⟨h.persisted, h.sticky, h.outside⟩
  exact exits_adapt (Driver.exits_touch ⟨hframed, rfl, rfl⟩ (fun _ => hframed) fun _ =>
    ⟨h.persisted, h.sticky, h.outside⟩)

/-- The resets after a memory write that failed. -/
theorem memory_refused {start r₁ r₂ : FaultyRig card} {reset : Except String Unit}
    (h : Driver.Framed start rig) (hstock : resetToStock rig = ((), r₁))
    (hall : resetAll r₁ = (reset, r₂)) :
    Driver.Stage (Driver.Restored card start.hw) start r₂ := by
  have hfirst : Exits (Driver.resetToStock : Driver card String Unit) rig
      (fun _ after => Driver.Stage (fun hw => True ∧ Driver.Stocked card hw) start after)
      fun _ _ => False :=
    Driver.exits_resetToStock (fun _ => True) ⟨h, fun _ => trivial⟩
  have hr₁ : (exec (Driver.resetToStock : Driver card String Unit) rig).2 = r₁ :=
    congrArg Prod.snd hstock
  have hstage := hfirst.of_no_error
  rw [hr₁] at hstage
  have hsecond := Driver.exits_resetAll (· = none) (hstage.mono fun _ hg => hg.2.clockCap)
  cases reset with
  | ok => exact (hsecond.ok_of_exec hall).mono fun _ hg => ⟨.inr hg.1, hg.2⟩
  | error e => exact (hsecond.err_of_exec hall).mono fun _ => False.elim

theorem core_applied {r₁ r₂ : FaultyRig card} {written : Except String Unit}
    (hframed : Driver.Framed rig r₁) (h : applySome core applyCore r₁ = (written, r₂)) :
    Driver.Framed rig r₂ ∧ (written = .ok () →
      ∀ point, core = some point → Driver.CoreWritten r₁ point r₂.made r₂.hw) := by
  cases core with
  | none =>
    obtain ⟨rfl, rfl⟩ := Prod.mk.inj h
    exact ⟨hframed, by simp⟩
  | some point =>
    have hspec := Driver.exits_applyCorePoint point hframed
    cases written with
    | error _ => exact ⟨hspec.err_of_exec h, by simp⟩
    | ok =>
      obtain ⟨hafter, hcore⟩ := hspec.ok_of_exec h
      exact ⟨hafter, fun _ _ heq => Option.some.inj heq ▸ hcore⟩

theorem mem_applied {r₁ r₂ : FaultyRig card} {written : Except String Unit}
    (hframed : Driver.Framed rig r₁) (h : applySome mem setMemOffsetMhz r₁ = (written, r₂)) :
    Driver.Framed rig r₂ ∧ (written = .ok () →
      r₂.hw = { r₁.hw with memOffset := mem.getD r₁.hw.memOffset } ∧
        r₂.made = r₁.made + mem.toList.length) := by
  cases mem with
  | none =>
    obtain ⟨rfl, rfl⟩ := Prod.mk.inj h
    exact ⟨hframed, fun _ => ⟨rfl, rfl⟩⟩
  | some mhz =>
    have hspec : Exits (Driver.setMemOffsetMhz mhz) r₁ _ _ := exits_setMem hframed
    cases written with
    | error _ => exact ⟨hspec.err_of_exec h, by simp⟩
    | ok =>
      obtain ⟨hafter, hhw⟩ := hspec.ok_of_exec h
      exact ⟨hafter, fun _ => hhw⟩

/-- The memory offset is no part of an anchored undervolt. -/
theorem Driver.AnchoredWritten.setMem {hw : Hardware}
    (h : Driver.AnchoredWritten card targetMhz anchorMv hw) (memOffset : Int) :
    Driver.AnchoredWritten card targetMhz anchorMv { hw with memOffset } where
  voltageLock := h.voltageLock
  clockCap := h.clockCap
  curve := by
    obtain ⟨sane, anchorIdx, limits, plan, hsane, hanchor, hcurve⟩ := h.curve
    exact ⟨sane, anchorIdx, limits, plan, hsane, hanchor, hcurve.planned, hcurve.written⟩

theorem Driver.CoreWritten.setMem {before : FaultyRig card} {point : VfPoint} {made : Nat}
    {hw : Hardware} (h : Driver.CoreWritten before point made hw) (memOffset : Int) :
    Driver.CoreWritten before point made { hw with memOffset } :=
  h.imp (fun hceiling => ⟨hceiling.1, hceiling.2.read, hceiling.2.written⟩) id

/-- An anchored undervolt that fails: whatever it wrote is gone. One that succeeds wrote it all. -/
theorem undervolt_cases {answer : Except String Unit}
    (h : applyAndPersistUndervolt label targetMhz anchorMv mem rig = (answer, after)) :
    (∃ e, answer = .error e) ∧
        (Driver.Stage (Driver.Restored card rig.hw) rig after ∨ after = rig.next) ∨
      answer = .ok () ∧ Driver.AnchoredWritten card targetMhz anchorMv after.hw ∧
        ∀ mhz, mem = some mhz → after.hw.memOffset = mhz := by
  unfold applyAndPersistUndervolt at h
  rcases harm : armBootFlag (undervoltIntent targetMhz anchorMv mem) "gpu_apply_undervolt" rig with
    ⟨armed, r₁⟩
  obtain rfl := armed_next harm
  rw [harm] at h
  cases armed with
  | error _ =>
    obtain ⟨rfl, rfl⟩ := Prod.mk.inj h
    exact .inl ⟨⟨_, rfl⟩, .inr rfl⟩
  | ok =>
    have hspec := Driver.exits_applyAnchoredUndervolt targetMhz anchorMv rig rig.next
      (stage_start rig)
    rcases hcore : applyAnchoredUndervolt targetMhz anchorMv rig.next with ⟨written, r₂⟩
    simp only [hcore] at h
    cases written with
    | error _ =>
      obtain ⟨rfl, rfl⟩ := Prod.mk.inj h
      exact .inl ⟨⟨_, rfl⟩, .inl (hspec.err_of_exec hcore)⟩
    | ok =>
      obtain ⟨hframed, hwritten⟩ := hspec.ok_of_exec hcore
      rcases hmem : applySome mem setMemOffsetMhz r₂ with ⟨set, r₃⟩
      obtain ⟨hlast, hset⟩ := mem_applied hframed hmem
      simp only [hmem] at h
      cases set with
      | error _ =>
        rcases hstock : resetToStock r₃ with ⟨_, r₄⟩
        rcases hall : resetAll r₄ with ⟨reset, r₅⟩
        have hstage := memory_refused hlast hstock hall
        simp only [hstock, hall] at h
        cases reset with
        | ok =>
          obtain ⟨rfl, rfl⟩ := Prod.mk.inj h
          exact .inl ⟨⟨_, rfl⟩, .inl hstage⟩
        | error _ =>
          obtain ⟨rfl, rfl⟩ := Prod.mk.inj h
          exact .inl ⟨⟨_, rfl⟩, .inl hstage⟩
      | ok =>
        obtain ⟨hok, hhw, -⟩ := persisted_ok h
        refine .inr ⟨hok, ?_⟩
        rw [hhw, (hset rfl).1]
        exact ⟨hwritten.setMem _, fun mhz hmhz => by rw [hmhz]; rfl⟩

/-- A profile that fails is not persisted, one that succeeds wrote its parts. -/
theorem profile_cases {answer : Except String Unit}
    (h : applyAndPersist label core mem rig = (answer, after)) :
    (∃ e, answer = .error e) ∧ after.persisted = rig.persisted ∨
      answer = .ok () ∧
        (∀ point, core = some point → ∃ made, after.made = made + mem.toList.length + 1 ∧
          Driver.CoreWritten rig.next point made after.hw) ∧
        ∀ mhz, mem = some mhz → after.hw.memOffset = mhz := by
  unfold applyAndPersist at h
  rcases harm : armBootFlag (applyIntent core mem) "gpu_apply" rig with ⟨armed, r₁⟩
  obtain rfl := armed_next harm
  rw [harm] at h
  have hstart : Driver.Framed rig rig.next := ⟨rfl, id, fun _ _ => rfl⟩
  cases armed with
  | error _ =>
    obtain ⟨rfl, rfl⟩ := Prod.mk.inj h
    exact .inl ⟨⟨_, rfl⟩, rfl⟩
  | ok =>
    rcases hcore : applySome core applyCore rig.next with ⟨written, r₂⟩
    obtain ⟨hframed, hwritten⟩ := core_applied hstart hcore
    simp only [hcore] at h
    cases written with
    | error _ =>
      obtain ⟨rfl, rfl⟩ := Prod.mk.inj h
      exact .inl ⟨⟨_, rfl⟩, hframed.persisted⟩
    | ok =>
      rcases hmem : applySome mem setMemOffsetMhz r₂ with ⟨set, r₃⟩
      obtain ⟨hlast, hset⟩ := mem_applied hframed hmem
      simp only [hmem] at h
      cases set with
      | error _ =>
        obtain ⟨rfl, rfl⟩ := Prod.mk.inj h
        exact .inl ⟨⟨_, rfl⟩, hlast.persisted⟩
      | ok =>
        obtain ⟨hok, hhw, hmade⟩ := persisted_ok h
        obtain ⟨hmem, hcount⟩ := hset rfl
        refine .inr ⟨hok, fun point hpoint => ⟨r₂.made, by rw [hmade, hcount], ?_⟩,
          fun mhz hmhz => ?_⟩
        · rw [hhw, hmem]
          exact (hwritten rfl point hpoint).setMem _
        · rw [hhw, hmem, hmhz]
          rfl

end Applies

/-- For every outcome of the calls: an anchored undervolt that fails leaves nothing of itself behind
resets that succeed, and one that succeeds wrote every part; a profile that fails is not persisted,
and one that succeeds wrote its memory offset and its core point, the cap of the fallback apart. -/
theorem failedApply_atomic {card : VfCard} (rig : FaultyRig card) :
    (∀ label targetMhz anchorMv mem e after,
      applyAndPersistUndervolt label targetMhz anchorMv mem rig = (.error e, after) →
        after.persisted = rig.persisted ∧
          (after.resetsOk = true → NothingLeft rig.hw after.hw)) ∧
    (∀ label targetMhz anchorMv mem after,
      applyAndPersistUndervolt label targetMhz anchorMv mem rig = (.ok (), after) →
        Driver.AnchoredWritten card targetMhz anchorMv after.hw ∧
          ∀ mhz, mem = some mhz → after.hw.memOffset = mhz) ∧
    (∀ label core mem e after, applyAndPersist label core mem rig = (.error e, after) →
      after.persisted = rig.persisted) ∧
    ∀ label core mem after, applyAndPersist label core mem rig = (.ok (), after) →
      (∀ point, core = some point → ∃ made, after.made = made + mem.toList.length + 1 ∧
        Driver.CoreWritten rig.next point made after.hw) ∧
      ∀ mhz, mem = some mhz → after.hw.memOffset = mhz := by
  refine ⟨?_, ?_, ?_, ?_⟩
  · intro label targetMhz anchorMv mem e after h
    rcases undervolt_cases h with ⟨-, hstage | rfl⟩ | ⟨hok, -⟩
    · exact ⟨hstage.framed.persisted, hstage.nothingLeft⟩
    · exact ⟨rfl, fun _ => ⟨fun _ => .inl rfl, .inl rfl, .inl rfl, .inl rfl, .inl rfl⟩⟩
    · cases hok
  · intro label targetMhz anchorMv mem after h
    rcases undervolt_cases h with ⟨⟨_, herror⟩, -⟩ | ⟨-, hwritten⟩
    · cases herror
    · exact hwritten
  · intro label core mem e after h
    rcases profile_cases h with ⟨-, hpersisted⟩ | ⟨hok, -⟩
    · exact hpersisted
    · cases hok
  · intro label core mem after h
    rcases profile_cases h with ⟨⟨_, herror⟩, -⟩ | ⟨-, hwritten⟩
    · cases herror
    · exact hwritten

/-- An older card, at stock. -/
def legacyCard : VfCard where
  table := []
  distinct := List.nodup_nil
  legacyCurve _ := some [(800, 1500)]

def legacyRig (failing : List Nat) : FaultyRig legacyCard where
  hw := .stock
  persisted := none
  now := "2026-07-16T00:00:00Z"
  lockEntry := none
  outcomes n := if failing.contains n then .failed false ⟨-1, "NoImplementation"⟩ else .done
  made := 0
  resetsOk := true

/-- A profile is reported applied without its cap; and one whose memory write fails stays on the
card. -/
theorem profile_partly_written :
    (∃ after, applyAndPersist "Custom" (some ⟨1600, 800⟩) none (legacyRig [1, 4]) =
        (.ok (), after) ∧ after.hw.coreOffset = 100 ∧ after.hw.clockCap = none ∧
          after.resetsOk = true) ∧
    ∃ e after, applyAndPersist "Custom" (some ⟨1600, 800⟩) (some 500) (legacyRig [1, 5]) =
        (.error e, after) ∧ after.resetsOk = true ∧
          ¬ NothingLeft (legacyRig [1, 5]).hw after.hw := by
  refine ⟨⟨_, rfl, rfl, rfl, rfl⟩, _, _, rfl, rfl, fun h => ?_⟩
  rcases h.coreOffset with hcore | hcore
  · exact absurd hcore (by decide)
  · exact absurd hcore (by decide)

/-- A card that nothing was written to does not count as carrying the point. -/
example : ¬ Driver.CoreWritten (legacyRig []).next ⟨1600, 800⟩ 5 .stock := by
  rintro (⟨-, hceiling⟩ | ⟨read, hread, hoffset, -⟩)
  · exact hceiling.read rfl
  · obtain rfl : read = 2 := by omega
    exact absurd hoffset (by decide)

end Nidavellir

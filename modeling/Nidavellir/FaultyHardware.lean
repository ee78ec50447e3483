import Nidavellir.Lib.Attempt
import Nidavellir.VfHardware

namespace Nidavellir

open Attempt

/-- What a failed call reports: the status of a point write, the error of the others. -/
structure Fault where
  status : Int
  error : String

/-- How one call of the driver turns out; a call that failed may still have had its effect. -/
inductive CallOutcome
  | done
  | failed (effect : Bool) (fault : Fault)

def CallOutcome.answers : CallOutcome → Bool
  | .done => true
  | .failed .. => false

/-- The points that answer, when the call `made` asks for the first. -/
def answered (outcomes : Nat → CallOutcome) : Nat → List VfBin → List VfBin
  | _, [] => []
  | made, point :: rest =>
    if (outcomes made).answers then point :: answered outcomes (made + 1) rest
    else answered outcomes (made + 1) rest

theorem answered_sublist (outcomes : Nat → CallOutcome) (made : Nat) (points : List VfBin) :
    (answered outcomes made points).Sublist points := by
  induction points generalizing made with
  | nil => exact .slnil
  | cons point points ih =>
    unfold answered
    split
    next => exact (ih _).cons_cons point
    next => exact (ih _).cons point

/-- A card of which every call may fail, and the profile persisted for it. `resetsOk` holds while
every call of the stock resets succeeded. `lockEntry` is the writable entry of the lock table. -/
structure FaultyRig (card : VfCard) where
  hw : Hardware
  persisted : Option AppliedProfile
  now : String
  lockEntry : Option Nat
  outcomes : Nat → CallOutcome
  made : Nat
  resetsOk : Bool

abbrev Driver (card : VfCard) (ε α : Type) := Prog (FaultyRig card) ε α

variable {card : VfCard} {ε α : Type}

namespace FaultyRig

def next (rig : FaultyRig card) : FaultyRig card := { rig with made := rig.made + 1 }

def change (f : Hardware → Hardware) (rig : FaultyRig card) : FaultyRig card :=
  { rig with hw := f rig.hw }

/-- The live curve, read from the call `made` on. -/
def pointsRead (rig : FaultyRig card) (made : Nat) : List VfBin :=
  answered rig.outcomes made (card.readVfCurveModern rig.hw.offsets)

/-- The answer of the next call, with its effect if it has one. -/
def answer (effect : FaultyRig card → FaultyRig card) (rig : FaultyRig card) :
    Except Fault Unit × FaultyRig card :=
  match rig.outcomes rig.made with
  | .done => (.ok (), (effect rig).next)
  | .failed true fault => (.error fault, (effect rig).next)
  | .failed false fault => (.error fault, rig.next)

theorem answer_cases (effect : FaultyRig card → FaultyRig card) (rig : FaultyRig card) :
    (rig.outcomes rig.made).answers = true ∧ rig.answer effect = (.ok (), (effect rig).next) ∨
      (rig.outcomes rig.made).answers = false ∧
        ∃ fault, rig.answer effect = (.error fault, (effect rig).next) ∨
          rig.answer effect = (.error fault, rig.next) := by
  unfold answer
  rcases rig.outcomes rig.made with _ | ⟨_ | _, fault⟩
  · exact .inl ⟨rfl, rfl⟩
  · exact .inr ⟨rfl, fault, .inr rfl⟩
  · exact .inr ⟨rfl, fault, .inl rfl⟩

end FaultyRig

namespace Driver

def call (effect : FaultyRig card → FaultyRig card) : Driver card Fault Unit :=
  ExceptT.mk (FaultyRig.answer effect)

/-- A write of the hardware. -/
def touch (f : Hardware → Hardware) : Driver card Fault Unit := call (FaultyRig.change f)

/-- A read, truthful when it succeeds. -/
def look (value : FaultyRig card → α) : Driver card Fault α := do
  call id
  return value (← get)

def markUnreset : Driver card ε Unit := modify fun rig => { rig with resetsOk := false }

/-- A part of a stock reset. -/
def resetting (part : Driver card ε α) : Driver card ε α := do
  match ← observe part with
  | .ok a => pure a
  | .error e =>
    markUnreset
    throw e

def setPoint (index : Nat) (offsetMhz : Int) : Driver card Fault Unit :=
  touch fun hw => { hw with offsets := Function.update hw.offsets index offsetMhz }

def getPointKhz (index : Nat) : Driver card Fault Int :=
  look fun rig => rig.hw.offsets index * 1000

def vfCurveSupported : Driver card ε Bool := do
  return (← observe (look fun _ => ())).isOk

/-- The points that answer, in order. -/
def readPoints (value : FaultyRig card → VfBin → VfBin) :
    List VfBin → Driver card ε (List VfBin)
  | [] => pure []
  | bin :: rest => do
    let point ← observe (look fun rig => value rig bin)
    let points ← readPoints value rest
    return point.toOption.toList ++ points

def readVfCurveModern : Driver card ε (List VfBin) :=
  readPoints
    (fun rig bin => (bin.index, bin.mv, ((bin.base : Int) + rig.hw.offsets bin.index).toNat))
    card.table

def readVfBaseCurveModern : Driver card ε (List VfBin) := readPoints (fun _ bin => bin) card.table

/-- Whether the point counts; one whose status does not read is skipped. -/
def resetVfPoint (bin : VfBin) : Driver card String Bool := do
  match ← observe (look fun _ => ()) with
  | .error _ =>
    markUnreset
    return false
  | .ok () =>
    ExceptT.adapt (fun f => s!"VF reset: set_point({bin.index}) status {f.status}")
      (setPoint bin.index 0)
    match ← observe (getPointKhz bin.index) with
    | .error _ => throw s!"VF reset: point {bin.index} readback unavailable"
    | .ok khz =>
      if khz.natAbs ≤ 1000 then return true
      else throw s!"VF reset: point {bin.index} still has {khz} kHz offset"

def resetVfPoints : List VfBin → Driver card String Nat
  | [] => pure 0
  | bin :: rest => do
    let counted ← resetVfPoint bin
    let n ← resetVfPoints rest
    return if counted then n + 1 else n

def resetVfCurveChecked : Driver card String Nat := resetVfPoints card.table

def setCoreOffsetMhz (mhz : Int) : Driver card String Unit :=
  ExceptT.adapt (fun f => s!"set_pstates failed: {f.error}")
    (touch fun hw => { hw with coreOffset := mhz })

def setMemOffsetMhz (mhz : Int) : Driver card String Unit :=
  ExceptT.adapt (fun f => s!"set_pstates(memory) failed: {f.error}")
    (touch fun hw => { hw with memOffset := mhz })

def lockCoreClockMaxMhz (maxMhz : Nat) : Driver card String Unit :=
  ExceptT.adapt (fun f => s!"set_gpu_locked_clocks: {f.error}")
    (touch fun hw => { hw with clockCap := some maxMhz })

def resetCoreClockLock : Driver card String Unit :=
  ExceptT.adapt (fun f => s!"reset_gpu_locked_clocks: {f.error}")
    (touch fun hw => { hw with clockCap := none })

def unlockCoreVoltage : Driver card String Unit := do
  ExceptT.adapt (fun f => s!"get_vfp_locks before unlock failed: {f.error}") (look fun _ => ())
  ExceptT.adapt (fun f => s!"set_vfp_locks(all None) failed: {f.error}")
    (touch fun hw => { hw with voltageLock := none })

/-- Every entry is cleared before the last one is set. -/
def lockCoreVoltageMv (mv : Nat) : Driver card String Nat := do
  let entry ← ExceptT.adapt (fun f => s!"get_vfp_locks before write failed: {f.error}")
    (look FaultyRig.lockEntry)
  match entry with
  | none => throw "ClockBoostLock table has no writable entries"
  | some entryId =>
    ExceptT.adapt (fun f => s!"clear_vfp_locks before entry {entryId} failed: {f.error}")
      (touch fun hw => { hw with voltageLock := none })
    ExceptT.adapt (fun f => s!"set_vfp_locks entry {entryId} failed: {f.error}")
      (touch fun hw => { hw with voltageLock := some mv })
    return entryId

def readCoreVoltageLockMv : Driver card String (Option Nat) :=
  ExceptT.adapt (fun f => s!"get_vfp_locks readback failed: {f.error}")
    (look fun rig => rig.hw.voltageLock)

/-- A lock that the table holds shows at the first readback. -/
def lockCoreVoltageVerified (anchorMv : Nat) : Driver card String Unit := do
  let entryId ← ExceptT.adapt (fun e => s!"voltage lock at {anchorMv} mV failed: {e}")
    (lockCoreVoltageMv anchorMv)
  match ← ExceptT.adapt (fun e => s!"voltage lock readback failed: {e}") readCoreVoltageLockMv with
  | none =>
    throw (s!"voltage lock at {anchorMv} mV was not retained in ClockBoostLock entry " ++
      s!"{entryId} after 1 s")
  | some observed =>
    if observed = anchorMv then pure ()
    else
      throw (s!"voltage lock readback mismatch after 1 s: requested {anchorMv} mV in entry " ++
        s!"{entryId}, observed [CoreVoltageLock \x7b entry_id: {entryId}, " ++
        s!"voltage_mv: {observed} \x7d]")

/-- A curve that is not probed stays as it is, which resets it only where there are no points. -/
def skipCurve : Driver card ε Unit :=
  modify fun rig => { rig with resetsOk := rig.resetsOk && card.table.isEmpty }

def resetAll : Driver card String Unit := resetting do
  unlockCoreVoltage
  setCoreOffsetMhz 0
  setMemOffsetMhz 0
  if ← vfCurveSupported then
    let _ ← resetVfCurveChecked
    pure ()
  else skipCurve

/-- Every part is attempted, whatever became of the others. -/
def resetToStock : Driver card ε Unit := do
  let _ ← observe (resetting unlockCoreVoltage)
  let _ ← observe (resetting (setCoreOffsetMhz 0))
  let _ ← observe (resetting resetVfCurveChecked)
  let _ ← observe (resetting resetCoreClockLock)
  pure ()

variable {I : FaultyRig card → Prop} {rig : FaultyRig card}

theorem exits_callAnswers {effect : FaultyRig card → FaultyRig card}
    {ok : Unit → FaultyRig card → Prop} {err : Fault → FaultyRig card → Prop}
    (hdone : (rig.outcomes rig.made).answers = true → ok () (effect rig).next)
    (hlate : ∀ fault, (rig.outcomes rig.made).answers = false → err fault (effect rig).next)
    (hfail : ∀ fault, (rig.outcomes rig.made).answers = false → err fault rig.next) :
    Exits (call effect) rig ok err := by
  have hexec : exec (call effect) rig = rig.answer effect := rfl
  unfold Exits
  rw [hexec]
  rcases rig.answer_cases effect with ⟨hanswers, h⟩ | ⟨hanswers, fault, h | h⟩
  · rw [h]
    exact hdone hanswers
  · rw [h]
    exact hlate fault hanswers
  · rw [h]
    exact hfail fault hanswers

theorem exits_call {effect : FaultyRig card → FaultyRig card}
    {ok : Unit → FaultyRig card → Prop} {err : Fault → FaultyRig card → Prop}
    (hdone : ok () (effect rig).next) (hlate : ∀ fault, err fault (effect rig).next)
    (hfail : ∀ fault, err fault rig.next) : Exits (call effect) rig ok err :=
  exits_callAnswers (fun _ => hdone) (fun fault _ => hlate fault) fun fault _ => hfail fault

theorem exits_touch {f : Hardware → Hardware} {ok : Unit → FaultyRig card → Prop}
    {err : Fault → FaultyRig card → Prop} (hdone : ok () (rig.change f).next)
    (hlate : ∀ fault, err fault (rig.change f).next) (hfail : ∀ fault, err fault rig.next) :
    Exits (touch f) rig ok err :=
  exits_call hdone hlate hfail

theorem exits_lookAnswers {value : FaultyRig card → α} {ok : α → FaultyRig card → Prop}
    {err : Fault → FaultyRig card → Prop}
    (hdone : (rig.outcomes rig.made).answers = true → ok (value rig.next) rig.next)
    (hfail : ∀ fault, (rig.outcomes rig.made).answers = false → err fault rig.next) :
    Exits (look value) rig ok err :=
  exits_bind (exits_callAnswers hdone hfail hfail)

theorem exits_look {value : FaultyRig card → α} {ok : α → FaultyRig card → Prop}
    {err : Fault → FaultyRig card → Prop} (hdone : ok (value rig.next) rig.next)
    (hfail : ∀ fault, err fault rig.next) : Exits (look value) rig ok err :=
  exits_lookAnswers (fun _ => hdone) fun fault _ => hfail fault

theorem keeps_look (hI : ∀ rig, I rig → I rig.next) {value : FaultyRig card → α} :
    Keeps I (look value) :=
  fun rig h => exits_look (hI rig h) fun _ => hI rig h

theorem keeps_readPoints (hI : ∀ rig, I rig → I rig.next)
    {value : FaultyRig card → VfBin → VfBin} {bins : List VfBin} :
    Keeps I (readPoints value bins : Driver card ε _) := by
  induction bins with
  | nil => exact keeps_pure _
  | cons bin bins ih =>
    exact (keeps_look hI).observe.bind fun point => ih.bind fun points => keeps_pure _

/-- Reading leaves all but the count of the calls alone, and gives the points that answer. -/
theorem exits_readPoints {value : FaultyRig card → VfBin → VfBin}
    (hvalue : ∀ rig, value rig.next = value rig) (bins : List VfBin) (rig : FaultyRig card) :
    Exits (readPoints value bins : Driver card ε _) rig
      (fun points after => points = answered rig.outcomes rig.made (bins.map (value rig)) ∧
        after = { rig with made := rig.made + bins.length }) fun _ _ => False := by
  induction bins generalizing rig with
  | nil => exact exits_pure ⟨rfl, rfl⟩
  | cons bin bins ih =>
    have hrest := ih rig.next
    have hcount : rig.next.made + bins.length = rig.made + (bin :: bins).length := by
      simp only [FaultyRig.next, List.length_cons]
      omega
    rw [hvalue, hcount] at hrest
    refine exits_bind (exits_observe (exits_lookAnswers (fun hdone => ?_) fun fault hfail => ?_))
    · refine exits_bind (hrest.mono (fun points _ hread => exits_pure ⟨?_, hread.2⟩) fun _ _ => id)
      change value rig.next bin :: points = _
      rw [hvalue, hread.1, List.map_cons, answered, if_pos hdone]
      rfl
    · refine exits_bind (hrest.mono (fun points _ hread => exits_pure ⟨?_, hread.2⟩) fun _ _ => id)
      change points = _
      rw [hread.1, List.map_cons, answered, if_neg (by simp [hfail])]
      rfl

theorem exits_readVfBaseCurve (rig : FaultyRig card) :
    Exits (readVfBaseCurveModern : Driver card ε _) rig
      (fun points _ => points.Sublist card.table) fun _ _ => False := by
  refine (exits_readPoints (fun _ => rfl) card.table rig).mono (fun points _ hread => ?_)
    fun _ _ => id
  rw [hread.1, List.map_id']
  exact answered_sublist ..

theorem exits_readVfCurve (rig : FaultyRig card) :
    Exits (readVfCurveModern : Driver card ε _) rig
      (fun points after => points = rig.pointsRead rig.made ∧
        after = { rig with made := rig.made + card.table.length }) fun _ _ => False :=
  exits_readPoints (fun _ => rfl) card.table rig

theorem pointsRead_sublist (rig : FaultyRig card) (made : Nat) :
    (rig.pointsRead made).Sublist (card.readVfCurveModern rig.hw.offsets) :=
  answered_sublist ..

/-- What no call changes: the persisted profile, and what lies outside the table. A reset that
failed is not forgotten. -/
structure Framed (before after : FaultyRig card) : Prop where
  persisted : after.persisted = before.persisted
  sticky : after.resetsOk = true → before.resetsOk = true
  outside : ∀ i ∉ card.table.map VfBin.index, after.hw.offsets i = before.hw.offsets i

/-- What a pass over some points leaves: the other controls and the other points as they were. -/
structure CurveOnly (bins : List VfBin) (before after : FaultyRig card) : Prop where
  persisted : after.persisted = before.persisted
  sticky : after.resetsOk = true → before.resetsOk = true
  outside : ∀ i ∉ bins.map VfBin.index, after.hw.offsets i = before.hw.offsets i
  clockCap : after.hw.clockCap = before.hw.clockCap
  voltageLock : after.hw.voltageLock = before.hw.voltageLock
  memOffset : after.hw.memOffset = before.hw.memOffset
  coreOffset : after.hw.coreOffset = before.hw.coreOffset

theorem CurveOnly.cons {bin : VfBin} {bins : List VfBin} {before between after : FaultyRig card}
    (hfirst : CurveOnly [bin] before between) (hrest : CurveOnly bins between after) :
    CurveOnly (bin :: bins) before after where
  persisted := hrest.persisted.trans hfirst.persisted
  sticky := hfirst.sticky ∘ hrest.sticky
  outside := by
    intro i hi
    rw [List.map_cons, List.mem_cons, not_or] at hi
    rw [hrest.outside i hi.2, hfirst.outside i (by simpa using hi.1)]
  clockCap := hrest.clockCap.trans hfirst.clockCap
  voltageLock := hrest.voltageLock.trans hfirst.voltageLock
  memOffset := hrest.memOffset.trans hfirst.memOffset
  coreOffset := hrest.coreOffset.trans hfirst.coreOffset

theorem curveOnly_same {bins : List VfBin} {before after : FaultyRig card}
    (hhw : after.hw = before.hw) (hpersisted : after.persisted = before.persisted)
    (hsticky : after.resetsOk = true → before.resetsOk = true) :
    CurveOnly bins before after :=
  ⟨hpersisted, hsticky, fun _ _ => by rw [hhw], by rw [hhw], by rw [hhw], by rw [hhw], by rw [hhw]⟩

theorem curveOnly_setPoint {bin : VfBin} {offset : Int} {before after : FaultyRig card}
    (hhw : after.hw =
      { before.hw with offsets := Function.update before.hw.offsets bin.index offset })
    (hpersisted : after.persisted = before.persisted)
    (hresets : after.resetsOk = before.resetsOk) : CurveOnly [bin] before after where
  persisted := hpersisted
  sticky := by simp [hresets]
  outside := by
    intro i hi
    rw [hhw]
    exact Function.update_of_ne (by simpa using hi) ..
  clockCap := by rw [hhw]
  voltageLock := by rw [hhw]
  memOffset := by rw [hhw]
  coreOffset := by rw [hhw]

theorem exits_resetVfPoint (bin : VfBin) (rig : FaultyRig card) :
    Exits (resetVfPoint bin) rig
      (fun _ after => CurveOnly [bin] rig after ∧
        (after.resetsOk = true → after.hw.offsets bin.index = 0))
      (fun _ after => CurveOnly [bin] rig after) := by
  refine exits_bind (exits_observe (exits_look ?_ fun fault => ?_))
  · dsimp only
    have hset : ∀ after : FaultyRig card,
        after.hw = { rig.hw with offsets := Function.update rig.hw.offsets bin.index 0 } →
        after.persisted = rig.persisted → after.resetsOk = rig.resetsOk →
        CurveOnly [bin] rig after := fun _ => curveOnly_setPoint
    refine exits_bind (exits_adapt (exits_touch ?_ (fun _ => hset _ rfl rfl rfl) fun _ =>
      curveOnly_same rfl rfl id))
    refine exits_bind (exits_observe (exits_look ?_ fun _ => exits_throw (hset _ rfl rfl rfl)))
    dsimp only
    split
    next => exact exits_pure ⟨hset _ rfl rfl rfl, fun _ => Function.update_self ..⟩
    next => exact exits_throw (hset _ rfl rfl rfl)
  · have hskip : CurveOnly [bin] rig { rig.next with resetsOk := false } :=
      curveOnly_same rfl rfl (by simp)
    exact exits_bind (exits_modify (exits_pure ⟨hskip, by simp⟩))

/-- A reset of the curve that reports success zeroed every point, unless it skipped one. -/
theorem exits_resetVfPoints (bins : List VfBin) (rig : FaultyRig card) :
    Exits (resetVfPoints bins) rig
      (fun _ after => CurveOnly bins rig after ∧
        (after.resetsOk = true → ∀ bin ∈ bins, after.hw.offsets bin.index = 0))
      (fun _ after => CurveOnly bins rig after) := by
  induction bins generalizing rig with
  | nil => exact exits_pure ⟨curveOnly_same rfl rfl id, by simp⟩
  | cons bin bins ih =>
    refine exits_bind ((exits_resetVfPoint bin rig).mono ?_ ?_)
    · intro counted between hfirst
      refine exits_bind ((ih between).mono (fun n after hrest => exits_pure ?_)
        fun _ after hrest => hfirst.1.cons hrest)
      refine ⟨hfirst.1.cons hrest.1, fun hok bin' hbin' => ?_⟩
      rcases List.mem_cons.mp hbin' with rfl | hmem
      · by_cases hagain : bin'.index ∈ bins.map VfBin.index
        · obtain ⟨other, hother, heq⟩ := List.mem_map.mp hagain
          rw [← heq]
          exact hrest.2 hok other hother
        · rw [hrest.1.outside _ hagain]
          exact hfirst.2 (hrest.1.sticky hok)
      · exact hrest.2 hok bin' hmem
    · intro _ between hfirst
      exact hfirst.cons (curveOnly_same rfl rfl id)

theorem exits_resetting {p : Driver card ε α} {ok : α → FaultyRig card → Prop}
    {err : ε → FaultyRig card → Prop}
    (h : Exits p rig ok fun e after => err e { after with resetsOk := false }) :
    Exits (resetting p) rig ok err :=
  exits_bind (exits_observe (h.mono (fun _ _ hok => exits_pure hok) fun _ _ herr =>
    exits_bind (exits_modify (exits_throw herr))))

def Zeroed (card : VfCard) (hw : Hardware) : Prop := ∀ bin ∈ card.table, hw.offsets bin.index = 0

/-- How far the resets have brought the hardware, unless one of their calls failed. -/
structure Stage (reached : Hardware → Prop) (start rig : FaultyRig card) : Prop where
  framed : Framed start rig
  reached : rig.resetsOk = true → reached rig.hw

section Stages

variable {start : FaultyRig card} {G G' : Hardware → Prop}

theorem Stage.mono (h : Stage G start rig) (hG : ∀ hw, G hw → G' hw) : Stage G' start rig :=
  ⟨h.framed, fun hok => hG _ (h.reached hok)⟩

theorem Stage.failed (h : Framed start rig) : Stage G start { rig with resetsOk := false } :=
  ⟨⟨h.persisted, by simp, h.outside⟩, by simp⟩

/-- A write that leaves the curve alone. -/
theorem Stage.change {f : Hardware → Hardware} (h : Stage G start rig)
    (hcurve : ∀ hw, (f hw).offsets = hw.offsets) (hG : ∀ hw, G hw → G' (f hw)) :
    Stage G' start (rig.change f).next where
  framed := ⟨h.framed.persisted, h.framed.sticky, fun i hi =>
    (congrFun (hcurve rig.hw) i).trans (h.framed.outside i hi)⟩
  reached := fun hok => hG _ (h.reached hok)

theorem Stage.next (h : Stage G start rig) : Stage G start rig.next :=
  ⟨⟨h.framed.persisted, h.framed.sticky, h.framed.outside⟩, h.reached⟩

theorem Framed.curve {after : FaultyRig card} (h : Framed start rig)
    (hcurve : CurveOnly card.table rig after) : Framed start after :=
  ⟨hcurve.persisted.trans h.persisted, h.sticky ∘ hcurve.sticky,
    fun i hi => (hcurve.outside i hi).trans (h.outside i hi)⟩

/-- One write of a reset; it counts only if it succeeds. -/
theorem exits_resetTouch {f : Hardware → Hardware} {text : Fault → ε} (h : Stage G start rig)
    (hcurve : ∀ hw, (f hw).offsets = hw.offsets) (hG : ∀ hw, G hw → G' (f hw)) :
    Exits (ExceptT.adapt text (touch f) : Driver card ε Unit) rig
      (fun _ after => Stage G' start after) (fun _ after => Framed start after) :=
  exits_adapt (exits_touch (h.change hcurve hG) (fun _ => (h.change hcurve hG).framed)
    fun _ => h.next.framed)

theorem exits_unlockCoreVoltage (h : Stage G start rig)
    (hG : ∀ hw, G hw → G' { hw with voltageLock := none }) :
    Exits unlockCoreVoltage rig (fun _ after => Stage G' start after)
      (fun _ after => Framed start after) :=
  exits_bind (exits_adapt (exits_look (exits_resetTouch h.next (fun _ => rfl) hG)
    fun _ => h.next.framed))

theorem exits_resetCurve (h : Stage G start rig)
    (hG : ∀ before after : Hardware, G before → after.clockCap = before.clockCap →
      after.voltageLock = before.voltageLock → after.memOffset = before.memOffset →
      after.coreOffset = before.coreOffset → Zeroed card after → G' after) :
    Exits resetVfCurveChecked rig (fun _ after => Stage G' start after)
      (fun _ after => Framed start after) := by
  refine (exits_resetVfPoints card.table rig).mono (fun _ after hafter => ?_) fun _ _ =>
    h.framed.curve
  obtain ⟨hcurve, hzeroed⟩ := hafter
  refine ⟨h.framed.curve hcurve, fun hok => ?_⟩
  exact hG rig.hw after.hw (h.reached (hcurve.sticky hok)) hcurve.clockCap hcurve.voltageLock
    hcurve.memOffset hcurve.coreOffset (hzeroed hok)

/-- A part of a reset whose failure is only noted. -/
theorem exits_attempted {p : Driver card ε α} {ε' : Type}
    (h : Exits p rig (fun _ after => Stage G start after) fun _ after => Framed start after) :
    Exits (observe (resetting p) : Driver card ε' _) rig (fun _ after => Stage G start after)
      fun _ _ => False :=
  exits_observe (exits_resetting (h.mono (fun _ _ hok => hok) fun _ _ hframed =>
    Stage.failed hframed))

/-- The hardware that a stock reset leaves, but for the memory offset. -/
structure Stocked (card : VfCard) (hw : Hardware) : Prop where
  voltageLock : hw.voltageLock = none
  coreOffset : hw.coreOffset = 0
  zeroed : Zeroed card hw
  clockCap : hw.clockCap = none

theorem exits_resetToStock (mem : Int → Prop) (h : Stage (fun hw => mem hw.memOffset) start rig) :
    Exits (resetToStock : Driver card ε Unit) rig
      (fun _ after => Stage (fun hw => mem hw.memOffset ∧ Stocked card hw) start after)
      fun _ _ => False := by
  have hunlock : Exits (observe (resetting unlockCoreVoltage) : Driver card ε _) rig
      (fun _ after => Stage (fun hw => mem hw.memOffset ∧ hw.voltageLock = none) start after)
      fun _ _ => False :=
    exits_attempted (exits_unlockCoreVoltage h fun _ hmem => ⟨hmem, rfl⟩)
  refine exits_bind (hunlock.mono (fun _ after₁ h₁ => ?_) fun _ _ => id)
  have hcore : Exits (observe (resetting (setCoreOffsetMhz 0)) : Driver card ε _) after₁
      (fun _ after => Stage (fun hw => mem hw.memOffset ∧ hw.voltageLock = none ∧
        hw.coreOffset = 0) start after) fun _ _ => False :=
    exits_attempted (exits_resetTouch h₁ (fun _ => rfl) fun _ hg => ⟨hg.1, hg.2, rfl⟩)
  refine exits_bind (hcore.mono (fun _ after₂ h₂ => ?_) fun _ _ => id)
  have hcurve : Exits (observe (resetting resetVfCurveChecked) : Driver card ε _) after₂
      (fun _ after => Stage (fun hw => mem hw.memOffset ∧ hw.voltageLock = none ∧
        hw.coreOffset = 0 ∧ Zeroed card hw) start after) fun _ _ => False :=
    exits_attempted (exits_resetCurve h₂ fun _ _ hg _ hlock hmem hcore hzero =>
      ⟨hmem ▸ hg.1, hlock.trans hg.2.1, hcore.trans hg.2.2, hzero⟩)
  refine exits_bind (hcurve.mono (fun _ after₃ h₃ => ?_) fun _ _ => id)
  have hclock : Exits (observe (resetting resetCoreClockLock) : Driver card ε _) after₃
      (fun _ after => Stage (fun hw => mem hw.memOffset ∧ Stocked card hw) start after)
      fun _ _ => False :=
    exits_attempted (exits_resetTouch h₃ (fun _ => rfl) fun _ hg =>
      ⟨hg.1, hg.2.1, hg.2.2.1, hg.2.2.2, rfl⟩)
  exact exits_bind (hclock.mono (fun _ after₄ h₄ => exits_pure h₄) fun _ _ => id)

/-- The hardware that `reset_all` leaves, but for the ceiling of the clock. -/
structure AllReset (card : VfCard) (hw : Hardware) : Prop where
  voltageLock : hw.voltageLock = none
  coreOffset : hw.coreOffset = 0
  memOffset : hw.memOffset = 0
  zeroed : Zeroed card hw

theorem exits_skipCurve (h : Stage G start rig) (hG : ∀ hw, G hw → Zeroed card hw → G' hw) :
    Exits (skipCurve : Driver card ε Unit) rig (fun _ after => Stage G' start after)
      fun _ after => Framed start after := by
  refine exits_modify ⟨⟨h.framed.persisted, ?_, h.framed.outside⟩, ?_⟩
  · intro hok
    exact h.framed.sticky (Bool.and_eq_true_iff.mp hok).1
  · intro hok
    obtain ⟨hresets, hempty⟩ := Bool.and_eq_true_iff.mp hok
    refine hG _ (h.reached hresets) fun bin hbin => ?_
    rw [List.isEmpty_iff.mp hempty] at hbin
    cases hbin

theorem exits_vfCurveSupported (h : Stage G start rig) :
    Exits (vfCurveSupported : Driver card ε Bool) rig (fun _ after => Stage G start after)
      fun _ _ => False :=
  exits_bind (exits_observe (exits_look (exits_pure h.next) fun _ => exits_pure h.next))

theorem exits_resetAll (cap : Option Nat → Prop) (h : Stage (fun hw => cap hw.clockCap) start rig) :
    Exits resetAll rig
      (fun _ after => Stage (fun hw => cap hw.clockCap ∧ AllReset card hw) start after)
      (fun _ after => Stage (fun _ => False) start after) := by
  refine exits_resetting (Exits.mono ?_ (fun _ _ hok => hok) fun _ _ => Stage.failed)
  have hunlock : Exits unlockCoreVoltage rig
      (fun _ after => Stage (fun hw => cap hw.clockCap ∧ hw.voltageLock = none) start after)
      fun _ after => Framed start after :=
    exits_unlockCoreVoltage h fun _ hcap => ⟨hcap, rfl⟩
  refine exits_bind (hunlock.mono (fun _ after₁ h₁ => ?_) fun _ _ hframed => hframed)
  have hcore : Exits (setCoreOffsetMhz 0) after₁
      (fun _ after => Stage (fun hw => cap hw.clockCap ∧ hw.voltageLock = none ∧
        hw.coreOffset = 0) start after) fun _ after => Framed start after :=
    exits_resetTouch h₁ (fun _ => rfl) fun _ hg => ⟨hg.1, hg.2, rfl⟩
  refine exits_bind (hcore.mono (fun _ after₂ h₂ => ?_) fun _ _ hframed => hframed)
  have hmem : Exits (setMemOffsetMhz 0) after₂
      (fun _ after => Stage (fun hw => cap hw.clockCap ∧ hw.voltageLock = none ∧
        hw.coreOffset = 0 ∧ hw.memOffset = 0) start after) fun _ after => Framed start after :=
    exits_resetTouch h₂ (fun _ => rfl) fun _ hg => ⟨hg.1, hg.2.1, hg.2.2, rfl⟩
  refine exits_bind (hmem.mono (fun _ after₃ h₃ => ?_) fun _ _ hframed => hframed)
  refine exits_bind ((exits_vfCurveSupported h₃).mono (fun supported after₄ h₄ => ?_)
    fun _ _ => False.elim)
  cases supported with
  | true =>
    refine exits_bind ((exits_resetCurve h₄ fun _ _ hg hcap hlock hmem hcore hzero =>
      ⟨hcap ▸ hg.1, hlock.trans hg.2.1, hcore.trans hg.2.2.1, hmem.trans hg.2.2.2, hzero⟩).mono
        (fun _ _ h₅ => exits_pure h₅) fun _ _ hframed => hframed)
  | false =>
    exact exits_skipCurve h₄ fun _ hg hzero => ⟨hg.1, hg.2.1, hg.2.2.1, hg.2.2.2, hzero⟩

end Stages

end Driver

end Nidavellir

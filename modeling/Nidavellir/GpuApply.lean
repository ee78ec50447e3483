import Nidavellir.FieldGuard
import Nidavellir.Lib.Trace

namespace Nidavellir

open Trace

structure VfPoint where
  freqMhz : Nat
  voltageMv : Nat
deriving DecidableEq, Repr

structure UndervoltApply where
  targetMhz : Nat
  anchorMv : Nat
deriving DecidableEq, Repr

/-- The profile that is re-applied at boot. -/
structure AppliedProfile where
  label : String
  core : Option VfPoint
  memOffsetMhz : Option Int
  appliedAt : Option String
  undervolt : Option UndervoltApply
deriving DecidableEq, Repr

/-- The hardware, the Safe Loop store and the disk, as an apply uses them. `spawnClear` starts the
thread that sleeps for the survival window and clears the flag. -/
class GpuApplyOps (O : Type*) where
  armBootFlag : TuningPoint → String → O → Except String Unit × O
  applyCore : VfPoint → O → Except String Unit × O
  applyAnchoredUndervolt : Nat → Nat → O → Except String Unit × O
  setMemOffsetMhz : Int → O → Except String Unit × O
  resetToStock : O → Unit × O
  resetAll : O → Except String Unit × O
  nowRfc3339 : O → String × O
  saveApplied : AppliedProfile → O → Unit × O
  spawnClear : O → Unit × O

open GpuApplyOps

/-- The intent that `apply_and_persist` arms. -/
def applyIntent (core : Option VfPoint) (memOffsetMhz : Option Int) : TuningPoint :=
  .fromAxes ((core.toList.flatMap fun c =>
      [("gpu_freq_mhz", (c.freqMhz : Int)), ("gpu_voltage_mv", (c.voltageMv : Int))]) ++
    memOffsetMhz.toList.map fun m => ("gpu_mem_offset_mhz", m))

section Apply

variable {O : Type*} [GpuApplyOps O]

/-- An optional write: nothing to do is success. -/
def applySome {α : Type*} (x : Option α) (apply : α → O → Except String Unit × O) (ops : O) :
    Except String Unit × O :=
  match x with
  | some a => apply a ops
  | none => (.ok (), ops)

def persistApplied (profile : Option String → AppliedProfile) (ops : O) :
    Except String Unit × O :=
  let (now, ops) := nowRfc3339 ops
  let ((), ops) := saveApplied (profile (some now)) ops
  let ((), ops) := spawnClear ops
  (.ok (), ops)

def applyAndPersist (label : String) (core : Option VfPoint) (memOffsetMhz : Option Int)
    (ops : O) : Except String Unit × O :=
  match armBootFlag (applyIntent core memOffsetMhz) "gpu_apply" ops with
  | (.error e, ops) => (.error s!"GPU apply: failed to arm Safe Loop before write: {e}", ops)
  | (.ok (), ops) =>
    match applySome core applyCore ops with
    | (.error e, ops) => (.error e, ops)
    | (.ok (), ops) =>
      match applySome memOffsetMhz setMemOffsetMhz ops with
      | (.error e, ops) => (.error e, ops)
      | (.ok (), ops) => persistApplied (⟨label, core, memOffsetMhz, ·, none⟩) ops

def applyAndPersistUndervolt (label : String) (targetMhz anchorMv : Nat)
    (memOffsetMhz : Option Int) (ops : O) : Except String Unit × O :=
  match armBootFlag (undervoltIntent targetMhz anchorMv memOffsetMhz) "gpu_apply_undervolt" ops with
  | (.error e, ops) => (.error s!"F2 apply: failed to arm Safe Loop before write: {e}", ops)
  | (.ok (), ops) =>
    match applyAnchoredUndervolt targetMhz anchorMv ops with
    | (.error e, ops) => (.error e, ops)
    | (.ok (), ops) =>
      match applySome memOffsetMhz setMemOffsetMhz ops with
      | (.error e, ops) =>
        let ((), ops) := resetToStock ops
        match resetAll ops with
        | (.ok (), ops) =>
          (.error s!"F2 apply: memory offset failed ({e}); GPU reset to stock", ops)
        | (.error resetErr, ops) =>
          (.error s!"F2 apply: memory offset failed ({e}); stock reset also failed ({resetErr})",
            ops)
      | (.ok (), ops) =>
        persistApplied (⟨label, some ⟨targetMhz, anchorMv⟩, memOffsetMhz, ·,
          some ⟨targetMhz, anchorMv⟩⟩) ops

end Apply

inductive ApplyCall
  | armBootFlag (intent : TuningPoint) (phase : String) (result : Except String Unit)
  | applyCore (point : VfPoint) (result : Except String Unit)
  | applyAnchoredUndervolt (targetMhz anchorMv : Nat) (result : Except String Unit)
  | setMemOffsetMhz (offsetMhz : Int) (result : Except String Unit)
  | resetToStock
  | resetAll (result : Except String Unit)
  | nowRfc3339 (now : String)
  | saveApplied (profile : AppliedProfile)
  | spawnClear

instance {O : Type*} [GpuApplyOps O] : GpuApplyOps (Recorded ApplyCall O) where
  armBootFlag intent phase self :=
    self.record (.armBootFlag intent phase) (armBootFlag intent phase)
  applyCore point self := self.record (.applyCore point) (applyCore point)
  applyAnchoredUndervolt targetMhz anchorMv self :=
    self.record (.applyAnchoredUndervolt targetMhz anchorMv)
      (applyAnchoredUndervolt targetMhz anchorMv)
  setMemOffsetMhz offsetMhz self :=
    self.record (.setMemOffsetMhz offsetMhz) (setMemOffsetMhz offsetMhz)
  resetToStock self := self.record (fun _ => .resetToStock) resetToStock
  resetAll self := self.record .resetAll resetAll
  nowRfc3339 self := self.record .nowRfc3339 nowRfc3339
  saveApplied profile self := self.record (fun _ => .saveApplied profile) (saveApplied profile)
  spawnClear self := self.record (fun _ => .spawnClear) spawnClear

end Nidavellir

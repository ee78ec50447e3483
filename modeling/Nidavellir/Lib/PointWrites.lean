import Mathlib.Data.List.Nodup
import Mathlib.Logic.Function.Basic

namespace Nidavellir.PointWrites

variable {ι α : Type*} [DecidableEq ι] {writes : List (ι × α)} {f g : ι → α} {i : ι} {v : α}

/-- Writes to single points, one after the other. -/
def writeAll (writes : List (ι × α)) (f : ι → α) : ι → α :=
  writes.foldl (fun f w => Function.update f w.1 w.2) f

@[simp] theorem writeAll_nil (f : ι → α) : writeAll [] f = f := rfl

@[simp] theorem writeAll_cons (w : ι × α) (writes : List (ι × α)) (f : ι → α) :
    writeAll (w :: writes) f = writeAll writes (Function.update f w.1 w.2) := rfl

theorem writeAll_of_notMem (h : i ∉ writes.map Prod.fst) : writeAll writes f i = f i := by
  induction writes generalizing f with
  | nil => rfl
  | cons w writes ih =>
    rw [List.map_cons, List.mem_cons, not_or] at h
    rw [writeAll_cons, ih h.2, Function.update_of_ne h.1]

theorem writeAll_of_mem (hnodup : (writes.map Prod.fst).Nodup) (h : (i, v) ∈ writes) :
    writeAll writes f i = v := by
  induction writes generalizing f with
  | nil => cases h
  | cons w writes ih =>
    rw [List.map_cons, List.nodup_cons] at hnodup
    rw [writeAll_cons]
    rcases List.mem_cons.mp h with rfl | h
    · rw [writeAll_of_notMem hnodup.1, Function.update_self]
    · exact ih hnodup.2 h

end Nidavellir.PointWrites

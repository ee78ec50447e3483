import Mathlib.Data.List.AList
import Mathlib.Data.List.Induction

namespace Nidavellir.Grouped

variable {α κ β : Type*} [DecidableEq κ] (key : α → κ) (fresh : β) (f : β → α → β)

/-- The entry of each key after every element was folded into the entry of its own key. -/
def accumulate (l : List α) : AList fun _ : κ => β :=
  l.foldl (fun entries a =>
    entries.insert (key a) (f ((entries.lookup (key a)).getD fresh) a)) ∅

def values (entries : AList fun _ : κ => β) : List β := entries.entries.map Sigma.snd

/-- The elements of one key, in their order. -/
def group (k : κ) (l : List α) : List α := l.filter fun a => decide (key a = k)

variable {key fresh f} {l : List α} {k : κ} {a : α}

theorem mem_group : a ∈ group key k l ↔ a ∈ l ∧ key a = k := by
  simp [group]

theorem accumulate_append_singleton (l : List α) (a : α) :
    accumulate key fresh f (l ++ [a]) =
      (accumulate key fresh f l).insert (key a)
        (f (((accumulate key fresh f l).lookup (key a)).getD fresh) a) := by
  rw [accumulate, List.foldl_append]
  rfl

/-- A key has an entry when some element has it, and the entry folds just those elements. -/
theorem lookup_accumulate (l : List α) (k : κ) :
    (accumulate key fresh f l).lookup k =
      if group key k l = [] then none else some ((group key k l).foldl f fresh) := by
  induction l using List.reverseRecOn with
  | nil => rfl
  | append_singleton l a ih =>
    rw [accumulate_append_singleton]
    by_cases hk : k = key a
    · subst hk
      have hgroup : group key (key a) (l ++ [a]) = group key (key a) l ++ [a] := by
        simp [group, List.filter_append]
      rw [AList.lookup_insert, hgroup, if_neg (by simp), List.foldl_append, ih]
      split
      next hempty => rw [hempty]; rfl
      next => rfl
    · have hgroup : group key k (l ++ [a]) = group key k l := by
        simp [group, List.filter_append, Ne.symm hk]
      rw [AList.lookup_insert_ne hk, hgroup, ih]

theorem mem_values_accumulate {b : β} :
    b ∈ values (accumulate key fresh f l) ↔
      ∃ k, (∃ a ∈ l, key a = k) ∧ (group key k l).foldl f fresh = b := by
  have hentered (k : κ) : group key k l ≠ [] ↔ ∃ a ∈ l, key a = k := by
    rw [Ne, List.eq_nil_iff_forall_not_mem]
    simp [mem_group]
  constructor
  · intro hb
    obtain ⟨⟨k, b'⟩, hmem, rfl⟩ := List.mem_map.mp hb
    have hlookup := AList.mem_lookup_iff.mpr hmem
    rw [lookup_accumulate] at hlookup
    split at hlookup
    next => simp at hlookup
    next hne => exact ⟨k, (hentered k).mp hne, Option.some.inj hlookup⟩
  · rintro ⟨k, hk, rfl⟩
    refine List.mem_map.mpr ⟨⟨k, _⟩, AList.mem_lookup_iff.mp ?_, rfl⟩
    rw [lookup_accumulate, if_neg ((hentered k).mpr hk)]
    rfl

end Nidavellir.Grouped

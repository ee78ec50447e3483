import Mathlib.Data.List.TakeWhile
import Mathlib.Order.Lattice

namespace Nidavellir.Descent

variable {α : Type*} {p : α → Bool} {l pre : List α} {a : α}

/-- The last value of the longest stretch at the front that passes. -/
def deepest (p : α → Bool) (l : List α) : Option α := (l.takeWhile p).getLast?

theorem deepest_cons_of_pos (h : p a = true) : deepest p (a :: l) = (deepest p l).or (some a) := by
  unfold deepest
  rw [List.takeWhile_cons_of_pos h, List.getLast?_cons]
  cases (l.takeWhile p).getLast? <;> rfl

theorem deepest_cons_of_neg (h : p a = false) : deepest p (a :: l) = none := by
  unfold deepest
  rw [List.takeWhile_cons_of_neg (by simp [h])]
  rfl

theorem mem_of_deepest (h : deepest p l = some a) : a ∈ l ∧ p a = true := by
  have hmem := List.mem_of_getLast? h
  exact ⟨(List.takeWhile_prefix p).subset hmem, List.mem_takeWhile_imp hmem⟩

variable [LinearOrder α]

theorem filter_le_eq_cons (hl : l.Pairwise (· > ·)) (ha : a ∈ l) :
    ∃ rest, l.filter (· ≤ a) = a :: rest := by
  induction l with
  | nil => cases ha
  | cons b rest ih =>
    obtain ⟨hb, hrest⟩ := List.pairwise_cons.mp hl
    rcases List.mem_cons.mp ha with rfl | hmem
    · exact ⟨_, List.filter_cons_of_pos (by simp)⟩
    · rw [List.filter_cons_of_neg (by simpa using hb a hmem)]
      exact ih hrest hmem

/-- A search that starts at a passing value finds the same, when all above it pass as well. -/
theorem deepest_filter_le (hl : l.Pairwise (· > ·)) (ha : a ∈ l)
    (hpass : ∀ x ∈ l, a ≤ x → p x = true) :
    deepest p (l.filter (· ≤ a)) = deepest p l := by
  induction l with
  | nil => cases ha
  | cons b rest ih =>
    obtain ⟨hb, hrest⟩ := List.pairwise_cons.mp hl
    rcases List.mem_cons.mp ha with rfl | hmem
    · have hall : ((a :: rest).filter (· ≤ a)) = a :: rest := by
        rw [List.filter_eq_self]
        intro x hx
        rcases List.mem_cons.mp hx with rfl | hx
        · simp
        · simpa using (hb x hx).le
      rw [hall]
    · have hlt : a < b := hb a hmem
      rw [List.filter_cons_of_neg (by simpa using hlt),
        ih hrest hmem fun x hx => hpass x (List.mem_cons_of_mem _ hx),
        deepest_cons_of_pos (hpass b List.mem_cons_self hlt.le)]
      have hsome : (deepest p rest).isSome := by
        unfold deepest
        cases rest with
        | nil => cases hmem
        | cons c rest =>
          have hc : a ≤ c := by
            rcases List.mem_cons.mp hmem with rfl | htail
            · exact le_rfl
            · exact ((List.pairwise_cons.mp hrest).1 a htail).le
          rw [List.takeWhile_cons_of_pos (hpass c (by simp) hc)]
          simp
      obtain ⟨x, hx⟩ := Option.isSome_iff_exists.mp hsome
      rw [hx]
      rfl

end Nidavellir.Descent

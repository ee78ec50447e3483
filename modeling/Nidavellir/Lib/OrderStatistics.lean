import Mathlib.Data.List.Sort

namespace OrderStatistics

variable {α : Type*} [LinearOrder α] {l : List α} {k : Nat} {v t : α}

/-- The element of rank `k`, counted from zero, in ascending order. -/
def nth (l : List α) (k : Nat) : Option α := (l.insertionSort (· ≤ ·))[k]?

theorem nth_isSome_iff : (nth l k).isSome = true ↔ k < l.length := by
  rw [nth, Option.isSome_iff_ne_none, ne_eq, List.getElem?_eq_none_iff,
    List.length_insertionSort, Nat.not_le]

/-- Around the element of rank `k` stand `k` that are not above and the rest not below. -/
theorem nth_split (h : nth l k = some v) :
    ∃ low high : List α, l.Perm (low ++ v :: high) ∧ low.length = k ∧
      (∀ x ∈ low, x ≤ v) ∧ ∀ x ∈ high, v ≤ x := by
  obtain ⟨hk, hv⟩ := List.getElem?_eq_some_iff.mp h
  have hsplit := (List.take_append_drop k (l.insertionSort (· ≤ ·))).symm
  rw [List.drop_eq_getElem_cons hk, hv] at hsplit
  have hsorted := List.pairwise_insertionSort (· ≤ ·) l
  rw [hsplit] at hsorted
  obtain ⟨-, hhigh, hcross⟩ := List.pairwise_append.mp hsorted
  refine ⟨_, _, ?_, List.length_take_of_le hk.le, fun x hx => hcross x hx v List.mem_cons_self,
    fun x hx => List.rel_of_pairwise_cons hhigh hx⟩
  rw [← hsplit]
  exact (List.perm_insertionSort _ l).symm

/-- A bound holds of the element of rank `k` when at most `k` elements are below it. -/
theorem le_nth_iff (h : nth l k = some v) : t ≤ v ↔ l.countP (· < t) ≤ k := by
  obtain ⟨low, high, hperm, rfl, hlow, hhigh⟩ := nth_split h
  rw [hperm.countP_eq, List.countP_append, List.countP_cons]
  constructor
  · intro hle
    have hnone : high.countP (· < t) = 0 := by
      refine List.countP_eq_zero.mpr fun x hx => ?_
      simpa using hle.trans (hhigh x hx)
    have hv : ¬ v < t := not_lt.mpr hle
    have hsome := List.countP_le_length (p := (· < t)) (l := low)
    simp only [hnone, decide_eq_true_eq, hv, if_false]
    omega
  · intro hcount
    by_contra hlt
    have hv : v < t := not_le.mp hlt
    have hall : low.countP (· < t) = low.length :=
      List.countP_eq_length.mpr fun x hx => by simpa using (hlow x hx).trans_lt hv
    rw [hall] at hcount
    simp only [decide_eq_true_eq, hv, if_true] at hcount
    omega

theorem nth_le_iff (h : nth l k = some v) : v ≤ t ↔ l.countP (t < ·) + k < l.length := by
  obtain ⟨low, high, hperm, rfl, hlow, hhigh⟩ := nth_split h
  rw [hperm.countP_eq, hperm.length_eq, List.countP_append, List.countP_cons, List.length_append,
    List.length_cons]
  constructor
  · intro hle
    have hnone : low.countP (t < ·) = 0 := by
      refine List.countP_eq_zero.mpr fun x hx => ?_
      simpa using (hlow x hx).trans hle
    have hv : ¬ t < v := not_lt.mpr hle
    have hsome := List.countP_le_length (p := (t < ·)) (l := high)
    simp only [hnone, decide_eq_true_eq, hv, if_false]
    omega
  · intro hcount
    by_contra hlt
    have hv : t < v := not_le.mp hlt
    have hall : high.countP (t < ·) = high.length :=
      List.countP_eq_length.mpr fun x hx => by simpa using hv.trans_le (hhigh x hx)
    rw [hall] at hcount
    simp only [decide_eq_true_eq, hv, if_true] at hcount
    omega

end OrderStatistics

import Mathlib.Order.Lattice
import Mathlib.Data.List.Basic

namespace Nidavellir.Bracket

variable {α : Type*} [LinearOrder α]

/-- What the probes of a search from above leave: the least point that passed, or the start, and
the greatest point that failed, if one did. -/
structure Bracketed (start : α) (probes : List (α × Bool)) (hi : α) (lo : Option α) : Prop where
  hi_from : hi = start ∨ (hi, true) ∈ probes
  hi_le_start : hi ≤ start
  hi_le_pass : ∀ x, (x, true) ∈ probes → hi ≤ x
  lo_from : ∀ u, lo = some u → (u, false) ∈ probes
  fail_le_lo : ∀ x, (x, false) ∈ probes → ∃ u, lo = some u ∧ x ≤ u
  lo_lt_hi : ∀ u, lo = some u → u < hi

/-- A point strictly inside the bracket. -/
structure Inside (hi : α) (lo : Option α) (x : α) : Prop where
  below : x < hi
  above : ∀ u, lo = some u → u < x

variable {start hi x t : α} {probes : List (α × Bool)} {lo : Option α}

theorem bracketed_start (start : α) : Bracketed start [] start none where
  hi_from := .inl rfl
  hi_le_start := le_refl start
  hi_le_pass := by simp
  lo_from := by simp
  fail_le_lo := by simp
  lo_lt_hi := by simp

theorem Bracketed.pass (h : Bracketed start probes hi lo) (hx : Inside hi lo x) :
    Bracketed start (probes ++ [(x, true)]) x lo where
  hi_from := .inr (by simp)
  hi_le_start := le_trans (le_of_lt hx.below) h.hi_le_start
  hi_le_pass := by
    intro y hy
    rcases List.mem_append.mp hy with hold | hnew
    · exact le_trans (le_of_lt hx.below) (h.hi_le_pass y hold)
    · have heq : y = x := by simpa using hnew
      exact heq.ge
  lo_from := fun u hu => List.mem_append_left _ (h.lo_from u hu)
  fail_le_lo := by
    intro y hy
    rcases List.mem_append.mp hy with hold | hnew
    · exact h.fail_le_lo y hold
    · simp at hnew
  lo_lt_hi := hx.above

theorem Bracketed.fail (h : Bracketed start probes hi lo) (hx : Inside hi lo x) :
    Bracketed start (probes ++ [(x, false)]) hi (some x) where
  hi_from := h.hi_from.imp_right (List.mem_append_left _)
  hi_le_start := h.hi_le_start
  hi_le_pass := by
    intro y hy
    rcases List.mem_append.mp hy with hold | hnew
    · exact h.hi_le_pass y hold
    · simp at hnew
  lo_from := by
    intro u hu
    obtain rfl := Option.some.inj hu
    simp
  fail_le_lo := by
    intro y hy
    refine ⟨x, rfl, ?_⟩
    rcases List.mem_append.mp hy with hold | hnew
    · obtain ⟨u, hu, hyu⟩ := h.fail_le_lo y hold
      exact le_trans hyu (le_of_lt (hx.above u hu))
    · have heq : y = x := by simpa using hnew
      exact heq.le
  lo_lt_hi := by
    intro u hu
    obtain rfl := Option.some.inj hu
    exact hx.below

/-- A point inside the bracket lies strictly below all that passed and above all that failed. -/
theorem Bracketed.inside_probes (h : Bracketed start probes hi lo) (hx : Inside hi lo x) :
    (∀ y, (y, true) ∈ probes → x < y) ∧ ∀ y, (y, false) ∈ probes → y < x := by
  constructor
  · intro y hy
    exact lt_of_lt_of_le hx.below (h.hi_le_pass y hy)
  · intro y hy
    obtain ⟨u, hu, hyu⟩ := h.fail_le_lo y hy
    exact lt_of_le_of_lt hyu (hx.above u hu)

/-- Probes that pass just from a threshold on keep it inside the bracket. -/
theorem Bracketed.threshold (h : Bracketed start probes hi lo)
    (hmono : ∀ probe ∈ probes, probe.2 = true ↔ t ≤ probe.1) (hstart : t ≤ start) :
    t ≤ hi ∧ ∀ u, lo = some u → u < t := by
  constructor
  · rcases h.hi_from with hfirst | hpass
    · rw [hfirst]
      exact hstart
    · exact (hmono _ hpass).mp rfl
  · intro u hu
    by_contra hle
    have hpass := (hmono _ (h.lo_from u hu)).mpr (not_lt.mp hle)
    simp at hpass

end Nidavellir.Bracket

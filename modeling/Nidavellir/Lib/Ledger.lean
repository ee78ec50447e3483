import Mathlib.Data.List.Basic
import Mathlib.Data.Multiset.Basic

namespace Ledger

variable {α : Type*}

/-- The entries worth keeping that no later entry cancels, in append order. -/
def uncancelled (keep : α → Bool) (cancels : α → α → Bool) : List α → List α
  | [] => []
  | e :: later =>
    if keep e && !later.any (cancels · e) then e :: uncancelled keep cancels later
    else uncancelled keep cancels later

theorem mem_uncancelled_iff {keep : α → Bool} {cancels : α → α → Bool} {e : α} {l : List α} :
    e ∈ uncancelled keep cancels l ↔
      ∃ before later, l = before ++ e :: later ∧ keep e ∧ ∀ r ∈ later, ¬ cancels r e := by
  induction l with
  | nil => simp [uncancelled]
  | cons a l ih =>
    have htail : e ∈ uncancelled keep cancels (a :: l) ↔
        (e = a ∧ keep a ∧ ∀ r ∈ l, ¬ cancels r a) ∨ e ∈ uncancelled keep cancels l := by
      have hkeep : (keep a && !l.any (cancels · a)) = true ↔
          keep a ∧ ∀ r ∈ l, ¬ cancels r a := by simp
      simp only [uncancelled]
      split
      next h =>
        have ha := hkeep.mp h
        rw [List.mem_cons]
        exact or_congr_left ⟨fun he => ⟨he, ha⟩, And.left⟩
      next h =>
        have ha := mt hkeep.mpr h
        exact ⟨Or.inr, fun he => he.resolve_left fun hl => ha hl.2⟩
    rw [htail, ih]
    constructor
    · intro h
      rcases h with ⟨rfl, hk, hn⟩ | ⟨before, later, rfl, hk, hn⟩
      · exact ⟨[], l, rfl, hk, hn⟩
      · exact ⟨a :: before, later, rfl, hk, hn⟩
    · intro h
      obtain ⟨before, later, heq, hk, hn⟩ := h
      cases before with
      | nil =>
        obtain ⟨rfl, rfl⟩ := List.cons.inj heq
        exact Or.inl ⟨rfl, hk, hn⟩
      | cons b before =>
        obtain ⟨rfl, rfl⟩ := List.cons.inj heq
        exact Or.inr ⟨before, later, rfl, hk, hn⟩

theorem uncancelled_append_singleton {keep : α → Bool} {cancels : α → α → Bool} {e : α}
    (he : ∀ x, cancels e x = false) (l : List α) :
    uncancelled keep cancels (l ++ [e]) =
      uncancelled keep cancels l ++ if keep e then [e] else [] := by
  induction l with
  | nil => simp [uncancelled]
  | cons a l ih =>
    simp only [List.cons_append, uncancelled, List.any_append, List.any_cons, he, List.any_nil,
      Bool.or_false, ih]
    split <;> simp

theorem filter_uncancelled (p keep : α → Bool) (cancels : α → α → Bool) (l : List α) :
    (uncancelled keep cancels l).filter p = uncancelled (fun e => keep e && p e) cancels l := by
  induction l with
  | nil => rfl
  | cons e later ih =>
    by_cases hk : keep e <;> by_cases hp : p e <;> by_cases hc : later.any (cancels · e) <;>
      simp [uncancelled, hk, hp, hc, ih]

/-- More cancellation leaves fewer entries. -/
theorem uncancelled_sublist_of_cancels {keep : α → Bool} {cancels cancels' : α → α → Bool}
    (h : ∀ r e, keep e → cancels r e → cancels' r e) (l : List α) :
    (uncancelled keep cancels' l).Sublist (uncancelled keep cancels l) := by
  induction l with
  | nil => exact List.Sublist.refl _
  | cons e later ih =>
    by_cases hk : keep e
    · by_cases hc : later.any (cancels · e)
      · have hc' : later.any (cancels' · e) := by
          obtain ⟨r, hr, hre⟩ := List.any_eq_true.mp hc
          exact List.any_eq_true.mpr ⟨r, hr, h r e hk hre⟩
        simpa [uncancelled, hk, hc, hc'] using ih
      · by_cases hc' : later.any (cancels' · e)
        · simpa [uncancelled, hk, hc, hc'] using ih.cons e
        · simpa [uncancelled, hk, hc, hc'] using ih.cons_cons e
    · simpa [uncancelled, hk] using ih

/-- Two cancellation rules, one finer, keep the same entries just when the finer one
cancels every kept entry that the coarser one cancels. -/
theorem uncancelled_eq_iff {keep : α → Bool} {cancels cancels' : α → α → Bool}
    (h : ∀ r e, keep e → cancels r e → cancels' r e) (l : List α) :
    uncancelled keep cancels' l = uncancelled keep cancels l ↔
      ∀ before e later, l = before ++ e :: later → keep e →
        later.any (cancels' · e) → later.any (cancels · e) := by
  induction l with
  | nil => simp [uncancelled]
  | cons a l ih =>
    have hsub := uncancelled_sublist_of_cancels h l
    have hhead : (∀ before e later, a :: l = before ++ e :: later → keep e →
          later.any (cancels' · e) → later.any (cancels · e)) ↔
        (keep a → l.any (cancels' · a) → l.any (cancels · a)) ∧
          uncancelled keep cancels' l = uncancelled keep cancels l := by
      rw [ih]
      constructor
      · intro hall
        exact ⟨hall [] a l rfl, fun before e later heq =>
          hall (a :: before) e later (by rw [heq, List.cons_append])⟩
      · rintro ⟨ha, hall⟩ before e later heq
        cases before with
        | nil =>
          obtain ⟨rfl, rfl⟩ := List.cons.inj heq
          exact ha
        | cons b before =>
          obtain ⟨-, rfl⟩ := List.cons.inj heq
          exact hall before e later rfl
    rw [hhead]
    by_cases hk : keep a
    · by_cases hc : l.any (cancels · a)
      · have hc' : l.any (cancels' · a) := by
          obtain ⟨r, hr, hre⟩ := List.any_eq_true.mp hc
          exact List.any_eq_true.mpr ⟨r, hr, h r a hk hre⟩
        simp [uncancelled, hk, hc, hc']
      · by_cases hc' : l.any (cancels' · a)
        · have hne : uncancelled keep cancels' l ≠ a :: uncancelled keep cancels l := by
            intro heq
            have hlen := hsub.length_le
            rw [heq, List.length_cons] at hlen
            omega
          simp [uncancelled, hk, hc, hc', hne]
        · simp [uncancelled, hk, hc, hc']
    · simp [uncancelled, hk]

end Ledger

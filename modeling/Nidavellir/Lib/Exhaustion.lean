import Mathlib.Data.Finset.Card

namespace Exhaustion

variable {α : Type*} [DecidableEq α]

/-- What is left to do over a finite stock: an element is retired for good, or settled until
one is retired. -/
def budget (stock retired : Finset α) (settled : α → Bool) : Nat :=
  (stock \ retired).card * (stock.card + 1) + (stock.filter fun a => !settled a).card

variable {stock retired retired' : Finset α} {settled settled' : α → Bool} {a : α}

theorem budget_le : budget stock retired settled ≤ stock.card * (stock.card + 2) := by
  have hleft : (stock \ retired).card ≤ stock.card := Finset.card_le_card Finset.sdiff_subset
  have hopen : (stock.filter fun a => !settled a).card ≤ stock.card :=
    Finset.card_filter_le _ _
  have hmul : (stock \ retired).card * (stock.card + 1) ≤
      stock.card * (stock.card + 1) := Nat.mul_le_mul_right _ hleft
  have hsum : stock.card * (stock.card + 1) + stock.card =
      stock.card * (stock.card + 2) := (Nat.mul_succ _ _).symm
  unfold budget
  omega

/-- Retiring one more element pays for everything that was settled. -/
theorem budget_lt_of_retired (ha : a ∈ stock) (hnot : a ∉ retired)
    (hretired : insert a retired ⊆ retired') :
    budget stock retired' settled' < budget stock retired settled := by
  have hlt : (stock \ retired').card < (stock \ retired).card := by
    refine Finset.card_lt_card ⟨?_, ?_⟩
    · intro b hb
      rw [Finset.mem_sdiff] at hb ⊢
      exact ⟨hb.1, fun hmem => hb.2 (hretired (Finset.mem_insert_of_mem hmem))⟩
    · intro hsub
      have hmem := hsub (Finset.mem_sdiff.mpr ⟨ha, hnot⟩)
      exact (Finset.mem_sdiff.mp hmem).2 (hretired (Finset.mem_insert_self _ _))
  have hmul : ((stock \ retired').card + 1) * (stock.card + 1) ≤
      (stock \ retired).card * (stock.card + 1) := Nat.mul_le_mul_right _ hlt
  have hopen : (stock.filter fun a => !settled' a).card ≤ stock.card :=
    Finset.card_filter_le _ _
  rw [Nat.succ_mul] at hmul
  unfold budget
  omega

theorem budget_lt_of_settled (ha : a ∈ stock) (hopen : settled a = false)
    (hdone : settled' a = true) (hmono : ∀ b, settled b = true → settled' b = true) :
    budget stock retired settled' < budget stock retired settled := by
  have hlt : (stock.filter fun a => !settled' a).card <
      (stock.filter fun a => !settled a).card := by
    refine Finset.card_lt_card ⟨?_, ?_⟩
    · intro b hb
      rw [Finset.mem_filter] at hb ⊢
      refine ⟨hb.1, ?_⟩
      cases hb' : settled b with
      | false => rfl
      | true => simp [hmono b hb'] at hb
    · intro hsub
      have hmem := hsub (Finset.mem_filter.mpr ⟨ha, by simp [hopen]⟩)
      simp [hdone] at hmem
  unfold budget
  omega

end Exhaustion

import Mathlib.Data.List.Basic

namespace Nidavellir.Chain

variable {σ α β ε : Type*} (step : σ → α → Except ε β) (next : β → σ)

/-- Each element is accepted in the state that the one before it leaves. -/
inductive Accepted : σ → List α → List β → Prop
  | nil {s : σ} : Accepted s [] []
  | cons {s : σ} {a : α} {b : β} {as : List α} {bs : List β} (hfirst : step s a = .ok b)
      (hrest : Accepted (next b) as bs) : Accepted s (a :: as) (b :: bs)

/-- As many of the first elements as the budget and the first refusal allow. -/
def greedy : σ → Nat → List α → List β
  | _, _, [] => []
  | _, 0, _ :: _ => []
  | s, left + 1, a :: as =>
    match step s a with
    | .ok b => b :: greedy (next b) left as
    | .error _ => []

/-- The state in which the element at an index is tried. -/
def stateAt (s : σ) (bs : List β) : Nat → σ
  | 0 => s
  | i + 1 => bs[i]?.elim s next

variable {step next} {s : σ} {as : List α} {bs : List β} {left : Nat}

theorem stateAt_succ (i : Nat) : stateAt next s bs (i + 1) = bs[i]?.elim s next := rfl

@[simp] theorem greedy_nil : greedy step next s left [] = [] := by
  cases left <;> rfl

@[simp] theorem greedy_zero : greedy step next s 0 as = [] := by
  cases as <;> rfl

theorem greedy_cons_ok {a : α} {b : β} (h : step s a = .ok b) :
    greedy step next s (left + 1) (a :: as) = b :: greedy step next (next b) left as := by
  simp only [greedy, h]

theorem greedy_cons_error {a : α} {e : ε} (h : step s a = .error e) :
    greedy step next s (left + 1) (a :: as) = [] := by
  simp only [greedy, h]

theorem greedy_length_le (s : σ) (left : Nat) (as : List α) :
    (greedy step next s left as).length ≤ left := by
  induction as generalizing s left with
  | nil => simp
  | cons a as ih =>
    cases left with
    | zero => simp
    | succ left =>
      cases h : step s a with
      | error e => simp [greedy_cons_error h]
      | ok b =>
        rw [greedy_cons_ok h]
        exact Nat.succ_le_succ (ih (next b) left)

theorem greedy_accepted (s : σ) (left : Nat) (as : List α) :
    Accepted step next s (as.take (greedy step next s left as).length)
      (greedy step next s left as) := by
  induction as generalizing s left with
  | nil =>
    rw [greedy_nil]
    exact .nil
  | cons a as ih =>
    cases left with
    | zero =>
      rw [greedy_zero]
      exact .nil
    | succ left =>
      cases h : step s a with
      | error e =>
        rw [greedy_cons_error h]
        exact .nil
      | ok b =>
        rw [greedy_cons_ok h]
        exact .cons h (ih (next b) left)

/-- No prefix that is accepted within the budget is longer. -/
theorem length_le_greedy {n : Nat} (h : Accepted step next s (as.take n) bs) (hn : n ≤ as.length)
    (hleft : n ≤ left) : n ≤ (greedy step next s left as).length := by
  induction as generalizing s left n bs with
  | nil =>
    rw [List.length_nil] at hn
    exact Nat.le_trans hn (Nat.zero_le _)
  | cons a as ih =>
    cases n with
    | zero => exact Nat.zero_le _
    | succ n =>
      obtain ⟨left, rfl⟩ := Nat.exists_eq_add_one_of_ne_zero (Nat.ne_of_gt
        (Nat.lt_of_lt_of_le n.succ_pos hleft))
      rw [List.take_succ_cons] at h
      cases h with
      | cons hfirst hrest =>
        rw [greedy_cons_ok hfirst]
        exact Nat.succ_le_succ (ih hrest (Nat.le_of_succ_le_succ hn)
          (Nat.le_of_succ_le_succ hleft))

/-- What was accepted at an index, and in which state. -/
theorem Accepted.getElem? (h : Accepted step next s as bs) {i : Nat} {b : β}
    (hb : bs[i]? = some b) : ∃ a, as[i]? = some a ∧ step (stateAt next s bs i) a = .ok b := by
  induction h generalizing i b with
  | nil => cases hb
  | @cons s a first as bs hfirst hrest ih =>
    cases i with
    | zero =>
      cases hb
      exact ⟨a, rfl, hfirst⟩
    | succ i =>
      obtain ⟨a', ha', hstep⟩ := ih hb
      refine ⟨a', ha', ?_⟩
      cases i with
      | zero => exact hstep
      | succ i =>
        obtain ⟨before, hbefore⟩ : ∃ before, bs[i]? = some before := by
          have hlt := (List.getElem?_eq_some_iff.mp hb).1
          rw [List.length_cons] at hlt
          exact ⟨bs[i], List.getElem?_eq_getElem (by omega)⟩
        rw [stateAt, hbefore] at hstep
        rw [stateAt, List.getElem?_cons_succ, hbefore]
        exact hstep

theorem Accepted.exists_of_mem (h : Accepted step next s as bs) {b : β} (hb : b ∈ bs) :
    ∃ s' a, a ∈ as ∧ step s' a = .ok b := by
  obtain ⟨i, hi⟩ := List.mem_iff_getElem?.mp hb
  obtain ⟨a, ha, hstep⟩ := h.getElem? hi
  exact ⟨_, a, List.mem_of_getElem? ha, hstep⟩

/-- What was accepted shows its elements, in order. -/
theorem Accepted.map_eq {f : β → α} (h : Accepted step next s as bs)
    (hf : ∀ s a b, a ∈ as → step s a = .ok b → f b = a) : bs.map f = as := by
  induction h with
  | nil => rfl
  | @cons s a b as bs hfirst hrest ih =>
    rw [List.map_cons, hf s a b List.mem_cons_self hfirst,
      ih fun s' a' b' ha' => hf s' a' b' (List.mem_cons_of_mem _ ha')]

end Nidavellir.Chain

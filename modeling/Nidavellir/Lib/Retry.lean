import Mathlib.Data.List.Basic

namespace Retry

variable {σ α ω : Type*}

/-- What follows an attempt. -/
inductive Next (ω : Type*)
  | again
  | stop (result : ω)

/-- What follows the attempt with that number, counted from zero; only `budget` of them may be
followed by another. -/
structure Policy (α ω : Type*) where
  budget : Nat
  next : Nat → α → Next ω
  bounded : ∀ n a, next n a = .again → n < budget

variable (policy : Policy α ω) (ask : σ → Option ω × σ) (attempt : Nat → σ → α × σ)

/-- Attempts until the policy stops them; `ask` may end them before each. -/
def run (n : Nat) (s : σ) : List α × ω × σ :=
  match ask s with
  | (some result, s) => ([], result, s)
  | (none, s) =>
    let (a, s) := attempt n s
    match _hnext : policy.next n a with
    | .stop result => ([a], result, s)
    | .again =>
      let (as, result, s) := run (n + 1) s
      (a :: as, result, s)
termination_by policy.budget - n
decreasing_by
  have := policy.bounded n a _hnext
  omega

/-- The attempts of a run from number `n` on: each that is followed by another asked for it. -/
inductive Attempts : Nat → List α → Prop
  | nil {n} : Attempts n []
  | last {n} (a : α) : Attempts n [a]
  | again {n a as} (ha : policy.next n a = .again) (h : Attempts (n + 1) as) :
    Attempts n (a :: as)

variable {policy ask attempt} {n : Nat} {s : σ} {as : List α}

theorem run_asked {result : ω} {s' : σ} (hask : ask s = (some result, s')) :
    run policy ask attempt n s = ([], result, s') := by
  rw [run, hask]

theorem run_stop {result : ω} {s' : σ} (hask : ask s = (none, s'))
    (hnext : policy.next n (attempt n s').1 = .stop result) :
    run policy ask attempt n s = ([(attempt n s').1], result, (attempt n s').2) := by
  rw [run, hask]
  dsimp only
  split
  next h =>
    obtain rfl := Next.stop.inj (hnext.symm.trans h)
    rfl
  next h => cases hnext.symm.trans h

theorem run_again {s' : σ} (hask : ask s = (none, s'))
    (hnext : policy.next n (attempt n s').1 = .again) :
    run policy ask attempt n s =
      ((attempt n s').1 :: (run policy ask attempt (n + 1) (attempt n s').2).1,
        (run policy ask attempt (n + 1) (attempt n s').2).2) := by
  rw [run, hask]
  dsimp only
  split
  next h => cases hnext.symm.trans h
  next => rfl

variable (policy ask attempt) in
/-- A run is one of: ended before the attempt, ended by it, or followed by another run. -/
theorem run_induction {P : Nat → σ → List α × ω × σ → Prop}
    (hasked : ∀ n s result s', ask s = (some result, s') → P n s ([], result, s'))
    (hstop : ∀ n s s' result, ask s = (none, s') →
      policy.next n (attempt n s').1 = .stop result →
      P n s ([(attempt n s').1], result, (attempt n s').2))
    (hagain : ∀ n s s' as rest, ask s = (none, s') →
      policy.next n (attempt n s').1 = .again → P (n + 1) (attempt n s').2 (as, rest) →
      P n s ((attempt n s').1 :: as, rest)) (n : Nat) (s : σ) :
    P n s (run policy ask attempt n s) := by
  induction hleft : policy.budget - n using Nat.strongRecOn generalizing n s with
  | _ left ih =>
    rcases hask : ask s with ⟨_ | result, s'⟩
    · cases hnext : policy.next n (attempt n s').1 with
      | stop result =>
        rw [run_stop hask hnext]
        exact hstop n s s' result hask hnext
      | again =>
        have hlt := policy.bounded _ _ hnext
        rw [run_again hask hnext]
        exact hagain n s s' _ _ hask hnext (ih _ (by omega) (n + 1) _ rfl)
    · rw [run_asked hask]
      exact hasked n s result s' hask

theorem run_attempts : Attempts policy n (run policy ask attempt n s).1 :=
  run_induction policy ask attempt (P := fun n _ r => Attempts policy n r.1)
    (fun _ _ _ _ _ => .nil)
    (fun _ _ _ _ _ _ => .last _) (fun _ _ _ _ _ _ hnext ih => .again hnext ih) n s

theorem Attempts.length_le (h : Attempts policy n as) (hn : n ≤ policy.budget) :
    as.length ≤ policy.budget + 1 - n := by
  induction h with
  | nil => exact Nat.zero_le _
  | last a =>
    rw [List.length_singleton]
    omega
  | again ha _ ih =>
    have hlt := policy.bounded _ _ ha
    have := ih hlt
    rw [List.length_cons]
    omega

theorem Attempts.of_cons {a b : α} (h : Attempts policy n (a :: b :: as)) :
    policy.next n a = .again ∧ Attempts policy (n + 1) (b :: as) := by
  cases h with
  | again ha h => exact ⟨ha, h⟩

/-- An attempt that another follows was one to repeat. -/
theorem Attempts.again_of_followed {before after : List α} {a b : α}
    (h : Attempts policy n (before ++ a :: b :: after)) :
    policy.next (n + before.length) a = .again := by
  induction before generalizing n with
  | nil => exact h.of_cons.1
  | cons c before ih =>
    have htail : Attempts policy (n + 1) (before ++ a :: b :: after) := by
      cases before with
      | nil => exact h.of_cons.2
      | cons d before => exact h.of_cons.2
    have hlen : n + 1 + before.length = n + (c :: before).length := by
      rw [List.length_cons]
      omega
    rw [← hlen]
    exact ih htail

end Retry

import Nidavellir.Lib.Runs
import Mathlib.Algebra.BigOperators.Group.Finset.Basic
import Mathlib.Algebra.Order.BigOperators.Group.Finset
import Mathlib.Algebra.Group.Action.Defs

namespace Nidavellir.CasLoop

open Runs

variable {ι σ : Type*}

/-- How far a call of the loop is: it loads the atomic, decides, and exchanges the atomic if that
still has the value loaded. -/
inductive Call (σ : Type*)
  | loading
  | exchanging (previous next : σ)
  | returned (swapped : Bool)
deriving DecidableEq

/-- The atomic and the calls on it. -/
structure Shared (ι σ : Type*) where
  value : σ
  calls : ι → Call σ

def start (value : σ) : Shared ι σ := ⟨value, fun _ => .loading⟩

variable {update : ι → σ → Option σ} {s s' : Shared ι σ} {i j : ι} {call : Call σ} {value : σ}

/-- The calls that succeeded did so one after the other, each on the value that the one before it
left; each call that gave up did so on a value in between. -/
structure Linear (update : ι → σ → Option σ) (value : σ) (order : List ι) (s : Shared ι σ) :
    Prop where
  nodup : order.Nodup
  mem_order : ∀ i, i ∈ order ↔ s.calls i = .returned true
  replay : order.foldlM (fun v i => update i v) value = some s.value
  pending : ∀ i previous next, s.calls i = .exchanging previous next →
    update i previous = some next
  refused : ∀ i, s.calls i = .returned false → ∃ before after seen, order = before ++ after ∧
    before.foldlM (fun v i => update i v) value = some seen ∧ update i seen = none

theorem linear_start : Linear update value [] (start value) where
  nodup := List.nodup_nil
  mem_order := by simp [start]
  replay := rfl
  pending := by simp [start]
  refused := by simp [start]

/-- A call that the first value would not refuse never gives up alone. -/
theorem Linear.exists_swapped {order : List ι} (h : Linear update value order s)
    (hi : update i value ≠ none) {swapped : Bool} (hret : s.calls i = .returned swapped) :
    ∃ j, s.calls j = .returned true := by
  cases swapped with
  | true => exact ⟨i, hret⟩
  | false =>
    obtain ⟨before, after, seen, horder, hseen, hnone⟩ := h.refused i hret
    cases before with
    | nil =>
      obtain rfl : value = seen := Option.some.inj hseen
      exact absurd hnone hi
    | cons j before =>
      refine ⟨j, (h.mem_order j).mp ?_⟩
      rw [horder]
      exact List.mem_cons_self ..

section Set

variable [DecidableEq ι]

def Shared.set (s : Shared ι σ) (i : ι) (call : Call σ) : Shared ι σ :=
  { s with calls := Function.update s.calls i call }

@[simp] theorem set_value (s : Shared ι σ) (i : ι) (call : Call σ) :
    (s.set i call).value = s.value :=
  rfl

@[simp] theorem set_calls_self (s : Shared ι σ) (i : ι) (call : Call σ) :
    (s.set i call).calls i = call :=
  Function.update_self ..

@[simp] theorem set_calls_of_ne (s : Shared ι σ) (call : Call σ) (h : j ≠ i) :
    (s.set i call).calls j = s.calls j :=
  Function.update_of_ne h ..

/-- A step that neither writes nor returns true keeps the order. -/
theorem Linear.set {order : List ι} (h : Linear update value order s)
    (hold : s.calls i ≠ .returned true) (hnew : call ≠ .returned true)
    (hpending : ∀ previous next, call = .exchanging previous next →
      update i previous = some next)
    (hrefused : call = .returned false → update i s.value = none) :
    Linear update value order (s.set i call) where
  nodup := h.nodup
  mem_order := by
    intro j
    by_cases hj : j = i
    · subst hj
      rw [set_calls_self, h.mem_order]
      exact iff_of_false hold hnew
    · rw [set_calls_of_ne s call hj]
      exact h.mem_order j
  replay := h.replay
  pending := by
    intro j previous next hcall
    by_cases hj : j = i
    · subst hj
      rw [set_calls_self] at hcall
      exact hpending previous next hcall
    · rw [set_calls_of_ne s call hj] at hcall
      exact h.pending j previous next hcall
  refused := by
    intro j hcall
    by_cases hj : j = i
    · subst hj
      rw [set_calls_self] at hcall
      exact ⟨order, [], s.value, (List.append_nil order).symm, h.replay, hrefused hcall⟩
    · rw [set_calls_of_ne s call hj] at hcall
      exact h.refused j hcall

/-- An exchange that succeeds comes last in the order. -/
theorem Linear.exchange {order : List ι} {next : σ} (h : Linear update value order s)
    (hcall : s.calls i = .exchanging s.value next) :
    Linear update value (order ++ [i]) ({ s with value := next }.set i (.returned true)) where
  nodup := by
    have hnew : i ∉ order := by
      rw [h.mem_order, hcall]
      simp
    exact List.Nodup.append h.nodup (List.nodup_singleton i)
      (List.disjoint_singleton.mpr hnew)
  mem_order := by
    intro j
    by_cases hj : j = i
    · simp [hj]
    · rw [set_calls_of_ne _ _ hj, List.mem_append, h.mem_order]
      simp [hj]
  replay := by
    rw [List.foldlM_append, h.replay]
    simp [h.pending i _ _ hcall]
  pending := by
    intro j previous next' hcall'
    by_cases hj : j = i
    · simp [hj] at hcall'
    · rw [set_calls_of_ne _ _ hj] at hcall'
      exact h.pending j previous next' hcall'
  refused := by
    intro j hcall'
    by_cases hj : j = i
    · simp [hj] at hcall'
    · rw [set_calls_of_ne _ _ hj] at hcall'
      obtain ⟨before, after, seen, rfl, hseen, hnone⟩ := h.refused j hcall'
      exact ⟨before, after ++ [i], seen, List.append_assoc .., hseen, hnone⟩

end Set

section Potential

variable [DecidableEq σ] [Fintype ι]

/-- The steps a call has left while nothing changes the value. -/
def Call.left (value : σ) : Call σ → Nat
  | .loading => 2
  | .exchanging previous _ => if value = previous then 1 else 3
  | .returned _ => 0

/-- What a call that has not returned may cost the others. -/
def Call.owed (calls : Nat) : Call σ → Nat
  | .returned _ => 0
  | _ => 2 * calls

theorem Call.left_le (value value' : σ) (call : Call σ) :
    call.left value' ≤ call.left value + 2 := by
  cases call with
  | loading | returned => simp [Call.left]
  | exchanging previous next =>
    simp only [Call.left]
    split <;> split <;> omega

def Shared.cost (s : Shared ι σ) (i : ι) : Nat :=
  (s.calls i).left s.value + (s.calls i).owed (Fintype.card ι)

def Shared.potential (s : Shared ι σ) : Nat := ∑ i, s.cost i

theorem potential_start :
    (start value : Shared ι σ).potential = Fintype.card ι * (2 + 2 * Fintype.card ι) := by
  simp [Shared.potential, Shared.cost, start, Call.left, Call.owed]

end Potential

section Step

variable [DecidableEq ι] [DecidableEq σ]

/-- The next atomic step of one call; a call without a new value for the one it loads gives up. -/
def step (update : ι → σ → Option σ) (s : Shared ι σ) (i : ι) : Option (Shared ι σ) :=
  match s.calls i with
  | .loading =>
    match update i s.value with
    | none => some (s.set i (.returned false))
    | some next => some (s.set i (.exchanging s.value next))
  | .exchanging previous next =>
    if s.value = previous then some ({ s with value := next }.set i (.returned true))
    else some (s.set i .loading)
  | .returned _ => none

def calling (update : ι → σ → Option σ) (value : σ) : Machine (Shared ι σ) ι :=
  .ofStep (start value) (step update)

/-- All that a step can do. -/
theorem step_cases (h : step update s i = some s') :
    (s.calls i = .loading ∧ update i s.value = none ∧ s' = s.set i (.returned false)) ∨
    (∃ next, s.calls i = .loading ∧ update i s.value = some next ∧
      s' = s.set i (.exchanging s.value next)) ∨
    (∃ next, s.calls i = .exchanging s.value next ∧
      s' = { s with value := next }.set i (.returned true)) ∨
    ∃ previous next, s.calls i = .exchanging previous next ∧ s.value ≠ previous ∧
      s' = s.set i .loading := by
  unfold step at h
  cases hcall : s.calls i with
  | loading =>
    cases hupdate : update i s.value with
    | none =>
      simp only [hcall, hupdate, Option.some.injEq] at h
      exact .inl ⟨rfl, rfl, h.symm⟩
    | some next =>
      simp only [hcall, hupdate, Option.some.injEq] at h
      exact .inr (.inl ⟨next, rfl, rfl, h.symm⟩)
  | exchanging previous next =>
    simp only [hcall] at h
    split at h
    next heq =>
      subst heq
      exact .inr (.inr (.inl ⟨next, rfl, (Option.some.inj h).symm⟩))
    next hne => exact .inr (.inr (.inr ⟨previous, next, rfl, hne, (Option.some.inj h).symm⟩))
  | returned swapped => simp [hcall] at h

theorem step_eq_none_iff : step update s i = none ↔ ∃ swapped, s.calls i = .returned swapped := by
  unfold step
  cases hcall : s.calls i with
  | loading => cases hupdate : update i s.value <;> simp
  | exchanging previous next => by_cases heq : s.value = previous <;> simp [heq]
  | returned swapped => simp

theorem Linear.step {order : List ι} (h : Linear update value order s)
    (hs : step update s i = some s') :
    Linear update value order s' ∨ Linear update value (order ++ [i]) s' := by
  rcases step_cases hs with ⟨hcall, hnone, rfl⟩ | ⟨next, hcall, hsome, rfl⟩ |
    ⟨next, hcall, rfl⟩ | ⟨previous, next, hcall, _, rfl⟩
  · exact .inl (h.set (by simp [hcall]) (by simp) (by simp) fun _ => hnone)
  · refine .inl (h.set (by simp [hcall]) (by simp) ?_ (by simp))
    intro previous next' heq
    obtain ⟨rfl, rfl⟩ := Call.exchanging.inj heq
    exact hsome
  · exact .inr (h.exchange hcall)
  · exact .inl (h.set (by simp [hcall]) (by simp) (by simp) (by simp))

/-- Every run acts as its successful calls do, each in one step. -/
theorem run_linear {l : List ι} (h : (calling update value).Run l s) :
    ∃ order, Linear update value order s := by
  induction h with
  | start h =>
    obtain rfl : _ = start value := h
    exact ⟨[], linear_start⟩
  | @next l s i s' _ hs ih =>
    obtain ⟨order, horder⟩ := ih
    rcases horder.step hs with hsame | hlonger
    · exact ⟨order, hsame⟩
    · exact ⟨order ++ [i], hlonger⟩

variable [Fintype ι]

theorem cost_set_of_ne (s : Shared ι σ) (call : Call σ) (h : j ≠ i) :
    (s.set i call).cost j = s.cost j := by
  simp [Shared.cost, h]

/-- A step that writes nothing lowers the cost of its own call only. -/
theorem potential_set_lt (hlt : (s.set i call).cost i < s.cost i) :
    (s.set i call).potential < s.potential := by
  refine Finset.sum_lt_sum (fun j _ => ?_) ⟨i, Finset.mem_univ i, hlt⟩
  by_cases hj : j = i
  · subst hj
    exact Nat.le_of_lt hlt
  · exact Nat.le_of_eq (cost_set_of_ne s call hj)

theorem potential_exchange_lt {next : σ} (hcall : s.calls i = .exchanging s.value next) :
    ({ s with value := next }.set i (.returned true)).potential < s.potential := by
  have hself : ({ s with value := next }.set i (.returned true)).cost i = 0 := by
    simp [Shared.cost, Call.left, Call.owed]
  have hcost : s.cost i = 1 + 2 * Fintype.card ι := by
    simp [Shared.cost, Call.left, Call.owed, hcall]
  have hothers : ∑ j ∈ Finset.univ.erase i, ({ s with value := next }.set i (.returned true)).cost j
      ≤ ∑ j ∈ Finset.univ.erase i, (s.cost j + 2) := by
    refine Finset.sum_le_sum fun j hj => ?_
    have hle := (s.calls j).left_le s.value next
    simp only [Shared.cost, set_calls_of_ne _ _ (Finset.ne_of_mem_erase hj), set_value]
    omega
  rw [Finset.sum_add_distrib, Finset.sum_const, Finset.card_erase_of_mem (Finset.mem_univ i),
    Finset.card_univ, smul_eq_mul] at hothers
  have hsum := Finset.add_sum_erase Finset.univ s.cost (Finset.mem_univ i)
  have hsum' := Finset.add_sum_erase Finset.univ
    ({ s with value := next }.set i (.returned true)).cost (Finset.mem_univ i)
  unfold Shared.potential
  omega

theorem step_potential_lt (hs : step update s i = some s') : s'.potential < s.potential := by
  rcases step_cases hs with ⟨hcall, _, rfl⟩ | ⟨next, hcall, _, rfl⟩ | ⟨next, hcall, rfl⟩ |
    ⟨previous, next, hcall, hne, rfl⟩
  · refine potential_set_lt ?_
    simp [Shared.cost, Call.left, Call.owed, hcall]
  · refine potential_set_lt ?_
    simp [Shared.cost, Call.left, Call.owed, hcall]
  · exact potential_exchange_lt hcall
  · refine potential_set_lt ?_
    simp [Shared.cost, Call.left, Call.owed, hcall, hne]

/-- No schedule keeps the calls retrying: every run is short. -/
theorem run_length_le {l : List ι} (h : (calling update value).Run l s) :
    l.length ≤ Fintype.card ι * (2 + 2 * Fintype.card ι) := by
  refine Machine.Run.length_le (I := fun _ => True) (μ := Shared.potential) ?_ ?_ h
  · intro s hs
    obtain rfl : s = start value := hs
    exact ⟨trivial, Nat.le_of_eq potential_start⟩
  · intro s i s' _ hs
    exact ⟨trivial, step_potential_lt hs⟩

end Step

end Nidavellir.CasLoop

import Mathlib.Data.List.Basic

namespace Calls

variable {C R S : Type*}

/-- The state behind a sequence of calls of one stateful operation. -/
def after (op : C → S → R × S) (calls : List C) (s : S) : S :=
  calls.foldl (fun s c => (op c s).2) s

/-- The calls with what each of them was answered. -/
def answers (op : C → S → R × S) : List C → S → List (C × R)
  | [], _ => []
  | c :: calls, s => (c, (op c s).1) :: answers op calls (op c s).2

variable {op : C → S → R × S} {calls calls' : List C} {c : C} {s : S}

@[simp] theorem after_nil : after op [] s = s := rfl

@[simp] theorem after_cons : after op (c :: calls) s = after op calls (op c s).2 := rfl

theorem after_append : after op (calls ++ calls') s = after op calls' (after op calls s) :=
  List.foldl_append

theorem answers_append :
    answers op (calls ++ calls') s =
      answers op calls s ++ answers op calls' (after op calls s) := by
  induction calls generalizing s with
  | nil => rfl
  | cons c calls ih =>
    show (c, (op c s).1) :: answers op (calls ++ calls') (op c s).2 = _
    rw [ih]
    rfl

/-- Where an answer came from: the call it answers, and the state it was asked in. -/
theorem mem_answers {e : C × R} :
    e ∈ answers op calls s ↔
      ∃ before later, calls = before ++ e.1 :: later ∧ e.2 = (op e.1 (after op before s)).1 := by
  induction calls generalizing s with
  | nil => simp [answers]
  | cons c calls ih =>
    constructor
    · intro he
      rcases List.mem_cons.mp he with rfl | he
      · exact ⟨[], calls, rfl, rfl⟩
      · obtain ⟨before, later, heq, hanswer⟩ := ih.mp he
        exact ⟨c :: before, later, by rw [heq]; rfl, hanswer⟩
    · rintro ⟨before, later, heq, hanswer⟩
      cases before with
      | nil =>
        obtain ⟨rfl, rfl⟩ := List.cons.inj heq
        exact List.mem_cons.mpr (.inl (Prod.ext rfl hanswer))
      | cons b before =>
        obtain ⟨rfl, rfl⟩ := List.cons.inj heq
        exact List.mem_cons_of_mem _ (ih.mpr ⟨before, later, rfl, hanswer⟩)

variable (op) in
/-- What every call of some kind keeps, a sequence of such calls keeps. -/
theorem after_invariant {I : S → Prop} (p : C → Prop) (hstep : ∀ c s, p c → I s → I (op c s).2)
    (hcalls : ∀ c ∈ calls, p c) (hs : I s) : I (after op calls s) := by
  induction calls generalizing s with
  | nil => exact hs
  | cons c calls ih =>
    have hc := hcalls c List.mem_cons_self
    exact ih (fun d hd => hcalls d (List.mem_cons_of_mem _ hd)) (hstep c s hc hs)

end Calls

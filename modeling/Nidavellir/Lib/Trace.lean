import Mathlib.Data.List.Basic

namespace Trace

section Recorded

variable {C O R : Type*}

/-- Operations that also record what was called and what was answered. -/
structure Recorded (C O : Type*) where
  ops : O
  calls : List C := []

def Recorded.record (self : Recorded C O) (call : R → C) (op : O → R × O) : R × Recorded C O :=
  let (result, ops) := op self.ops
  (result, ⟨ops, self.calls ++ [call result]⟩)

theorem Recorded.record_spec (self : Recorded C O) (call : R → C) (op : O → R × O) :
    ∃ result self', self.record call op = (result, self') ∧
      self'.calls = self.calls ++ [call result] :=
  ⟨_, _, rfl, rfl⟩

theorem Recorded.ops_of_record {self self' : Recorded C O} {c : R → C} {op : O → R × O}
    {result : R} (h : self.record c op = (result, self')) : op self.ops = (result, self'.ops) :=
  congrArg (fun p => (p.1, p.2.ops)) h

end Recorded

variable {α : Type*} {P : List α → α → List α → Prop} {s t : List α}

/-- Every event obeys the rule, given the events before and after it. -/
def Every (P : List α → α → List α → Prop) (t : List α) : Prop :=
  ∀ before e after, t = before ++ e :: after → P before e after

/-- The rule still holds when the trace is extended at either end. -/
def Local (P : List α → α → List α → Prop) : Prop :=
  ∀ c before e after d, P before e after → P (c ++ before) e (after ++ d)

theorem every_nil : Every P [] := by
  intro before e after h
  simp at h

theorem every_cons {x : α} :
    Every P (x :: t) ↔ P [] x t ∧ Every (fun before e after => P (x :: before) e after) t := by
  constructor
  · intro h
    exact ⟨h [] x t rfl, fun before e after heq => h (x :: before) e after (by simp [heq])⟩
  · intro hall before e after heq
    obtain ⟨hx, ht⟩ := hall
    cases before with
    | nil =>
      obtain ⟨rfl, rfl⟩ := List.cons.inj heq
      exact hx
    | cons y before =>
      obtain ⟨rfl, rfl⟩ := List.cons.inj heq
      exact ht before e after rfl

theorem Every.append (hs : Every P s) (hP : Local P) (ht : Every P t) : Every P (s ++ t) := by
  intro before e after heq
  rcases List.append_eq_append_iff.mp heq with ⟨c, rfl, htc⟩ | ⟨c, rfl, hc⟩
  · simpa using hP s c e after [] (ht c e after htc)
  · cases c with
    | nil => simpa using hP before [] e after [] (ht [] e after hc.symm)
    | cons y c =>
      obtain ⟨rfl, rfl⟩ := List.cons.inj hc
      simpa using hP [] before e c t (hs before e c rfl)

end Trace

import Mathlib.Logic.Relation

namespace Interference

open Relation

/-- A program of atomic actions. The surroundings answer each action; what it returns may also
depend on the state. -/
inductive Prog (σ α : Type) : Type 1
  | ret (value : α)
  | act {answer β : Type} (does : answer → σ → β × σ) (next : β → Prog σ α)

variable {σ α β γ ε : Type}

namespace Prog

def bind : Prog σ α → (α → Prog σ β) → Prog σ β
  | .ret value, k => k value
  | .act does next, k => .act does fun b => (next b).bind k

instance : Monad (Prog σ) where
  pure := .ret
  bind := bind

/-- The program of one action. -/
def perform {answer : Type} (does : answer → σ → α × σ) : Prog σ α := .act does .ret

def modify (f : σ → σ) : Prog σ Unit := perform fun (_ : Unit) s => ((), f s)

def get (f : σ → α) : Prog σ α := perform fun (_ : Unit) s => (f s, s)

@[simp] theorem ret_bind (value : α) (k : α → Prog σ β) : (ret value).bind k = k value := rfl

@[simp] theorem act_bind {answer δ : Type} (does : answer → σ → δ × σ) (next : δ → Prog σ α)
    (k : α → Prog σ β) : (act does next).bind k = act does fun b => (next b).bind k := rfl

/-- However the others interfere, the program ends where `post` holds. -/
def ensures (rely : σ → σ → Prop) : Prog σ α → (α → σ → Prop) → σ → Prop
  | .ret value, post, s => ∀ s', ReflTransGen rely s s' → post value s'
  | .act does next, post, s => ∀ s', ReflTransGen rely s s' →
      ∀ r, (next (does r s').1).ensures rely post (does r s').2

variable {rely : σ → σ → Prop} {post post' : α → σ → Prop} {s s' : σ}

theorem ensures.interfered {p : Prog σ α} (h : p.ensures rely post s) (hs : rely s s') :
    p.ensures rely post s' := by
  cases p with
  | ret value => exact fun t ht => h t (.head hs ht)
  | act does next => exact fun t ht => h t (.head hs ht)

theorem ensures.acted {answer δ : Type} {does : answer → σ → δ × σ} {next : δ → Prog σ α}
    (h : (act does next).ensures rely post s) (r : answer) :
    (next (does r s).1).ensures rely post (does r s).2 :=
  h s .refl r

theorem ensures.returned {value : α} (h : (ret value).ensures rely post s) : post value s :=
  h s .refl

theorem ensures.mono {p : Prog σ α} (h : p.ensures rely post s)
    (hpost : ∀ a s, post a s → post' a s) : p.ensures rely post' s := by
  induction p generalizing s with
  | ret value => exact fun t ht => hpost _ _ (h t ht)
  | act does next ih => exact fun t ht r => ih _ (h t ht r)

theorem ensures_bind {p : Prog σ α} {k : α → Prog σ β} {post : β → σ → Prop}
    (h : p.ensures rely (fun a s => (k a).ensures rely post s) s) :
    (p.bind k).ensures rely post s := by
  induction p generalizing s with
  | ret value => exact h s .refl
  | act does next ih => exact fun t ht r => ih _ (h t ht r)

/-- Every action of the program is one that `allowed` admits, in any state. -/
def Keeps (allowed : σ → σ → Prop) : Prog σ α → Prop
  | .ret _ => True
  | .act does next => (∀ r s, allowed s (does r s).2) ∧ ∀ b, (next b).Keeps allowed

variable {allowed : σ → σ → Prop}

theorem Keeps.bind {p : Prog σ α} {k : α → Prog σ β} (h : p.Keeps allowed)
    (hk : ∀ a, (k a).Keeps allowed) : (p.bind k).Keeps allowed := by
  induction p with
  | ret value => exact hk value
  | act does next ih => exact ⟨h.1, fun b => ih b (h.2 b)⟩

theorem Keeps.perform {answer : Type} {does : answer → σ → α × σ}
    (h : ∀ r s, allowed s (does r s).2) : (Prog.perform does).Keeps allowed :=
  ⟨h, fun _ => trivial⟩

theorem Keeps.modify {f : σ → σ} (h : ∀ s, allowed s (f s)) :
    (Prog.modify f).Keeps allowed :=
  .perform fun _ => h

theorem Keeps.attempt_bind {p : ExceptT ε (Prog σ) α} {k : α → ExceptT ε (Prog σ) β}
    (h : p.run.Keeps allowed) (hk : ∀ a, (k a).run.Keeps allowed) :
    (p >>= k).run.Keeps allowed :=
  Keeps.bind h fun r => by
    cases r with
    | ok a => exact hk a
    | error e => trivial

theorem Keeps.lift {p : Prog σ α} (h : p.Keeps allowed) :
    (ExceptT.lift p : ExceptT ε (Prog σ) α).run.Keeps allowed :=
  Keeps.bind h fun _ => trivial

theorem Keeps.mono {allowed' : σ → σ → Prop} {p : Prog σ α} (h : p.Keeps allowed)
    (himp : ∀ s s', allowed s s' → allowed' s s') : p.Keeps allowed' := by
  induction p with
  | ret value => trivial
  | act does next ih => exact ⟨fun r s => himp _ _ (h.1 r s), fun b => ih b (h.2 b)⟩

end Prog

/-- An assertion that the others cannot falsify. -/
structure Assertion (rely : σ → σ → Prop) where
  holds : σ → Prop
  stable : ∀ {s s'}, rely s s' → holds s → holds s'

namespace Assertion

variable {rely : σ → σ → Prop}

instance : CoeFun (Assertion rely) fun _ => σ → Prop := ⟨Assertion.holds⟩

def anything : Assertion rely := ⟨fun _ => True, fun _ _ => trivial⟩

theorem after (A : Assertion rely) {s s' : σ} (h : ReflTransGen rely s s') (hs : A s) : A s' := by
  induction h with
  | refl => exact hs
  | tail _ hstep ih => exact A.stable hstep ih

/-- The assertion on a result of a program that may fail. -/
def either (ok : α → Assertion rely) (err : Assertion rely) : Except ε α → Assertion rely
  | .ok a => ok a
  | .error _ => err

end Assertion

open Prog Assertion

variable {rely : σ → σ → Prop} {pre mid : Assertion rely}

/-- From `pre` the program ends in `post`. -/
def Triple (pre : Assertion rely) (p : Prog σ α) (post : α → Assertion rely) : Prop :=
  ∀ s, pre s → p.ensures rely (fun a => post a) s

theorem Triple.ret {value : α} {post : α → Assertion rely} (h : ∀ s, pre s → post value s) :
    Triple pre (.ret value) post :=
  fun _ hs _ ht => h _ (pre.after ht hs)

theorem Triple.perform {answer : Type} {does : answer → σ → α × σ} {post : α → Assertion rely}
    (h : ∀ r s, pre s → post (does r s).1 (does r s).2) : Triple pre (.perform does) post :=
  fun _ hs t ht r _ hu => (post _).after hu (h r t (pre.after ht hs))

theorem Triple.bind {p : Prog σ α} {k : α → Prog σ β} {mid : α → Assertion rely}
    {post : β → Assertion rely} (hp : Triple pre p mid)
    (hk : ∀ a, Triple (mid a) (k a) post) : Triple pre (p.bind k) post :=
  fun s hs => ensures_bind ((hp s hs).mono fun a t ht => hk a t ht)

theorem Triple.weaken {p : Prog σ α} {post post' : α → Assertion rely} (h : Triple pre p post)
    (himp : ∀ a s, post a s → post' a s) : Triple pre p post' :=
  fun s hs => (h s hs).mono himp

theorem Triple.strengthen {p : Prog σ α} {post : α → Assertion rely} (h : Triple mid p post)
    (himp : ∀ s, pre s → mid s) : Triple pre p post :=
  fun s hs => h s (himp s hs)

/-- A program whose every action the others could have made themselves. -/
theorem Triple.of_keeps {p : Prog σ α} (h : p.Keeps rely) : Triple pre p fun _ => pre := by
  intro s hs
  induction p generalizing s with
  | ret value => exact fun t ht => pre.after ht hs
  | act does next ih =>
    exact fun t ht r => ih _ (h.2 _) _ (pre.stable (h.1 r t) (pre.after ht hs))

variable {err : Assertion rely}

def Attempt (pre : Assertion rely) (p : ExceptT ε (Prog σ) α) (ok : α → Assertion rely)
    (err : Assertion rely) : Prop :=
  Triple pre p.run (either ok err)

theorem Attempt.bind {p : ExceptT ε (Prog σ) α} {k : α → ExceptT ε (Prog σ) β}
    {mid : α → Assertion rely} {ok : β → Assertion rely} (hp : Attempt pre p mid err)
    (hk : ∀ a, Attempt (mid a) (k a) ok err) : Attempt pre (p >>= k) ok err :=
  Triple.bind hp fun r => by
    cases r with
    | ok a => exact hk a
    | error e => exact Triple.ret fun _ hs => hs

theorem Attempt.pure {value : α} {ok : α → Assertion rely} (h : ∀ s, pre s → ok value s) :
    Attempt pre (pure value : ExceptT ε (Prog σ) α) ok err :=
  Triple.ret h

theorem Attempt.throw {e : ε} {ok : α → Assertion rely} (h : ∀ s, pre s → err s) :
    Attempt pre (throw e : ExceptT ε (Prog σ) α) ok err :=
  Triple.ret h

theorem Attempt.lift {p : Prog σ α} {ok : α → Assertion rely} (h : Triple pre p ok) :
    Attempt pre (ExceptT.lift p : ExceptT ε (Prog σ) α) ok err :=
  Triple.bind h fun _ => Triple.ret fun _ hs => hs

theorem Attempt.of_keeps {p : ExceptT ε (Prog σ) α} (h : p.run.Keeps rely)
    (herr : ∀ s, pre s → err s) : Attempt pre p (fun _ => pre) err :=
  Triple.weaken (Triple.of_keeps h) fun r s hs => by
    cases r with
    | ok a => exact hs
    | error e => exact herr s hs

end Interference

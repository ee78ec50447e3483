import Nidavellir.Lib.Runs
import Mathlib.Logic.Function.Basic

namespace Nidavellir

open Runs

inductive WriteKind
  | profileApply
  | f2Candidate
deriving DecidableEq

/-- How far an operation is. `writing` lasts until the write is persisted or confirmed at stock; an
operation that stops there with an error never leaves it. -/
inductive WritePhase
  | ready
  | selected
  | armed
  | writing
  | surviving (written : Bool)
  | reset
  | over
deriving DecidableEq

/-- What an operation does to the flag and the hardware. `timer` is the end of the survival window
that `persist` opens; a failed arm may have left a torn file. -/
inductive WriteEvent
  | select
  | arm
  | armFailed (torn : Bool)
  | write
  | reset
  | persist
  | timer (cleared : Bool)
  | clear (cleared : Bool)
deriving DecidableEq

def WritePhase.exposed : WritePhase → Bool
  | .writing | .surviving true => true
  | _ => false

/-- The operation is exposed, or may be after its next step. -/
def WritePhase.needsFlag (p : WritePhase) : Bool := p == .armed || p.exposed

def WritePhase.next (p : WritePhase) (e : WriteEvent) : Option WritePhase :=
  match e, p with
  | .select, .ready => some .selected
  | .arm, .selected => some .armed
  | .armFailed _, .selected => some .over
  | .write, .armed | .write, .writing => some .writing
  | .reset, .armed | .reset, .writing => some .reset
  | .reset, .over => some .over
  | .persist, .armed => some (.surviving false)
  | .persist, .writing => some (.surviving true)
  | .timer _, .surviving _ => some .over
  | .clear _, .reset => some .over
  | _, _ => none

/-- Only a candidate selects and clears, only an apply is persisted and has a timer. -/
def WriteKind.allows : WriteKind → WriteEvent → Bool
  | .profileApply, .select | .profileApply, .clear _ => false
  | .f2Candidate, .persist | .f2Candidate, .timer _ => false
  | _, _ => true

/-- An apply arms without looking at the flag. -/
def WriteKind.start : WriteKind → WritePhase
  | .profileApply => .selected
  | .f2Candidate => .ready

def WriteEvent.clears : WriteEvent → Bool
  | .timer cleared | .clear cleared => cleared
  | _ => false

def flagAfter (id : Nat) (flag : Option Nat) (e : WriteEvent) : Option Nat :=
  if e = .arm ∨ e = .armFailed true then some id else if e.clears then none else flag

inductive BootFlagAction
  | op (id : Nat) (e : WriteEvent)
  | crash
deriving DecidableEq

structure BootFlagState where
  flag : Option Nat
  ops : Nat → WritePhase
  crashed : Bool

/-- Any operation may go on, in any order, until the machine crashes. Only `select` looks at the
flag. -/
def BootFlagState.step (kind : Nat → WriteKind) (s : BootFlagState) :
    BootFlagAction → Option BootFlagState
  | .crash => if s.crashed then none else some { s with crashed := true }
  | .op id e =>
    if s.crashed || !(kind id).allows e || (e == .select && s.flag.isSome) then none
    else ((s.ops id).next e).map fun p =>
      { s with flag := flagAfter id s.flag e, ops := Function.update s.ops id p }

def bootFlagMachine (kind : Nat → WriteKind) : Machine BootFlagState BootFlagAction :=
  Machine.ofStep ⟨none, fun id => (kind id).start, false⟩ (BootFlagState.step kind)

variable {kind : Nat → WriteKind} {s s' : BootFlagState} {a : BootFlagAction} {id : Nat}
  {e : WriteEvent} {l : List BootFlagAction}

def BootFlagState.Protected (s : BootFlagState) : Prop :=
  ∀ id, (s.ops id).exposed → s.flag.isSome

/-- The delayed clear of an apply removes the flag of an operation that armed it later. -/
def BootFlagState.RemovesLater (s : BootFlagState) (a : BootFlagAction) : Prop :=
  ∃ id owner, a = .op id (.timer true) ∧ s.flag = some owner ∧ owner ≠ id

/-- A clear comes while no other operation needs the flag, and a delayed clear while no other
operation has armed it. -/
def BootFlagState.ClearsOwn (s : BootFlagState) : BootFlagAction → Prop
  | .op id e => e.clears → (∀ id', id' ≠ id → ¬ (s.ops id').needsFlag) ∧
      (e = .timer true → ∀ owner, s.flag = some owner → owner = id)
  | .crash => True

/-- The invariant: an operation about to write is covered as well. -/
def BootFlagState.Covered (s : BootFlagState) : Prop :=
  ∀ id, (s.ops id).needsFlag → s.flag.isSome

theorem BootFlagState.Covered.protected (h : s.Covered) : s.Protected := by
  intro id hid
  exact h id (by simp [WritePhase.needsFlag, hid])

theorem BootFlagState.step_op (h : s.step kind (.op id e) = some s') :
    s.crashed = false ∧ ∃ p, (s.ops id).next e = some p ∧
      s' = { s with flag := flagAfter id s.flag e, ops := Function.update s.ops id p } := by
  unfold BootFlagState.step at h
  dsimp only at h
  split at h
  next => cases h
  next hc =>
    obtain ⟨p, hp, rfl⟩ := Option.map_eq_some_iff.mp h
    simp only [Bool.or_eq_true, not_or, Bool.not_eq_true] at hc
    exact ⟨hc.1.1, p, hp, rfl⟩

theorem WritePhase.needsFlag_of_next {p p' : WritePhase} (h : p.next e = some p')
    (hp : p'.needsFlag) : e = .arm ∨ p.needsFlag := by
  cases e <;> cases p <;> cases h <;> first | exact .inl rfl | exact .inr rfl | cases hp

theorem WritePhase.over_of_clears {p p' : WritePhase} (h : p.next e = some p')
    (hc : e.clears) : p' = .over := by
  cases e <;> cases p <;> cases h <;> first | rfl | cases hc

theorem flagAfter_isSome {flag : Option Nat} (hc : ¬ e.clears)
    (h : e = .arm ∨ flag.isSome) : (flagAfter id flag e).isSome := by
  unfold flagAfter
  split
  next => rfl
  next ha =>
    exact h.resolve_left fun he => ha (.inl he)

theorem flagAfter_of_clears {flag : Option Nat} (hc : e.clears) : flagAfter id flag e = none := by
  cases e <;> cases hc <;> rfl

/-- A step that clears only its own keeps every operation covered. -/
theorem BootFlagState.Covered.step (h : s.Covered) (hok : s.ClearsOwn a)
    (hs : s.step kind a = some s') : s'.Covered := by
  cases a with
  | crash =>
    simp only [BootFlagState.step] at hs
    split at hs
    next => cases hs
    next =>
      obtain rfl := Option.some.inj hs
      exact h
  | op id e =>
    obtain ⟨-, p, hp, rfl⟩ := BootFlagState.step_op hs
    intro id' hn
    by_cases hid : id' = id
    · subst hid
      have hn : p.needsFlag := by simpa using hn
      by_cases hc : e.clears
      · obtain rfl := WritePhase.over_of_clears hp hc
        cases hn
      · exact flagAfter_isSome hc ((WritePhase.needsFlag_of_next hp hn).imp_right (h id'))
    · have hn : (s.ops id').needsFlag := by simpa [hid] using hn
      by_cases hc : e.clears
      · exact absurd hn ((hok hc).1 id' hid)
      · exact flagAfter_isSome hc (.inr (h id' hn))

theorem bootFlag_covered (h : ((bootFlagMachine kind).guarded BootFlagState.ClearsOwn).Run l s) :
    s.Covered := by
  refine h.invariant ?_ ?_
  · rintro s rfl id hn
    cases hk : kind id <;> simp [hk, WriteKind.start, WritePhase.needsFlag, WritePhase.exposed]
      at hn
  · intro s a s' hs hnext
    obtain ⟨hok, hstep⟩ := hnext
    exact hs.step hok hstep

/-- A clear while another operation needs the flag leaves it exposed, at once or when it starts to
write. -/
theorem unprotected_of_clear {id' : Nat} (hc : e.clears)
    (hs : s.step kind (.op id e) = some s') (hid : id' ≠ id) (hn : (s.ops id').needsFlag) :
    ¬ s'.Protected ∨ ∃ s'', s'.step kind (.op id' .write) = some s'' ∧ ¬ s''.Protected := by
  obtain ⟨hcrash, p, -, rfl⟩ := BootFlagState.step_op hs
  rw [flagAfter_of_clears hc]
  rcases Bool.or_eq_true_iff.mp hn with harmed | hexp
  · right
    have harmed : s.ops id' = .armed := by simpa using harmed
    refine ⟨_, by simp [BootFlagState.step, hcrash, WriteKind.allows, hid, harmed,
      WritePhase.next]; rfl, ?_⟩
    intro h
    have := h id' (by simp [WritePhase.exposed])
    cases this
  · left
    intro h
    have := h id' (by simpa [hid] using hexp)
    cases this

/-- Every run whose clears meet the condition keeps the flag over whatever is exposed and never
removes a later flag; a clear that does not meet it loses the flag of another operation. -/
theorem bootFlag_protects_iff_clearsOwn (kind : Nat → WriteKind) :
    (∀ l s, ((bootFlagMachine kind).guarded BootFlagState.ClearsOwn).Run l s → s.Protected ∧
      ∀ a s', ((bootFlagMachine kind).guarded BootFlagState.ClearsOwn).step s a s' →
        ¬ s.RemovesLater a) ∧
    ∀ l s a s', (bootFlagMachine kind).Run l s → s.step kind a = some s' → ¬ s.ClearsOwn a →
      s.RemovesLater a ∨ ∃ l' s'', (bootFlagMachine kind).Run (l ++ a :: l') s'' ∧
        ¬ s''.Protected := by
  constructor
  · intro l s h
    refine ⟨(bootFlag_covered h).protected, ?_⟩
    rintro _ s' ⟨hok, -⟩ ⟨id, owner, rfl, hflag, hne⟩
    exact hne ((hok rfl).2 rfl owner hflag)
  · intro l s a s' hrun hs hno
    have hrun' : (bootFlagMachine kind).Run (l ++ [a]) s' := hrun.next hs
    cases a with
    | crash => exact absurd trivial hno
    | op id e =>
      obtain ⟨hc, hno⟩ := Classical.not_imp.mp hno
      by_cases hothers : ∀ id', id' ≠ id → ¬ (s.ops id').needsFlag
      · left
        obtain ⟨he, hforeign⟩ := Classical.not_imp.mp fun h => hno ⟨hothers, h⟩
        obtain ⟨owner, hforeign⟩ := not_forall.mp hforeign
        obtain ⟨hflag, hne⟩ := Classical.not_imp.mp hforeign
        subst he
        exact ⟨id, owner, rfl, hflag, hne⟩
      · right
        obtain ⟨id', hno⟩ := not_forall.mp hothers
        obtain ⟨hid, hn⟩ := Classical.not_imp.mp hno
        rcases unprotected_of_clear hc hs hid (not_not.mp hn) with hbad | ⟨s'', hw, hbad⟩
        · exact ⟨[], s', hrun', hbad⟩
        · have hrun'' : (bootFlagMachine kind).Run (l ++ [.op id e] ++ [.op id' .write]) s'' :=
            hrun'.next hw
          exact ⟨[.op id' .write], s'', by simpa using hrun'', hbad⟩

def secondApplyWithinWindow : List BootFlagAction :=
  [.op 0 .arm, .op 0 .write, .op 0 .persist, .op 1 .arm, .op 1 .write, .op 1 .persist,
    .op 0 (.timer true)]

/-- Two applies within eight seconds: the first timer removes the flag of the second. -/
theorem bootFlag_lost_to_first_timer :
    ¬ (∀ kind l s, (bootFlagMachine kind).Run l s → s.Protected) ∧
    ¬ ∀ kind l s a s', (bootFlagMachine kind).Run l s → s.step kind a = some s' →
      ¬ s.RemovesLater a := by
  let kind : Nat → WriteKind := fun _ => .profileApply
  constructor
  · intro h
    have hrun : ∃ s, (bootFlagMachine kind).Run secondApplyWithinWindow s ∧
        (s.ops 1).exposed ∧ s.flag = none :=
      ⟨_, Machine.run_ofStep_iff.mpr rfl, by decide, rfl⟩
    obtain ⟨s, hrun, hexp, hflag⟩ := hrun
    have := h kind _ s hrun 1 hexp
    rw [hflag] at this
    cases this
  · intro h
    have hrun : ∃ s, (bootFlagMachine kind).Run (secondApplyWithinWindow.take 6) s ∧
        s.flag = some 1 ∧ ∃ s', s.step kind (.op 0 (.timer true)) = some s' :=
      ⟨_, Machine.run_ofStep_iff.mpr rfl, rfl, _, rfl⟩
    obtain ⟨s, hrun, hflag, s', hs⟩ := hrun
    exact h kind _ s _ s' hrun hs ⟨0, 1, rfl, hflag, by decide⟩

end Nidavellir

import Mathlib.Data.List.Induction

namespace Runs

/-- A labelled transition system with its initial states. -/
structure Machine (σ α : Type*) where
  init : σ → Prop
  step : σ → α → σ → Prop

variable {σ α : Type*}

/-- The runs of a machine: the labels taken, oldest first, and the state reached. -/
inductive Machine.Run (m : Machine σ α) : List α → σ → Prop
  | start {s} (h : m.init s) : Run m [] s
  | next {l s a s'} (h : Run m l s) (hs : m.step s a s') : Run m (l ++ [a]) s'

/-- The machine that takes a step only where `ok` allows it. -/
def Machine.guarded (m : Machine σ α) (ok : σ → α → Prop) : Machine σ α where
  init := m.init
  step s a s' := ok s a ∧ m.step s a s'

theorem Machine.Run.of_guarded {m : Machine σ α} {ok : σ → α → Prop} {l : List α} {s : σ}
    (h : (m.guarded ok).Run l s) : m.Run l s := by
  induction h with
  | start h => exact .start h
  | next _ hs ih => exact ih.next hs.2

theorem Machine.Run.invariant {m : Machine σ α} {I : σ → Prop}
    (hinit : ∀ s, m.init s → I s) (hstep : ∀ s a s', I s → m.step s a s' → I s')
    {l : List α} {s : σ} (h : m.Run l s) : I s := by
  induction h with
  | start h => exact hinit _ h
  | next _ hs ih => exact hstep _ _ _ ih hs

/-- An invariant of the labels taken together with the state reached. -/
theorem Machine.Run.invariant_trace {m : Machine σ α} {I : List α → σ → Prop}
    (hinit : ∀ s, m.init s → I [] s)
    (hstep : ∀ l s a s', I l s → m.step s a s' → I (l ++ [a]) s')
    {l : List α} {s : σ} (h : m.Run l s) : I l s := by
  induction h with
  | start h => exact hinit _ h
  | next _ hs ih => exact hstep _ _ _ _ ih hs

/-- A measure that every step lowers bounds the length of a run. -/
theorem Machine.Run.length_le {m : Machine σ α} {I : σ → Prop} {μ : σ → Nat} {bound : Nat}
    (hinit : ∀ s, m.init s → I s ∧ μ s ≤ bound)
    (hstep : ∀ s a s', I s → m.step s a s' → I s' ∧ μ s' < μ s)
    {l : List α} {s : σ} (h : m.Run l s) : l.length ≤ bound := by
  have hsum : I s ∧ l.length + μ s ≤ bound := by
    refine Run.invariant_trace (I := fun l s => I s ∧ l.length + μ s ≤ bound)
      (fun s hs => ?_) (fun l s a s' ih hs => ?_) h
    · obtain ⟨hI, hμ⟩ := hinit s hs
      exact ⟨hI, by simpa using hμ⟩
    · obtain ⟨hI, hμ⟩ := ih
      obtain ⟨hI', hlt⟩ := hstep s a s' hI hs
      refine ⟨hI', ?_⟩
      rw [List.length_append, List.length_singleton]
      omega
  omega

/-- The last step of a run. -/
theorem Machine.Run.last {m : Machine σ α} {l : List α} {a : α} {s' : σ}
    (h : m.Run (l ++ [a]) s') : ∃ s, m.Run l s ∧ m.step s a s' := by
  generalize hl : l ++ [a] = w at h
  cases h with
  | start _ => simp at hl
  | @next w s b _ h hs =>
    obtain ⟨hw, hb⟩ := List.append_inj' hl rfl
    obtain rfl := List.singleton_inj.mp hb
    exact ⟨s, hw ▸ h, hs⟩

/-- What every step of some kind preserves holds from any earlier state, if only such follow. -/
theorem Machine.Run.mono_of {m : Machine σ α} {p : α → Prop} {r : σ → σ → Prop}
    (hrefl : ∀ s, r s s) (htrans : ∀ s₁ s₂ s₃, r s₁ s₂ → r s₂ s₃ → r s₁ s₃)
    (hstep : ∀ s a s', p a → m.step s a s' → r s s') {l l' : List α} {s' : σ}
    (h : m.Run (l ++ l') s') (hl : ∀ a ∈ l', p a) : ∃ s, m.Run l s ∧ r s s' := by
  induction l' using List.reverseRecOn generalizing s' with
  | nil => exact ⟨s', by simpa using h, hrefl s'⟩
  | append_singleton l' a ih =>
    rw [← List.append_assoc] at h
    obtain ⟨s₁, h, hs⟩ := h.last
    obtain ⟨s, hrun, hr⟩ := ih h fun b hb => hl b (List.mem_append_left _ hb)
    exact ⟨s, hrun, htrans s s₁ s' hr (hstep s₁ a s' (hl a (by simp)) hs)⟩

/-- The machine of a partial step function. -/
def Machine.ofStep (start : σ) (step : σ → α → Option σ) : Machine σ α where
  init s := s = start
  step s a s' := step s a = some s'

theorem Machine.run_ofStep_iff {start s : σ} {step : σ → α → Option σ} {l : List α} :
    (Machine.ofStep start step).Run l s ↔ l.foldlM step start = some s := by
  constructor
  · intro h
    induction h with
    | start h => exact congrArg some h.symm
    | @next l s₁ a s₂ _ hs ih =>
      have hs' : step s₁ a = some s₂ := hs
      simp [List.foldlM_append, ih, hs']
  · intro h
    induction l using List.reverseRecOn generalizing s with
    | nil => exact .start (Option.some.inj h).symm
    | append_singleton l a ih =>
      rw [List.foldlM_append] at h
      obtain ⟨s₁, h₁, h⟩ := Option.bind_eq_some_iff.mp h
      rw [List.foldlM_cons] at h
      obtain ⟨s₂, h₂, h⟩ := Option.bind_eq_some_iff.mp h
      obtain rfl := Option.some.inj h
      exact (ih h₁).next h₂

/-- The steps of a partial step function that a machine takes, as long as they keep `I`, are a run
from any initial state with `I`. -/
theorem Machine.Run.of_foldlM_invariant {m : Machine σ α} {step : σ → α → Option σ} {I : σ → Prop}
    (hstep : ∀ s a s', I s → step s a = some s' → m.step s a s' ∧ I s') {start s : σ}
    (hstart : m.init start) (hI : I start) {l : List α} (h : l.foldlM step start = some s) :
    m.Run l s := by
  have hrun : (Machine.ofStep start step).Run l s := Machine.run_ofStep_iff.mpr h
  clear h
  have hboth : m.Run l s ∧ I s := by
    induction hrun with
    | start heq =>
      obtain rfl : _ = start := heq
      exact ⟨.start hstart, hI⟩
    | next _ hs ih =>
      obtain ⟨hs, hI⟩ := hstep _ _ _ ih.2 hs
      exact ⟨ih.1.next hs, hI⟩
  exact hboth.1

theorem Machine.Run.of_foldlM {m : Machine σ α} {step : σ → α → Option σ}
    (hstep : ∀ s a s', step s a = some s' → m.step s a s') {start : σ} (hstart : m.init start)
    {l : List α} {s : σ} (h : l.foldlM step start = some s) : m.Run l s :=
  .of_foldlM_invariant (I := fun _ => True) (fun s a s' _ hs => ⟨hstep s a s' hs, trivial⟩) hstart
    trivial h

/-- Some steps of a partial step function lead from one state to the other. -/
def Leads (step : σ → α → Option σ) (s s' : σ) : Prop :=
  ∃ l : List α, l.foldlM step s = some s'

variable {step : σ → α → Option σ} {s s' s'' : σ}

theorem Leads.refl : Leads step s s := ⟨[], rfl⟩

theorem Leads.head {a : α} (hs : step s a = some s') (h : Leads step s' s'') :
    Leads step s s'' := by
  obtain ⟨l, hl⟩ := h
  exact ⟨a :: l, by rw [List.foldlM_cons, hs]; exact hl⟩

theorem Leads.trans (h : Leads step s s') (h' : Leads step s' s'') : Leads step s s'' := by
  obtain ⟨l, hl⟩ := h
  obtain ⟨l', hl'⟩ := h'
  exact ⟨l ++ l', by rw [List.foldlM_append, hl]; exact hl'⟩

theorem Leads.run {start : σ} {l : List α} (h : Leads step s s')
    (hrun : (Machine.ofStep start step).Run l s) :
    ∃ l', (Machine.ofStep start step).Run (l ++ l') s' := by
  obtain ⟨l', hl'⟩ := h
  refine ⟨l', Machine.run_ofStep_iff.mpr ?_⟩
  rw [List.foldlM_append, Machine.run_ofStep_iff.mp hrun]
  exact hl'

end Runs

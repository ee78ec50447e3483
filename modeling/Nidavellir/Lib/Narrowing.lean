import Mathlib.Order.Interval.Finset.Defs
import Mathlib.Data.Finset.Card

namespace Narrowing

variable {σ α ε ι : Type*}

/-- How an iteration of a loop ends. -/
inductive Flow (σ : Type*)
  | next (s : σ)
  | stop (s : σ)

def Flow.state : Flow σ → σ
  | .next s | .stop s => s

def Flow.map {τ : Type*} (f : σ → τ) : Flow σ → Flow τ
  | .next s => .next (f s)
  | .stop s => .stop (f s)

theorem Flow.map_map {τ υ : Type*} (f : σ → τ) (g : τ → υ) (flow : Flow σ) :
    (flow.map f).map g = flow.map fun s => g (f s) := by
  cases flow <;> rfl

@[simp] theorem Flow.state_map {τ : Type*} (f : σ → τ) (flow : Flow σ) :
    (flow.map f).state = f flow.state := by
  cases flow <;> rfl

/-- A loop that asks for an answer and may probe once in each iteration, for at most `fuel`
iterations. -/
def loop (cond : σ → Bool) (body : σ → α → Option ε × Flow σ) :
    (fuel : Nat) → (answers : Nat → α) → σ → List ε × Flow σ
  | 0, _, s => ([], .next s)
  | fuel + 1, answers, s =>
    if cond s then
      match body s (answers 0) with
      | (e, .stop s) => (e.toList, .stop s)
      | (e, .next s) =>
        let (es, flow) := loop cond body fuel (fun n => answers (n + 1)) s
        (e.toList ++ es, flow)
    else ([], .stop s)

/-- What holds after an iteration that goes on, and after one that stops. -/
inductive Flow.Ends (P Q : σ → Prop) : Flow σ → Prop
  | next {s} (h : P s) : Ends P Q (.next s)
  | stop {s} (h : Q s) : Ends P Q (.stop s)

section Window

variable [Preorder ι]

/-- Each probe lies in the window `[lo, hi)` left by the one before and leaves a window without
itself, with nothing above itself where it caps the search. -/
inductive Narrows (index : ε → ι) (caps : ε → Prop) : ι → ι → List ε → Prop
  | done {lo hi} : Narrows index caps lo hi []
  | probe {lo hi lo' hi' e t} (hlo : lo ≤ index e) (hhi : index e < hi) (hlo' : lo ≤ lo')
      (hhi' : hi' ≤ hi) (hout : index e < lo' ∨ hi' ≤ index e) (hcap : caps e → hi' ≤ index e)
      (ht : Narrows index caps lo' hi' t) : Narrows index caps lo hi (e :: t)

/-- What one iteration may do in a window: refuse to probe and stop, probe and stop, or probe and
go on in a narrower window in which `P` holds again. -/
inductive Shrinks (index : ε → ι) (caps : ε → Prop) (P : σ → ι → ι → Prop) (lo hi : ι) :
    Option ε × Flow σ → Prop
  | refuse {s} : Shrinks index caps P lo hi (none, .stop s)
  | last {e s} (hlo : lo ≤ index e) (hhi : index e < hi) :
      Shrinks index caps P lo hi (some e, .stop s)
  | next {e s lo' hi'} (hlo : lo ≤ index e) (hhi : index e < hi) (hlo' : lo ≤ lo')
      (hhi' : hi' ≤ hi) (hout : index e < lo' ∨ hi' ≤ index e) (hcap : caps e → hi' ≤ index e)
      (hs : P s lo' hi') : Shrinks index caps P lo hi (some e, .next s)

variable {index : ε → ι} {caps : ε → Prop} {lo hi : ι} {t : List ε} {e : ε}

theorem Narrows.mem_window (h : Narrows index caps lo hi t) (he : e ∈ t) :
    lo ≤ index e ∧ index e < hi := by
  induction h with
  | done => simp at he
  | probe hlo hhi hlo' hhi' _ _ _ ih =>
    rcases List.mem_cons.mp he with rfl | he
    · exact ⟨hlo, hhi⟩
    · obtain ⟨hl, hh⟩ := ih he
      exact ⟨hlo'.trans hl, hh.trans_le hhi'⟩

theorem Narrows.nodup (h : Narrows index caps lo hi t) : (t.map index).Nodup := by
  induction h with
  | done => exact List.nodup_nil
  | @probe _ _ _ _ e _ _ _ _ _ hout _ ht ih =>
    refine List.nodup_cons.mpr ⟨?_, ih⟩
    intro hmem
    obtain ⟨e', he', heq⟩ := List.mem_map.mp hmem
    obtain ⟨hl, hh⟩ := ht.mem_window he'
    rw [heq] at hl hh
    rcases hout with hout | hout
    · exact absurd (hout.trans_le hl) (lt_irrefl _)
    · exact absurd (hh.trans_le hout) (lt_irrefl _)

/-- After a probe that caps, only smaller indices are probed. -/
theorem Narrows.pairwise_lt (h : Narrows index caps lo hi t) :
    t.Pairwise fun e e' => caps e → index e' < index e := by
  induction h with
  | done => exact List.Pairwise.nil
  | probe _ _ _ _ _ hcap ht ih =>
    refine List.pairwise_cons.mpr ⟨?_, ih⟩
    intro e' he' hc
    exact (ht.mem_window he').2.trans_le (hcap hc)

theorem Narrows.length_le [LocallyFiniteOrder ι] (h : Narrows index caps lo hi t) :
    t.length ≤ (Finset.Ico lo hi).card := by
  have hsub : (⟨t.map index, h.nodup⟩ : Finset ι) ⊆ Finset.Ico lo hi := by
    intro i hi
    obtain ⟨e, he, rfl⟩ := List.mem_map.mp (show i ∈ t.map index from hi)
    exact Finset.mem_Ico.mpr (h.mem_window he)
  calc t.length = (t.map index).length := (List.length_map index).symm
    _ ≤ (Finset.Ico lo hi).card := Finset.card_le_card hsub

end Window

section Loop

variable [Preorder ι] {index : ε → ι} {caps : ε → Prop} {cond : σ → Bool}
  {body : σ → α → Option ε × Flow σ} {P : σ → ι → ι → Prop} {fuel : Nat} {answers : Nat → α}
  {s : σ} {lo hi : ι}

theorem loop_narrows
    (hbody : ∀ s a lo hi, P s lo hi → cond s → Shrinks index caps P lo hi (body s a))
    (h : P s lo hi) : Narrows index caps lo hi (loop cond body fuel answers s).1 := by
  induction fuel generalizing answers s lo hi with
  | zero => exact .done
  | succ fuel ih =>
    unfold loop
    split
    next hc =>
      have hs := hbody s (answers 0) lo hi h hc
      generalize body s (answers 0) = r at hs
      cases hs with
      | refuse => exact .done
      | last hlo hhi => exact .probe hlo hhi hlo hhi.le (.inr le_rfl) (fun _ => le_rfl) .done
      | next hlo hhi hlo' hhi' hout hcap hs => exact .probe hlo hhi hlo' hhi' hout hcap (ih hs)
    next => exact .done

theorem loop_length_of_next
    (hbody : ∀ s a lo hi, P s lo hi → cond s → Shrinks index caps P lo hi (body s a))
    (h : P s lo hi) {s' : σ} (hnext : (loop cond body fuel answers s).2 = .next s') :
    (loop cond body fuel answers s).1.length = fuel := by
  induction fuel generalizing answers s lo hi with
  | zero => rfl
  | succ fuel ih =>
    unfold loop at hnext ⊢
    split at hnext
    next hc =>
      have hs := hbody s (answers 0) lo hi h hc
      rw [if_pos hc]
      generalize body s (answers 0) = r at hs hnext
      cases hs with
      | refuse => cases hnext
      | last => cases hnext
      | next hlo hhi hlo' hhi' hout hcap hs => simpa using ih hs hnext
    next => cases hnext

/-- The loop stops within as many iterations as the window has elements, and one more. -/
theorem loop_stops [LocallyFiniteOrder ι]
    (hbody : ∀ s a lo hi, P s lo hi → cond s → Shrinks index caps P lo hi (body s a))
    (h : P s lo hi) (hfuel : (Finset.Ico lo hi).card < fuel) :
    ∃ s', (loop cond body fuel answers s).2 = .stop s' := by
  cases hflow : (loop cond body fuel answers s).2 with
  | stop s' => exact ⟨s', rfl⟩
  | next s' =>
    have hlen := loop_length_of_next hbody h hflow
    have hnarrow : Narrows index caps lo hi (loop cond body fuel answers s).1 :=
      loop_narrows hbody h
    have hle := hnarrow.length_le
    omega

omit [Preorder ι] in
/-- What an iteration records of its probe stays recorded along `R`, so the loop records every
probe. -/
theorem loop_records {R : σ → σ → Prop} {Q : ε → σ → Prop} (hrefl : ∀ s, R s s)
    (htrans : ∀ s₁ s₂ s₃, R s₁ s₂ → R s₂ s₃ → R s₁ s₃)
    (hkeep : ∀ e s₁ s₂, Q e s₁ → R s₁ s₂ → Q e s₂)
    (hbody : ∀ s a, R s (body s a).2.state ∧ ∀ e ∈ (body s a).1, Q e (body s a).2.state) :
    R s (loop cond body fuel answers s).2.state ∧
      ∀ e ∈ (loop cond body fuel answers s).1, Q e (loop cond body fuel answers s).2.state := by
  induction fuel generalizing answers s with
  | zero => exact ⟨hrefl s, by simp [loop]⟩
  | succ fuel ih =>
    unfold loop
    split
    next =>
      obtain ⟨hstep, hprobe⟩ := hbody s (answers 0)
      rcases hb : body s (answers 0) with ⟨e, s' | s'⟩
      · rw [hb] at hstep hprobe
        obtain ⟨hrest, hprobes⟩ := @ih (fun n => answers (n + 1)) s'
        refine ⟨htrans _ _ _ hstep hrest, ?_⟩
        intro e' he'
        rcases List.mem_append.mp he' with he' | he'
        · exact hkeep _ _ _ (hprobe e' (Option.mem_toList.mp he')) hrest
        · exact hprobes e' he'
      · rw [hb] at hstep hprobe
        exact ⟨hstep, fun e' he' => hprobe e' (Option.mem_toList.mp he')⟩
    next => exact ⟨hrefl s, by simp⟩

omit [Preorder ι] in
/-- A loop keeps `P` while it goes on and ends in `Q`. -/
theorem loop_ends {P Q : σ → Prop} (hend : ∀ s, P s → Q s)
    (hbody : ∀ s a, P s → (body s a).2.Ends P Q) (h : P s) :
    Q (loop cond body fuel answers s).2.state := by
  induction fuel generalizing answers s with
  | zero => exact hend s h
  | succ fuel ih =>
    unfold loop
    split
    next =>
      have hs := hbody s (answers 0) h
      rcases hb : body s (answers 0) with ⟨e, s' | s'⟩
      · rw [hb] at hs
        cases hs with
        | next hs => exact ih hs
      · rw [hb] at hs
        cases hs with
        | stop hs => exact hs
    next => exact hend s h

omit [Preorder ι] in
theorem loop_add {s' : σ} (hstop : (loop cond body fuel answers s).2 = .stop s') (n : Nat) :
    loop cond body (fuel + n) answers s = loop cond body fuel answers s := by
  induction fuel generalizing answers s with
  | zero => cases hstop
  | succ fuel ih =>
    rw [Nat.add_right_comm]
    unfold loop at hstop ⊢
    split at hstop
    next hc =>
      simp only [hc, if_true]
      rcases hb : body s (answers 0) with ⟨e, s₁ | s₁⟩
      · rw [hb] at hstop
        simp only [ih hstop]
      · rfl
    next hc => rw [if_neg hc, if_neg hc]

end Loop

section Traversal

/-- A loop over a list whose body sees what is still to come and may break. -/
def traverse (body : α → List α → σ → Flow σ) : List α → σ → Flow σ
  | [], s => .next s
  | a :: rest, s =>
    match body a rest s with
    | .stop s => .stop s
    | .next s => traverse body rest s

/-- What an iteration that goes on keeps, and what one that breaks leaves. -/
theorem traverse_ends {body : α → List α → σ → Flow σ} {P : List α → σ → Prop} {Q : σ → Prop}
    {all done rest : List α} {s : σ} (hsplit : all = done ++ rest) (hs : P done s)
    (hbody : ∀ done a rest s, all = done ++ a :: rest → P done s →
      (body a rest s).Ends (P (done ++ [a])) Q) :
    (traverse body rest s).Ends (P all) Q := by
  induction rest generalizing done s with
  | nil =>
    rw [List.append_nil] at hsplit
    subst hsplit
    exact .next hs
  | cons a rest ih =>
    have hends := hbody done a rest s hsplit hs
    unfold traverse
    generalize body a rest s = flow at hends
    cases hends with
    | stop hstop => exact .stop hstop
    | next hnext => exact ih (by rw [hsplit, List.append_assoc]; rfl) hnext

end Traversal

end Narrowing

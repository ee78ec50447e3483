import Mathlib.Control.Monad.Basic

namespace Nidavellir.Attempt

/-- Programs over a state that may fail; what a failed program did stays done. -/
abbrev Prog (σ ε α : Type) := ExceptT ε (StateM σ) α

variable {σ ε ε' α β : Type}

def exec (p : Prog σ ε α) (s : σ) : Except ε α × σ := (ExceptT.run p).run s

/-- The answer of a program, whichever it is. -/
def observe (p : Prog σ ε α) : Prog σ ε' (Except ε α) := ExceptT.lift (ExceptT.run p)

/-- What follows an answer: the next program, or nothing after an error. -/
def andThen (k : α → Prog σ ε β) : Except ε α × σ → Except ε β × σ
  | (.ok a, s) => exec (k a) s
  | (.error e, s) => (.error e, s)

/-- A program leaves through `ok` or through `err`. -/
def Exits (p : Prog σ ε α) (s : σ) (ok : α → σ → Prop) (err : ε → σ → Prop) : Prop :=
  match exec p s with
  | (.ok a, s') => ok a s'
  | (.error e, s') => err e s'

variable {p : Prog σ ε α} {k : α → Prog σ ε β} {s s' : σ} {ok ok' : α → σ → Prop}
  {err err' : ε → σ → Prop}

theorem Exits.ok_of_exec (h : Exits p s ok err) {a : α} (hp : exec p s = (.ok a, s')) :
    ok a s' := by
  simpa only [Exits, hp] using h

theorem Exits.err_of_exec (h : Exits p s ok err) {e : ε} (hp : exec p s = (.error e, s')) :
    err e s' := by
  simpa only [Exits, hp] using h

/-- A program that cannot fail. -/
theorem Exits.of_no_error {Q : σ → Prop} (h : Exits p s (fun _ s' => Q s') fun _ _ => False) :
    Q (exec p s).2 := by
  unfold Exits at h
  split at h
  next heq => simpa only [heq] using h
  next => exact h.elim

theorem Exits.mono (h : Exits p s ok err) (hok : ∀ a s', ok a s' → ok' a s')
    (herr : ∀ e s', err e s' → err' e s') : Exits p s ok' err' := by
  unfold Exits at h ⊢
  split at h
  next => exact hok _ _ h
  next => exact herr _ _ h

theorem Exits.and (h : Exits p s ok err) (h' : Exits p s ok' err') :
    Exits p s (fun a s' => ok a s' ∧ ok' a s') (fun e s' => err e s' ∧ err' e s') := by
  unfold Exits at h h' ⊢
  split at h
  next heq => exact ⟨h, by simpa only [heq] using h'⟩
  next heq => exact ⟨h, by simpa only [heq] using h'⟩

theorem exits_pure {a : α} (h : ok a s) : Exits (pure a : Prog σ ε α) s ok err := h

theorem exits_throw {e : ε} (h : err e s) : Exits (throw e : Prog σ ε α) s ok err := h

theorem exits_modify {f : σ → σ} {ok : Unit → σ → Prop} (h : ok () (f s)) :
    Exits (modify f : Prog σ ε Unit) s ok err := h

theorem exec_bind (p : Prog σ ε α) (k : α → Prog σ ε β) (s : σ) :
    exec (p >>= k) s = andThen k (exec p s) := by
  have hrun : exec (p >>= k) s = (ExceptT.bindCont k (exec p s).1).run (exec p s).2 := rfl
  rw [hrun]
  rcases exec p s with ⟨a | e, s'⟩ <;> rfl

theorem exits_bind {ok : β → σ → Prop} (h : Exits p s (fun a s' => Exits (k a) s' ok err) err) :
    Exits (p >>= k) s ok err := by
  unfold Exits at h ⊢
  rw [exec_bind]
  split at h
  next a s' hp => simpa only [hp, andThen] using h
  next e s' hp => simpa only [hp, andThen] using h

theorem exec_observe (p : Prog σ ε α) (s : σ) :
    exec (observe p : Prog σ ε' _) s = (.ok (exec p s).1, (exec p s).2) := rfl

theorem exits_observe {ok : Except ε α → σ → Prop} {err : ε' → σ → Prop}
    (h : Exits p s (fun a s' => ok (.ok a) s') (fun e s' => ok (.error e) s')) :
    Exits (observe p) s ok err := by
  unfold Exits at h ⊢
  rw [exec_observe]
  split at h
  next a s' hp => simpa only [hp] using h
  next e s' hp => simpa only [hp] using h

theorem exec_adapt (f : ε → ε') (p : Prog σ ε α) (s : σ) :
    exec (ExceptT.adapt f p) s = ((exec p s).1.mapError f, (exec p s).2) := rfl

theorem exits_adapt {f : ε → ε'} {err : ε' → σ → Prop}
    (h : Exits p s ok (fun e s' => err (f e) s')) : Exits (ExceptT.adapt f p) s ok err := by
  unfold Exits at h ⊢
  rw [exec_adapt]
  split at h
  next a s' hp => simpa only [hp, Except.mapError] using h
  next e s' hp => simpa only [hp, Except.mapError] using h

/-- Whichever way it leaves, the program keeps what holds. -/
def Keeps (I : σ → Prop) (p : Prog σ ε α) : Prop :=
  ∀ s, I s → Exits p s (fun _ s' => I s') (fun _ s' => I s')

variable {I : σ → Prop}

theorem keeps_pure (a : α) : Keeps I (pure a : Prog σ ε α) := fun _ h => exits_pure h

theorem Keeps.bind (hp : Keeps I p) (hk : ∀ a, Keeps I (k a)) : Keeps I (p >>= k) :=
  fun s h => exits_bind ((hp s h).mono (fun a s' hs' => hk a s' hs') fun _ _ hs' => hs')

theorem Keeps.observe (hp : Keeps I p) : Keeps I (observe p : Prog σ ε' _) :=
  fun s h => exits_observe (hp s h)

theorem Keeps.adapt {f : ε → ε'} (hp : Keeps I p) : Keeps I (ExceptT.adapt f p) :=
  fun s h => exits_adapt (hp s h)

theorem Keeps.exec {r : Except ε α} (hp : Keeps I p) (hs : I s)
    (h : Attempt.exec p s = (r, s')) : I s' := by
  cases r with
  | ok a => exact (hp s hs).ok_of_exec h
  | error e => exact (hp s hs).err_of_exec h

end Nidavellir.Attempt

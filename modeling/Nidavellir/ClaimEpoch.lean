import Nidavellir.Sentinel
import Nidavellir.Lib.CasLoop

namespace Nidavellir

open CasLoop Runs

variable {ι : Type*} (now : ι → Nat)

/-- What `claim_action_epoch` decides between its load and its exchange. -/
def claimUpdate (i : ι) (previous : Nat) : Option Nat :=
  if sameEpisode previous (now i) then none else some (now i)

/-- The calls of `claim_action_epoch` on one stamp, each with its own clock reading. -/
def claiming [DecidableEq ι] (lastAction : Nat) : Machine (Shared ι Nat) ι :=
  calling (claimUpdate now) lastAction

/-- A later action comes at least a window after an earlier one, unless there was none. -/
def Spaced (earlier later : Nat) : Prop := earlier = 0 ∨ earlier + crossLayerDedupS ≤ later

variable {now} {i j : ι} {lastAction previous epoch : Nat} {order : List ι}

theorem claimUpdate_eq_some :
    claimUpdate now i previous = some epoch ↔ sameEpisode previous (now i) = false ∧
      epoch = now i := by
  unfold claimUpdate
  split
  next h => simp [h]
  next h => simp [h, eq_comm]

theorem claimActionEpoch_eq : claimActionEpoch lastAction (now i) =
    ((claimUpdate now i lastAction).isSome, (claimUpdate now i lastAction).getD lastAction) := by
  unfold claimActionEpoch claimUpdate
  split <;> rfl

theorem spaced_iff {earlier later : Nat} :
    Spaced earlier later ↔ sameEpisode earlier later = false := by
  rw [← Bool.not_eq_true, sameEpisode_iff, Spaced]
  omega

theorem Spaced.trans {a b c : Nat} (hab : Spaced a b) (hbc : Spaced b c) : Spaced a c := by
  unfold Spaced crossLayerDedupS at *
  omega

instance : Trans Spaced Spaced Spaced := ⟨Spaced.trans⟩

theorem replay_isChain
    (h : order.foldlM (fun last i => claimUpdate now i last) lastAction = some epoch) :
    List.IsChain Spaced (lastAction :: order.map now) := by
  induction order generalizing lastAction with
  | nil => exact List.isChain_singleton lastAction
  | cons i order ih =>
    rw [List.foldlM_cons] at h
    obtain ⟨claimed, hclaim, hrest⟩ := Option.bind_eq_some_iff.mp h
    obtain ⟨hwindow, rfl⟩ := claimUpdate_eq_some.mp hclaim
    exact List.isChain_cons_cons.mpr ⟨spaced_iff.mpr hwindow, ih hrest⟩

theorem replay_pairwise
    (h : order.foldlM (fun last i => claimUpdate now i last) lastAction = some epoch) :
    order.Pairwise fun i j => Spaced (now i) (now j) := by
  have hpairwise : (lastAction :: order.map now).Pairwise Spaced :=
    List.isChain_iff_pairwise.mp (replay_isChain h)
  exact List.pairwise_map.mp (List.pairwise_cons.mp hpairwise).2

theorem replay_foldl
    (h : order.foldlM (fun last i => claimUpdate now i last) lastAction = some epoch) :
    order.foldl (fun last i => (claimActionEpoch last (now i)).2) lastAction = epoch := by
  induction order generalizing lastAction with
  | nil => exact Option.some.inj h
  | cons i order ih =>
    rw [List.foldlM_cons] at h
    obtain ⟨claimed, hclaim, hrest⟩ := Option.bind_eq_some_iff.mp h
    rw [List.foldl_cons, claimActionEpoch_eq, hclaim]
    exact ih hrest

section Runs

variable [DecidableEq ι] {s s' : Shared ι Nat} {l : List ι}

/-- Interleaved calls leave the stamp that some order of uninterrupted claims would. -/
theorem claiming_sequential (h : (claiming now lastAction).Run l s) :
    ∃ order : List ι, order.Nodup ∧ (∀ i, i ∈ order ↔ s.calls i = .returned true) ∧
      order.foldl (fun last i => (claimActionEpoch last (now i)).2) lastAction = s.value := by
  obtain ⟨order, horder⟩ := run_linear h
  exact ⟨order, horder.nodup, horder.mem_order, replay_foldl horder.replay⟩

theorem claimed_apart (h : (claiming now lastAction).Run l s) (hne : i ≠ j)
    (hi : s.calls i = .returned true) (hj : s.calls j = .returned true) (hi0 : now i ≠ 0)
    (hj0 : now j ≠ 0) :
    now i + crossLayerDedupS ≤ now j ∨ now j + crossLayerDedupS ≤ now i := by
  obtain ⟨order, horder⟩ := run_linear h
  have hsymm : Std.Symm fun i j => Spaced (now i) (now j) ∨ Spaced (now j) (now i) :=
    ⟨fun _ _ h => h.symm⟩
  have hspaced : order.Pairwise fun i j => Spaced (now i) (now j) ∨ Spaced (now j) (now i) :=
    (replay_pairwise horder.replay).imp .inl
  rcases hspaced.forall ((horder.mem_order i).mpr hi) ((horder.mem_order j).mpr hj) hne with
    hij | hji
  · exact .inl (hij.resolve_left hi0)
  · exact .inr (hji.resolve_left hj0)

/-- A claim exchanges the value it checked the window for. -/
theorem claim_fresh (h : (claiming now lastAction).Run l s)
    (hs : step (claimUpdate now) s i = some s') (hclaimed : s'.calls i = .returned true) :
    s.calls i = .exchanging s.value (now i) ∧ sameEpisode s.value (now i) = false ∧
      s'.value = now i := by
  obtain ⟨order, horder⟩ := run_linear h
  rcases step_cases hs with ⟨_, _, rfl⟩ | ⟨next, _, _, rfl⟩ | ⟨next, hcall, rfl⟩ |
    ⟨_, _, _, _, rfl⟩
  · simp at hclaimed
  · simp at hclaimed
  · obtain ⟨hwindow, rfl⟩ := claimUpdate_eq_some.mp (horder.pending i _ _ hcall)
    exact ⟨hcall, hwindow, rfl⟩
  · simp at hclaimed

end Runs

/-- However the calls interleave: claims of nonzero epochs are a window apart, a call outside the
window returns only after some claim succeeded, and every call returns. -/
theorem claimActionEpoch_exclusive {ι : Type*} [Fintype ι] [DecidableEq ι] (now : ι → Nat)
    (lastAction : Nat) {l : List ι} {s : Shared ι Nat} (h : (claiming now lastAction).Run l s) :
    (∀ i j, i ≠ j → s.calls i = .returned true → s.calls j = .returned true →
      now i ≠ 0 → now j ≠ 0 →
        now i + crossLayerDedupS ≤ now j ∨ now j + crossLayerDedupS ≤ now i) ∧
    (∀ i, sameEpisode lastAction (now i) = false → (∃ claimed, s.calls i = .returned claimed) →
      ∃ j, s.calls j = .returned true) ∧
    (∀ i s', step (claimUpdate now) s i = some s' → s'.calls i = .returned true →
      s.calls i = .exchanging s.value (now i) ∧ sameEpisode s.value (now i) = false ∧
        s'.value = now i) ∧
    l.length ≤ Fintype.card ι * (2 + 2 * Fintype.card ι) ∧
    ((∀ i, step (claimUpdate now) s i = none) →
      ∀ i, ∃ claimed, s.calls i = .returned claimed) := by
  obtain ⟨order, horder⟩ := run_linear h
  refine ⟨fun i j hne hi hj hi0 hj0 => claimed_apart h hne hi hj hi0 hj0, ?_,
    fun i s' hs hclaimed => claim_fresh h hs hclaimed, run_length_le h,
    fun hdone i => step_eq_none_iff.mp (hdone i)⟩
  rintro i hwindow ⟨claimed, hret⟩
  refine horder.exists_swapped ?_ hret
  rw [claimUpdate_eq_some.mpr ⟨hwindow, rfl⟩]
  simp

/-- Both layers load the same value; the one that loses the exchange looks at the window again. -/
theorem claimActionEpoch_exclusive_race :
    ∃ s, (claiming (fun canary : Bool => bif canary then 1000 else 1030) 900).Run
        [true, false, true, false, false] s ∧
      s.calls true = .returned true ∧ s.calls false = .returned false ∧ s.value = 1000 ∧
      ([true, false, true, false, false] : List Bool).length ≤
        Fintype.card Bool * (2 + 2 * Fintype.card Bool) := by
  have hrun := Machine.Run.next (Machine.Run.next (Machine.Run.next (Machine.Run.next
    (Machine.Run.next (m := claiming (fun canary : Bool => bif canary then 1000 else 1030) 900)
      (.start rfl) (a := true) rfl) (a := false) rfl) (a := true) rfl) (a := false) rfl)
        (a := false) rfl
  exact ⟨_, hrun, rfl, rfl, rfl, (claimActionEpoch_exclusive _ _ hrun).2.2.2.1⟩

end Nidavellir

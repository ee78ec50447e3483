import Nidavellir.BootFlagProtocol
import Nidavellir.F2TransactionCalls

namespace Nidavellir

/-- What a call of the step motor does to the flag and the hardware. A failed arm may leave a torn
flag file. -/
def F2Call.events (torn : Bool) : F2Call → List WriteEvent
  | .select _ (.ok ()) => [.select]
  | .armBootFlag (.ok ()) => [.arm]
  | .armBootFlag (.error _) => [.armFailed torn]
  | .applyPositiveOffset _ => [.write]
  | .resetToStock (.ok ()) => [.reset]
  | .clearBootFlag result => [.clear result.isOk]
  | _ => []

/-- The phase after a sequence of events, where the protocol allows them. -/
def WritePhase.path (p : WritePhase) (es : List WriteEvent) : Option WritePhase :=
  es.foldlM WritePhase.next p

theorem WritePhase.path_cons {p : WritePhase} {e : WriteEvent} {es : List WriteEvent} :
    p.path (e :: es) = (p.next e).bind fun q => q.path es :=
  List.foldlM_cons

theorem WritePhase.path_append {p q : WritePhase} {es fs : List WriteEvent}
    (h : p.path es = some q) : p.path (es ++ fs) = q.path fs := by
  unfold WritePhase.path at h ⊢
  rw [List.foldlM_append, h]
  rfl

variable {kind : Nat → WriteKind} {s : BootFlagState} {id : Nat} {torn : Bool}

theorem WritePhase.ne_ready_of_next {p q : WritePhase} {e : WriteEvent}
    (h : p.next e = some q) : q ≠ .ready := by
  cases e <;> cases p <;> cases h <;> decide

theorem WritePhase.ne_select_of_next {p q : WritePhase} {e : WriteEvent}
    (h : p.next e = some q) (hp : p ≠ .ready) : e ≠ .select := by
  rintro rfl
  cases p <;> first | exact hp rfl | cases h

/-- An operation that runs alone goes through the machine as it goes through its own phases. -/
theorem BootFlagState.foldlM_path {es : List WriteEvent} {p : WritePhase}
    (hcrash : s.crashed = false) (hes : ∀ e ∈ es, (kind id).allows e)
    (hready : s.ops id ≠ .ready) (hp : (s.ops id).path es = some p) :
    ∃ s', (es.map (BootFlagAction.op id)).foldlM (BootFlagState.step kind) s = some s' ∧
      s'.ops id = p := by
  induction es generalizing s with
  | nil => exact ⟨s, rfl, Option.some.inj hp⟩
  | cons e es ih =>
    rw [WritePhase.path_cons] at hp
    obtain ⟨q, hq, hp⟩ := Option.bind_eq_some_iff.mp hp
    have hallow := hes e List.mem_cons_self
    have hsel := WritePhase.ne_select_of_next hq hready
    have hs : s.step kind (.op id e) =
        some ⟨flagAfter id s.flag e, Function.update s.ops id q, s.crashed⟩ := by
      simp [BootFlagState.step, hcrash, hallow, hsel, hq]
    have hes' : ∀ e ∈ es, (kind id).allows e := fun e he => hes e (List.mem_cons_of_mem _ he)
    have hid : Function.update s.ops id q id = q := Function.update_self id q s.ops
    have hready' : Function.update s.ops id q id ≠ .ready := by
      rw [hid]
      exact WritePhase.ne_ready_of_next hq
    have hp' : (Function.update s.ops id q id).path es = some p := by
      rw [hid]
      exact hp
    obtain ⟨s', hrun, hs'⟩ :=
      ih (s := ⟨flagAfter id s.flag e, Function.update s.ops id q, s.crashed⟩)
        hcrash hes' hready' hp'
    exact ⟨s', by simp [hs, hrun], hs'⟩

/-- Once the write is under way only the rest of the calls matters. -/
theorem WritePhase.path_calls_append {w calls : List F2Call}
    (h : WritePhase.selected.path (w.flatMap (F2Call.events torn)) = some .writing) :
    WritePhase.selected.path ((w ++ calls).flatMap (F2Call.events torn)) =
      WritePhase.writing.path (calls.flatMap (F2Call.events torn)) := by
  rw [List.flatMap_append]
  exact WritePhase.path_append h

theorem WriteCalls.path {w : List F2Call} {o : F2Outcome} (h : WriteCalls w o) :
    WritePhase.selected.path (w.flatMap (F2Call.events torn)) = some .writing := by
  cases h <;> rfl

theorem blacklistCalls_events {b : Bool} {r : Except String Unit} :
    (blacklistCalls b r).flatMap (F2Call.events torn) = [] := by
  cases b <;> rfl

theorem CleanupCalls.path {o o' : F2Outcome} {calls : List F2Call} (h : CleanupCalls o calls o')
    (torn : Bool) :
    ∃ p, WritePhase.writing.path (calls.flatMap (F2Call.events torn)) = some p ∧
      (p.exposed → o' = .resetFailed) := by
  cases h with
  | resetFailed e b =>
    refine ⟨.writing, ?_, fun _ => rfl⟩
    simp [blacklistCalls_events, F2Call.events, WritePhase.path]
  | cleared b =>
    refine ⟨.over, ?_, by rintro ⟨⟩⟩
    simp [blacklistCalls_events, F2Call.events, WritePhase.path, WritePhase.next]
  | clearFailed b e =>
    refine ⟨.over, ?_, by rintro ⟨⟩⟩
    simp [blacklistCalls_events, F2Call.events, WritePhase.path, WritePhase.next]

/-- A step is left exposed only where it reports that. -/
theorem StepCalls.path {calls : List F2Call} {o : F2Outcome} (h : StepCalls calls o)
    (torn : Bool) :
    ∃ p, WritePhase.selected.path (calls.flatMap (F2Call.events torn)) = some p ∧
      (p.exposed → o = .resetFailed ∨ o = .deviceLost) := by
  cases h with
  | armFailed e r =>
    refine ⟨.over, ?_, by rintro ⟨⟩⟩
    rcases r with e | ⟨⟩ <;> rfl
  | deviceLost hw r b =>
    rw [WritePhase.path_calls_append hw.path]
    rcases r with e | ⟨⟩
    · exact ⟨.writing, rfl, fun _ => .inr rfl⟩
    · exact ⟨.reset, rfl, by rintro ⟨⟩⟩
  | cleaned hw _ hc =>
    obtain ⟨p, hp, hexp⟩ := hc.path torn
    rw [WritePhase.path_calls_append hw.path]
    exact ⟨p, hp, fun h => .inl (hexp h)⟩

theorem F2Call.events_allowed {c : F2Call} {e : WriteEvent} (h : e ∈ c.events torn) :
    WriteKind.f2Candidate.allows e := by
  unfold F2Call.events at h
  split at h <;> simp at h <;> subst h <;> rfl

/-- Calls that are a path of a candidate are a part of a run of the protocol. -/
theorem candidate_run {calls : List F2Call} {p : WritePhase} (hkind : kind id = .f2Candidate)
    (hcrash : s.crashed = false) (hsel : s.ops id = .selected)
    (hp : WritePhase.selected.path (calls.flatMap (F2Call.events torn)) = some p) :
    ∃ s', ((calls.flatMap (F2Call.events torn)).map (BootFlagAction.op id)).foldlM
        (BootFlagState.step kind) s = some s' ∧ s'.ops id = p := by
  have hes : ∀ e ∈ calls.flatMap (F2Call.events torn), (kind id).allows e := by
    intro e he
    obtain ⟨c, -, he⟩ := List.mem_flatMap.mp he
    rw [hkind]
    exact F2Call.events_allowed he
  exact BootFlagState.foldlM_path hcrash hes (by simp [hsel]) (hsel ▸ hp)

/-- The step motor is a candidate of the protocol that has passed `select`. -/
theorem runConfirmedF2Step_refines {O : Type*} [F2Ops O] [BuildEnv] (self : Traced O)
    (hkind : kind id = .f2Candidate) (hcrash : s.crashed = false) (hsel : s.ops id = .selected) :
    ∃ calls s', (runConfirmedF2Step self).2.calls = self.calls ++ calls ∧
      ((calls.flatMap (F2Call.events torn)).map (BootFlagAction.op id)).foldlM
        (BootFlagState.step kind) s = some s' ∧
      ((s'.ops id).exposed → (runConfirmedF2Step self).1.outcome = .resetFailed ∨
        (runConfirmedF2Step self).1.outcome = .deviceLost) := by
  obtain ⟨calls, hcalls, hstep, -⟩ := runConfirmedF2Step_calls self
  obtain ⟨p, hp, hexp⟩ := hstep.path torn
  obtain ⟨s', hrun, rfl⟩ := candidate_run hkind hcrash hsel hp
  exact ⟨calls, s', hcalls, hrun, hexp⟩

theorem TransactionWrite.path {w : List F2Call} (h : TransactionWrite w) :
    WritePhase.selected.path (w.flatMap (F2Call.events torn)) = some .writing := by
  have hdwells : ∀ ds : List F2DwellOutcome,
      (ds.map F2Call.dwell).flatMap (F2Call.events torn) = [] := by
    intro ds
    induction ds with
    | nil => rfl
    | cons d ds ih => exact ih
  cases h with
  | applyFailed e => rfl
  | verifyFailed v => rfl
  | phases ds => simp [F2Call.events, hdwells, WritePhase.path, WritePhase.next]

theorem transactionCleanupCalls_path (torn lost boundary : Bool)
    (reset listed cleared : Except String Unit) :
    ∃ p, WritePhase.writing.path ((transactionCleanupCalls lost boundary reset listed
        cleared).flatMap (F2Call.events torn)) = some p ∧ (p.exposed → reset.isOk = false) := by
  rcases reset with e | ⟨⟩
  · refine ⟨.writing, ?_, fun _ => rfl⟩
    cases lost <;> cases boundary <;> rfl
  · have hnot : ∀ p, p = WritePhase.reset ∨ p = .over → ¬ p.exposed := by
      rintro p (rfl | rfl) ⟨⟩
    rcases listed with e | ⟨⟩ <;> cases lost <;> cases boundary <;>
      first
        | exact ⟨.over, rfl, fun h => absurd h (hnot _ (.inr rfl))⟩
        | exact ⟨.reset, rfl, fun h => absurd h (hnot _ (.inl rfl))⟩

/-- A transaction is left exposed only where its cleanup is not clean. -/
theorem TransactionCalls.path {lost boundary clean : Bool} {calls : List F2Call}
    (h : TransactionCalls lost boundary calls clean) (torn : Bool) :
    ∃ p, WritePhase.selected.path (calls.flatMap (F2Call.events torn)) = some p ∧
      (p.exposed → clean = false) := by
  cases h with
  | armFailed e r =>
    refine ⟨.over, ?_, by rintro ⟨⟩⟩
    rcases r with e | ⟨⟩ <;> rfl
  | cleaned hw reset listed cleared =>
    obtain ⟨p, hp, hexp⟩ :=
      transactionCleanupCalls_path torn lost boundary reset listed cleared
    rw [WritePhase.path_calls_append hw.path]
    refine ⟨p, hp, fun h => ?_⟩
    have hreset := hexp h
    simp [hreset]

/-- A candidate transaction is a candidate of the protocol that has passed `select`. -/
theorem runF2Transaction_refines {O : Type*} [F2CandidateTransactionOps O] [BuildEnv] (ops : O)
    (phases : List (Nat × F2StressPurpose)) (collect : List F2StepReport → List F2StepReport)
    (hkind : kind id = .f2Candidate) (hcrash : s.crashed = false) (hsel : s.ops id = .selected) :
    let run := runF2Transaction (⟨ops, []⟩ : Traced O) phases collect
    ∃ s', ((run.ops.calls.flatMap (F2Call.events torn)).map (BootFlagAction.op id)).foldlM
        (BootFlagState.step kind) s = some s' ∧
      ((s'.ops id).exposed → run.cleanup.clean = false) := by
  intro run
  obtain ⟨p, hp, hexp⟩ := (runF2Transaction_calls ops phases collect).1.path torn
  obtain ⟨s', hrun, rfl⟩ := candidate_run hkind hcrash hsel hp
  exact ⟨s', hrun, hexp⟩

end Nidavellir

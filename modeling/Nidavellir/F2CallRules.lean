import Nidavellir.F2Calls

namespace Nidavellir

open F2Ops Trace

/-- A write comes right after a successful arm. -/
def WritesArmed (before : List F2Call) (e : F2Call) (_ : List F2Call) : Prop :=
  ∀ r, e = .applyPositiveOffset r → [.armBootFlag (.ok ())] <:+ before

/-- A successful arm is followed by a reset of the same candidate. -/
def ArmsReset (_ : List F2Call) (e : F2Call) (after : List F2Call) : Prop :=
  e = .armBootFlag (.ok ()) → ∃ mid r rest, after = mid ++ .resetToStock r :: rest ∧
    ∀ i s, F2Call.select i s ∉ mid

/-- A clear comes after a successful reset, with at most the blacklist call of the same
candidate in between. -/
def ClearsReset (before : List F2Call) (e : F2Call) (_ : List F2Call) : Prop :=
  ∀ r, e = .clearBootFlag r → [.resetToStock (.ok ())] <:+ before ∨
    ∃ b, [.resetToStock (.ok ()), .blacklistPoint false b] <:+ before

theorem writesArmed_local : Local WritesArmed :=
  fun c before _ _ _ h r he => (h r he).trans (List.suffix_append c before)

theorem armsReset_local : Local ArmsReset := by
  intro c before e after d h he
  obtain ⟨mid, r, rest, rfl, hmid⟩ := h he
  exact ⟨mid, r, rest ++ d, by simp, hmid⟩

theorem clearsReset_local : Local ClearsReset := by
  intro c before e after d h r he
  rcases h r he with h | ⟨b, h⟩
  · exact Or.inl (h.trans (List.suffix_append c before))
  · exact Or.inr ⟨b, h.trans (List.suffix_append c before)⟩

theorem CleanupCalls.writesArmed {o o' : F2Outcome} {calls : List F2Call}
    (h : CleanupCalls o calls o') : Every WritesArmed calls := by
  cases h <;> cases o.isBoundary <;> simp [every_cons, every_nil, WritesArmed, blacklistCalls]

theorem CleanupCalls.clearsReset {o o' : F2Outcome} {calls : List F2Call}
    (h : CleanupCalls o calls o') : Every ClearsReset calls := by
  cases h with
  | resetFailed e b =>
    cases o.isBoundary <;> simp [every_cons, every_nil, ClearsReset, blacklistCalls]
  | cleared b | clearFailed b =>
    cases o.isBoundary
    · simp [every_cons, every_nil, ClearsReset, blacklistCalls]
    · simp [every_cons, every_nil, ClearsReset, blacklistCalls]
      exact Or.inr ⟨b, List.suffix_refl _⟩

theorem CleanupCalls.exists_reset {o o' : F2Outcome} {calls : List F2Call}
    (h : CleanupCalls o calls o') : ∃ r rest, calls = .resetToStock r :: rest ∧
      ∀ s, F2Call.armBootFlag s ∉ rest := by
  cases h <;> cases o.isBoundary <;> simp [blacklistCalls]

theorem WriteCalls.writesArmed {w : List F2Call} {o : F2Outcome} (h : WriteCalls w o) :
    Every WritesArmed w := by
  cases h <;> simp [every_cons, every_nil, WritesArmed]

theorem WriteCalls.clearsReset {w : List F2Call} {o : F2Outcome} (h : WriteCalls w o) :
    Every ClearsReset w := by
  cases h <;> simp [every_cons, every_nil, ClearsReset]

theorem WriteCalls.head {w : List F2Call} {o : F2Outcome} (h : WriteCalls w o) :
    ∃ mid, w = .armBootFlag (.ok ()) :: mid ∧ (∀ s, F2Call.armBootFlag s ∉ mid) ∧
      ∀ i s, F2Call.select i s ∉ mid := by
  cases h <;> simp

/-- The reset after a write answers its arm. -/
theorem WriteCalls.armsReset {w rest : List F2Call} {o : F2Outcome} (h : WriteCalls w o)
    {r : Except String Unit} (hrest : ∀ s, F2Call.armBootFlag s ∉ rest) :
    Every ArmsReset (w ++ .resetToStock r :: rest) := by
  obtain ⟨mid, rfl, harm, hselect⟩ := h.head
  rw [List.cons_append, every_cons]
  refine ⟨fun _ => ⟨mid, r, rest, rfl, hselect⟩, ?_⟩
  rintro before e after heq rfl
  have hmem : F2Call.armBootFlag (.ok ()) ∈ mid ++ .resetToStock r :: rest := by simp [heq]
  simp [harm, hrest] at hmem

theorem StepCalls.writesArmed {calls : List F2Call} {o : F2Outcome} (h : StepCalls calls o) :
    Every WritesArmed calls := by
  cases h with
  | armFailed e r => simp [every_cons, every_nil, WritesArmed]
  | deviceLost hw r b =>
    exact hw.writesArmed.append writesArmed_local (by simp [every_cons, every_nil, WritesArmed])
  | cleaned hw ho hc => exact hw.writesArmed.append writesArmed_local hc.writesArmed

theorem StepCalls.clearsReset {calls : List F2Call} {o : F2Outcome} (h : StepCalls calls o) :
    Every ClearsReset calls := by
  cases h with
  | armFailed e r => simp [every_cons, every_nil, ClearsReset]
  | deviceLost hw r b =>
    exact hw.clearsReset.append clearsReset_local (by simp [every_cons, every_nil, ClearsReset])
  | cleaned hw ho hc => exact hw.clearsReset.append clearsReset_local hc.clearsReset

theorem StepCalls.armsReset {calls : List F2Call} {o : F2Outcome} (h : StepCalls calls o) :
    Every ArmsReset calls := by
  cases h with
  | armFailed e r => simp [every_cons, every_nil, ArmsReset]
  | deviceLost hw r b => exact hw.armsReset (by simp)
  | cleaned hw ho hc =>
    obtain ⟨r, rest, rfl, hrest⟩ := hc.exists_reset
    exact hw.armsReset hrest

theorem StepCalls.select_notMem {calls : List F2Call} {o : F2Outcome} (h : StepCalls calls o)
    (i : Nat) (s : Except String Unit) : F2Call.select i s ∉ calls := by
  cases h with
  | armFailed e r => simp
  | deviceLost hw r b =>
    obtain ⟨mid, rfl, -, hmid⟩ := hw.head
    simp [hmid]
  | cleaned hw ho hc =>
    obtain ⟨mid, rfl, -, hmid⟩ := hw.head
    cases hc <;> cases F2Outcome.isBoundary _ <;> simp [blacklistCalls, hmid]

/-- Every call of a validated step, all of them successful. -/
def validatedCalls : List F2Call :=
  [.armBootFlag (.ok ()), .applyPositiveOffset (.ok ()), .verify .raiseVerified, .dwell .stable,
    .resetToStock (.ok ()), .clearBootFlag (.ok ())]

theorem F2DwellOutcome.reported_eq_validated {d : F2DwellOutcome} :
    d.reported = .validated ↔ d = .stable := by
  cases d <;> simp [F2DwellOutcome.reported]

theorem WriteCalls.validated_iff {w : List F2Call} {o : F2Outcome} (h : WriteCalls w o) :
    o = .validated ↔ w = [.armBootFlag (.ok ()), .applyPositiveOffset (.ok ()),
      .verify .raiseVerified, .dwell .stable] := by
  cases h with
  | applyFailed e => simp
  | verifyFailed v hv => simp
  | dwelt ho => simp [← ho, F2DwellOutcome.reported_eq_validated]

theorem CleanupCalls.validated_iff {o o' : F2Outcome} {calls : List F2Call}
    (h : CleanupCalls o calls o') : o' = .validated ↔
      o = .validated ∧ calls = [.resetToStock (.ok ()), .clearBootFlag (.ok ())] := by
  cases h with
  | resetFailed e b => simp
  | clearFailed b e => cases o.isBoundary <;> simp [blacklistCalls]
  | cleared b =>
    refine ⟨?_, fun h => h.1⟩
    rintro rfl
    exact ⟨rfl, rfl⟩

theorem StepCalls.validated_iff {calls : List F2Call} {o : F2Outcome} (h : StepCalls calls o) :
    o = .validated ↔ calls = validatedCalls := by
  cases h with
  | armFailed e r => simp [validatedCalls]
  | deviceLost hw r b =>
    refine ⟨fun h => by simp at h, fun h => ?_⟩
    have hlast := congrArg List.getLast? h
    simp [validatedCalls] at hlast
  | cleaned hw ho hc =>
    rw [hc.validated_iff, hw.validated_iff]
    constructor
    · rintro ⟨rfl, rfl⟩
      rfl
    · intro h
      cases hw with
      | applyFailed e => simp [validatedCalls] at h
      | verifyFailed v hv => exact absurd (by simpa [validatedCalls] using h) (by simp [hv])
      | dwelt d => simpa [validatedCalls] using h

end Nidavellir

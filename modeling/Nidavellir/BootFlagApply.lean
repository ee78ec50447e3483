import Nidavellir.BootFlagMotors
import Nidavellir.GpuApply

namespace Nidavellir

open Trace

/-- How a failed anchored write ended: refused before any write, or written and then confirmed at
stock or not. -/
inductive AnchoredFailure
  | refused
  | confirmed
  | unconfirmed

def AnchoredFailure.events : AnchoredFailure → List WriteEvent
  | refused => []
  | confirmed => [.write, .reset]
  | unconfirmed => [.write]

def ApplyCall.events (torn : Bool) (failure : AnchoredFailure) : ApplyCall → List WriteEvent
  | .armBootFlag _ _ (.ok ()) => [.arm]
  | .armBootFlag _ _ (.error _) => [.armFailed torn]
  | .applyCore _ _ | .setMemOffsetMhz _ _ => [.write]
  | .applyAnchoredUndervolt _ _ (.ok ()) => [.write]
  | .applyAnchoredUndervolt _ _ (.error _) => failure.events
  | .resetAll (.ok ()) => [.reset]
  | .spawnClear => [.persist]
  | _ => []

variable {O : Type*} {self self' : Recorded ApplyCall O} {torn : Bool} {failure : AnchoredFailure}

theorem ApplyCall.events_allowed {c : ApplyCall} {e : WriteEvent}
    (h : e ∈ c.events torn failure) : WriteKind.profileApply.allows e := by
  unfold ApplyCall.events AnchoredFailure.events at h
  split at h <;> (try split at h) <;> simp at h <;>
    first | (subst h; rfl) | (rcases h with rfl | rfl <;> rfl)

variable (torn failure) in
/-- A part of an apply that takes the protocol from `p` to `q`. -/
def ApplyPart (self self' : Recorded ApplyCall O) (p q : WritePhase) : Prop :=
  ∃ calls, self'.calls = self.calls ++ calls ∧
    p.path (calls.flatMap (ApplyCall.events torn failure)) = some q

theorem ApplyPart.refl {p : WritePhase} : ApplyPart torn failure self self p p :=
  ⟨[], by simp, rfl⟩

theorem ApplyPart.trans {p q r : WritePhase} {self'' : Recorded ApplyCall O}
    (h : ApplyPart torn failure self self' p q) (h' : ApplyPart torn failure self' self'' q r) :
    ApplyPart torn failure self self'' p r := by
  obtain ⟨calls, hc, hp⟩ := h
  obtain ⟨calls', hc', hp'⟩ := h'
  exact ⟨calls ++ calls', by simp [hc', hc],
    by rw [List.flatMap_append, WritePhase.path_append hp, hp']⟩

theorem ApplyPart.call {p q : WritePhase} {c : ApplyCall} (hc : self'.calls = self.calls ++ [c])
    (hp : p.path (c.events torn failure) = some q) : ApplyPart torn failure self self' p q :=
  ⟨[c], hc, by simpa using hp⟩

/-- A part of an apply is a part of a run of the protocol. -/
theorem ApplyPart.run {kind : Nat → WriteKind} {s : BootFlagState} {id : Nat} {p q : WritePhase}
    (h : ApplyPart torn failure self self' p q) (hkind : kind id = .profileApply)
    (hcrash : s.crashed = false) (hs : s.ops id = p) (hp : p ≠ .ready) :
    ∃ calls s', self'.calls = self.calls ++ calls ∧
      ((calls.flatMap (ApplyCall.events torn failure)).map (BootFlagAction.op id)).foldlM
        (BootFlagState.step kind) s = some s' ∧ s'.ops id = q := by
  obtain ⟨calls, hc, hpath⟩ := h
  have hes : ∀ e ∈ calls.flatMap (ApplyCall.events torn failure), (kind id).allows e := by
    intro e he
    obtain ⟨c, -, he⟩ := List.mem_flatMap.mp he
    rw [hkind]
    exact ApplyCall.events_allowed he
  obtain ⟨s', hrun, hq⟩ := BootFlagState.foldlM_path hcrash hes (hs ▸ hp) (hs ▸ hpath)
  exact ⟨calls, s', hc, hrun, hq⟩

/-- An optional write leaves the operation armed or writing. -/
theorem applySome_part {α : Type*} {p : WritePhase} (self : Recorded ApplyCall O) (x : Option α)
    (call : α → Except String Unit → ApplyCall) (op : α → O → Except String Unit × O)
    (hcall : ∀ a r, (call a r).events torn failure = [.write]) (hp : p = .armed ∨ p = .writing) :
    ∃ result self' q, applySome x (fun a (self : Recorded ApplyCall O) =>
        self.record (call a) (op a)) self = (result, self') ∧
      ApplyPart torn failure self self' p q ∧ (q = .armed ∨ q = .writing) := by
  cases x with
  | none => exact ⟨_, self, p, rfl, .refl, hp⟩
  | some a =>
    obtain ⟨result, self', h, hc⟩ := self.record_spec (call a) (op a)
    refine ⟨result, self', .writing, h, .call hc ?_, .inr rfl⟩
    rw [hcall]
    rcases hp with rfl | rfl <;> rfl

section Calls

variable [GpuApplyOps O]

theorem applyCore_part (self : Recorded ApplyCall O) (core : Option VfPoint) {p : WritePhase}
    (hp : p = .armed ∨ p = .writing) :
    ∃ result self' q, applySome core GpuApplyOps.applyCore self = (result, self') ∧
      ApplyPart torn failure self self' p q ∧ (q = .armed ∨ q = .writing) :=
  applySome_part self core ApplyCall.applyCore GpuApplyOps.applyCore (fun _ _ => rfl) hp

theorem setMemOffsetMhz_part (self : Recorded ApplyCall O) (memOffsetMhz : Option Int)
    {p : WritePhase} (hp : p = .armed ∨ p = .writing) :
    ∃ result self' q, applySome memOffsetMhz GpuApplyOps.setMemOffsetMhz self = (result, self') ∧
      ApplyPart torn failure self self' p q ∧ (q = .armed ∨ q = .writing) :=
  applySome_part self memOffsetMhz ApplyCall.setMemOffsetMhz GpuApplyOps.setMemOffsetMhz
    (fun _ _ => rfl) hp

theorem persistApplied_part (self : Recorded ApplyCall O) {p : WritePhase}
    {profile : Option String → AppliedProfile} (hp : p = .armed ∨ p = .writing) :
    ∃ self' w, persistApplied profile self = (.ok (), self') ∧
      ApplyPart torn failure self self' p (.surviving w) := by
  obtain ⟨now, t₁, h₁, hc₁⟩ := self.record_spec ApplyCall.nowRfc3339 GpuApplyOps.nowRfc3339
  obtain ⟨⟨⟩, t₂, h₂, hc₂⟩ := t₁.record_spec (fun _ => .saveApplied (profile (some now)))
    (GpuApplyOps.saveApplied (profile (some now)))
  obtain ⟨⟨⟩, t₃, h₃, hc₃⟩ := t₂.record_spec (fun _ => ApplyCall.spawnClear)
    GpuApplyOps.spawnClear
  have h : persistApplied profile self = (.ok (), t₃) := by
    simp only [persistApplied, GpuApplyOps.nowRfc3339, GpuApplyOps.saveApplied,
      GpuApplyOps.spawnClear, h₁, h₂, h₃]
  have hpersist : ∃ w, ApplyPart torn failure t₂ t₃ p (.surviving w) := by
    rcases hp with rfl | rfl
    · exact ⟨false, .call hc₃ rfl⟩
    · exact ⟨true, .call hc₃ rfl⟩
  obtain ⟨w, hpersist⟩ := hpersist
  exact ⟨t₃, w, h, (ApplyPart.call hc₁ rfl).trans ((ApplyPart.call hc₂ rfl).trans hpersist)⟩

theorem armBootFlag_part (self : Recorded ApplyCall O) (intent : TuningPoint) (phase : String) :
    ∃ result self' q, GpuApplyOps.armBootFlag intent phase self = (result, self') ∧
      ApplyPart torn failure self self' .selected q ∧
      q = if result.isOk then .armed else .over := by
  obtain ⟨result, self', h, hc⟩ := self.record_spec (ApplyCall.armBootFlag intent phase)
    (GpuApplyOps.armBootFlag intent phase)
  refine ⟨result, self', _, h, .call hc ?_, rfl⟩
  rcases result with e | ⟨⟩ <;> rfl

/-- An apply opens its survival window exactly where it succeeds. -/
theorem applyAndPersist_part (self : Recorded ApplyCall O) (label : String)
    (core : Option VfPoint) (memOffsetMhz : Option Int) :
    ∃ result self' p, applyAndPersist label core memOffsetMhz self = (result, self') ∧
      ApplyPart torn failure self self' .selected p ∧
      (result.isOk ↔ ∃ w, p = .surviving w) := by
  unfold applyAndPersist
  obtain ⟨armed, t₁, q₁, h₁, hp₁, rfl⟩ :=
    armBootFlag_part self (applyIntent core memOffsetMhz) "gpu_apply"
  rw [h₁]
  rcases armed with e | ⟨⟩
  · exact ⟨_, _, _, rfl, hp₁, by simp⟩
  obtain ⟨applied, t₂, q₂, h₂, hp₂, hq₂⟩ := applyCore_part t₁ core (.inl rfl)
  have hp₂ := hp₁.trans hp₂
  simp only [h₂]
  rcases applied with e | ⟨⟩
  · exact ⟨_, _, _, rfl, hp₂, by rcases hq₂ with rfl | rfl <;> simp⟩
  obtain ⟨applied, t₃, q₃, h₃, hp₃, hq₃⟩ := setMemOffsetMhz_part t₂ memOffsetMhz hq₂
  have hp₃ := hp₂.trans hp₃
  simp only [h₃]
  rcases applied with e | ⟨⟩
  · exact ⟨_, _, _, rfl, hp₃, by rcases hq₃ with rfl | rfl <;> simp⟩
  obtain ⟨t₄, w, h₄, hp₄⟩ := persistApplied_part t₃ hq₃
  exact ⟨_, t₄, _, h₄, hp₃.trans hp₄, by simp⟩

/-- The anchored write, which resets by itself where it fails. -/
theorem applyAnchoredUndervolt_part (self : Recorded ApplyCall O) (targetMhz anchorMv : Nat) :
    ∃ result self' q, GpuApplyOps.applyAnchoredUndervolt targetMhz anchorMv self =
        (result, self') ∧
      ApplyPart torn failure self self' .armed q ∧ (∀ w, q ≠ .surviving w) ∧
      (result.isOk → q = .writing) := by
  obtain ⟨result, self', h, hc⟩ := self.record_spec
    (ApplyCall.applyAnchoredUndervolt targetMhz anchorMv)
    (GpuApplyOps.applyAnchoredUndervolt targetMhz anchorMv)
  rcases result with e | ⟨⟩
  · cases failure with
    | refused => exact ⟨_, self', .armed, h, .call hc rfl, by simp, by simp⟩
    | confirmed => exact ⟨_, self', .reset, h, .call hc rfl, by simp, by simp⟩
    | unconfirmed => exact ⟨_, self', .writing, h, .call hc rfl, by simp, by simp⟩
  · exact ⟨_, self', .writing, h, .call hc rfl, by simp, by simp⟩

/-- The stock reset after a failed memory offset. -/
theorem resetAfterMemory_part (self : Recorded ApplyCall O) {p : WritePhase}
    (hp : p = .armed ∨ p = .writing) :
    ∃ result self₁ self₂ q, GpuApplyOps.resetToStock self = ((), self₁) ∧
      GpuApplyOps.resetAll self₁ = (result, self₂) ∧
      ApplyPart torn failure self self₂ p q ∧ ∀ w, q ≠ .surviving w := by
  obtain ⟨⟨⟩, t₁, h₁, hc₁⟩ := self.record_spec (fun _ => ApplyCall.resetToStock)
    GpuApplyOps.resetToStock
  obtain ⟨result, t₂, h₂, hc₂⟩ := t₁.record_spec ApplyCall.resetAll GpuApplyOps.resetAll
  have hp₁ : ApplyPart torn failure self t₁ p p := .call hc₁ rfl
  rcases result with e | ⟨⟩
  · refine ⟨_, t₁, t₂, p, h₁, h₂, hp₁.trans (.call hc₂ rfl), ?_⟩
    rcases hp with rfl | rfl <;> simp
  · refine ⟨_, t₁, t₂, .reset, h₁, h₂, hp₁.trans (.call hc₂ ?_), by simp⟩
    rcases hp with rfl | rfl <;> rfl

/-- An undervolt apply opens its survival window exactly where it succeeds. -/
theorem applyAndPersistUndervolt_part (self : Recorded ApplyCall O) (label : String)
    (targetMhz anchorMv : Nat) (memOffsetMhz : Option Int) :
    ∃ result self' p, applyAndPersistUndervolt label targetMhz anchorMv memOffsetMhz self =
        (result, self') ∧
      ApplyPart torn failure self self' .selected p ∧
      (result.isOk ↔ ∃ w, p = .surviving w) := by
  unfold applyAndPersistUndervolt
  obtain ⟨armed, t₁, q₁, h₁, hp₁, rfl⟩ := armBootFlag_part self
    (undervoltIntent targetMhz anchorMv memOffsetMhz) "gpu_apply_undervolt"
  rw [h₁]
  rcases armed with e | ⟨⟩
  · exact ⟨_, _, _, rfl, hp₁, by simp⟩
  obtain ⟨applied, t₂, q₂, h₂, hp₂, hw₂, hq₂⟩ :=
    applyAnchoredUndervolt_part t₁ targetMhz anchorMv
  have hp₂ := hp₁.trans hp₂
  simp only [h₂]
  rcases applied with e | ⟨⟩
  · exact ⟨_, _, _, rfl, hp₂, by simpa using hw₂⟩
  obtain ⟨applied, t₃, q₃, h₃, hp₃, hq₃⟩ :=
    setMemOffsetMhz_part t₂ memOffsetMhz (.inr (hq₂ rfl))
  have hp₃ := hp₂.trans hp₃
  simp only [h₃]
  rcases applied with e | ⟨⟩
  · obtain ⟨reset, t₄, t₅, q₅, h₄, h₅, hp₅, hw₅⟩ := resetAfterMemory_part t₃ hq₃
    simp only [h₄, h₅]
    rcases reset with e' | ⟨⟩ <;> exact ⟨_, t₅, q₅, rfl, hp₃.trans hp₅, by simpa using hw₅⟩
  obtain ⟨t₄, w, h₄, hp₄⟩ := persistApplied_part t₃ hq₃
  exact ⟨_, t₄, _, h₄, hp₃.trans hp₄, by simp⟩

/-- Both applies are operations of the protocol. -/
theorem applies_refine {kind : Nat → WriteKind} {s : BootFlagState} {id : Nat}
    (self : Recorded ApplyCall O) (hkind : kind id = .profileApply) (hcrash : s.crashed = false)
    (hsel : s.ops id = .selected) {apply : Recorded ApplyCall O →
      Except String Unit × Recorded ApplyCall O}
    (happly : (∃ label core mem, apply = applyAndPersist label core mem) ∨
      ∃ label targetMhz anchorMv mem,
        apply = applyAndPersistUndervolt label targetMhz anchorMv mem) :
    ∃ calls s', (apply self).2.calls = self.calls ++ calls ∧
      ((calls.flatMap (ApplyCall.events torn failure)).map (BootFlagAction.op id)).foldlM
        (BootFlagState.step kind) s = some s' ∧
      ((apply self).1.isOk ↔ ∃ w, s'.ops id = .surviving w) := by
  have hpart : ∃ result self' p, apply self = (result, self') ∧
      ApplyPart torn failure self self' .selected p ∧
      (result.isOk ↔ ∃ w, p = .surviving w) := by
    rcases happly with ⟨label, core, mem, rfl⟩ | ⟨label, targetMhz, anchorMv, mem, rfl⟩
    · exact applyAndPersist_part self label core mem
    · exact applyAndPersistUndervolt_part self label targetMhz anchorMv mem
  obtain ⟨result, self', p, happ, hpart, hok⟩ := hpart
  obtain ⟨calls, s', hc, hrun, rfl⟩ := hpart.run hkind hcrash hsel (by simp)
  rw [happ]
  exact ⟨calls, s', hc, hrun, hok⟩

end Calls

end Nidavellir

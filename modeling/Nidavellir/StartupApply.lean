import Nidavellir.StartupFlag

namespace Nidavellir

open Trace

/-- The steps of an apply that its calls are: the arm, torn or not where it failed, and the save.
The clear after the survival window comes from another thread. -/
def ApplyCall.startupEvents (operator : Bool) (profile : AppliedProfile) (timestamp : String)
    (torn : Bool) (save : FileResult) : ApplyCall → List StartupEvent
  | .armBootFlag _ _ (.ok ()) => [.apply operator profile timestamp .done]
  | .armBootFlag _ _ (.error e) => [.apply operator profile timestamp (.failed e torn)]
  | .saveApplied saved => [.persist operator saved save]
  | _ => []

section Emits

variable {O : Type*} {self self' self'' : Recorded ApplyCall O}
variable {operator : Bool} {profile : AppliedProfile} {timestamp : String} {torn : Bool}
variable {save : FileResult}

variable (operator profile timestamp torn save) in
/-- The calls between two points of an apply are these events. -/
def Emits (self self' : Recorded ApplyCall O) (events : List StartupEvent) : Prop :=
  ∃ calls, self'.calls = self.calls ++ calls ∧
    calls.flatMap (ApplyCall.startupEvents operator profile timestamp torn save) = events

theorem Emits.refl : Emits operator profile timestamp torn save self self [] :=
  ⟨[], by simp, rfl⟩

theorem Emits.trans {events events' : List StartupEvent}
    (h : Emits operator profile timestamp torn save self self' events)
    (h' : Emits operator profile timestamp torn save self' self'' events') :
    Emits operator profile timestamp torn save self self'' (events ++ events') := by
  obtain ⟨calls, hcalls, hevents⟩ := h
  obtain ⟨calls', hcalls', hevents'⟩ := h'
  refine ⟨calls ++ calls', ?_, ?_⟩
  · rw [hcalls', hcalls, List.append_assoc]
  · rw [List.flatMap_append, hevents, hevents']

theorem Emits.call {c : ApplyCall} (h : self'.calls = self.calls ++ [c]) :
    Emits operator profile timestamp torn save self self'
      (c.startupEvents operator profile timestamp torn save) :=
  ⟨[c], h, by simp⟩

/-- An optional hardware write is no event. -/
theorem applySome_emits {α : Type*} (self : Recorded ApplyCall O) (x : Option α)
    (call : α → Except String Unit → ApplyCall) (op : α → O → Except String Unit × O)
    (hcall : ∀ a r, (call a r).startupEvents operator profile timestamp torn save = []) :
    ∃ result self', applySome x (fun a (self : Recorded ApplyCall O) =>
        self.record (call a) (op a)) self = (result, self') ∧
      Emits operator profile timestamp torn save self self' [] := by
  cases x with
  | none => exact ⟨_, self, rfl, .refl⟩
  | some a =>
    obtain ⟨result, self', h, hc⟩ := self.record_spec (call a) (op a)
    refine ⟨result, self', h, ?_⟩
    have hemits : Emits operator profile timestamp torn save self self' _ := .call hc
    rwa [hcall] at hemits

variable [GpuApplyOps O]

theorem persistApplied_emits (self : Recorded ApplyCall O)
    (build : Option String → AppliedProfile) (pair : Option UndervoltApply)
    (hpair : ∀ now, (build now).undervolt = pair) :
    ∃ self' saved, persistApplied build self = (.ok (), self') ∧ saved.undervolt = pair ∧
      Emits operator profile timestamp torn save self self' [.persist operator saved save] := by
  obtain ⟨now, t₁, h₁, hc₁⟩ := self.record_spec ApplyCall.nowRfc3339 GpuApplyOps.nowRfc3339
  obtain ⟨⟨⟩, t₂, h₂, hc₂⟩ := t₁.record_spec (fun _ => .saveApplied (build (some now)))
    (GpuApplyOps.saveApplied (build (some now)))
  obtain ⟨⟨⟩, t₃, h₃, hc₃⟩ := t₂.record_spec (fun _ => ApplyCall.spawnClear)
    GpuApplyOps.spawnClear
  have h : persistApplied build self = (.ok (), t₃) := by
    simp only [persistApplied, GpuApplyOps.nowRfc3339, GpuApplyOps.saveApplied,
      GpuApplyOps.spawnClear, h₁, h₂, h₃]
  exact ⟨t₃, build (some now), h, hpair (some now),
    (Emits.call hc₁).trans ((Emits.call hc₂).trans (Emits.call hc₃))⟩

theorem applyCore_emits (self : Recorded ApplyCall O) (core : Option VfPoint) :
    ∃ result self', applySome core GpuApplyOps.applyCore self = (result, self') ∧
      Emits operator profile timestamp torn save self self' [] :=
  applySome_emits self core ApplyCall.applyCore GpuApplyOps.applyCore (fun _ _ => rfl)

theorem setMemOffsetMhz_emits (self : Recorded ApplyCall O) (memOffsetMhz : Option Int) :
    ∃ result self', applySome memOffsetMhz GpuApplyOps.setMemOffsetMhz self = (result, self') ∧
      Emits operator profile timestamp torn save self self' [] :=
  applySome_emits self memOffsetMhz ApplyCall.setMemOffsetMhz GpuApplyOps.setMemOffsetMhz
    (fun _ _ => rfl)

/-- What follows the arm of an apply: nothing the directory sees, or the save of a profile with
the pair. -/
def SavesAtMost (operator : Bool) (pair : Option UndervoltApply) (save : FileResult)
    (events : List StartupEvent) : Prop :=
  events = [] ∨ ∃ saved, saved.undervolt = pair ∧ events = [.persist operator saved save]

theorem applyAndPersist_emits (self : Recorded ApplyCall O) (label : String)
    (core : Option VfPoint) (memOffsetMhz : Option Int) :
    ∃ armed t events,
      t.calls = self.calls ++ [.armBootFlag (applyIntent core memOffsetMhz) "gpu_apply" armed] ∧
      Emits operator profile timestamp torn save t
        (applyAndPersist label core memOffsetMhz self).2 events ∧
      (armed.isOk = false → events = []) ∧ SavesAtMost operator none save events := by
  obtain ⟨armed, t₁, h₁, hc₁⟩ := self.record_spec
    (ApplyCall.armBootFlag (applyIntent core memOffsetMhz) "gpu_apply")
    (GpuApplyOps.armBootFlag (applyIntent core memOffsetMhz) "gpu_apply")
  have harm : GpuApplyOps.armBootFlag (applyIntent core memOffsetMhz) "gpu_apply" self =
      (armed, t₁) := h₁
  unfold applyAndPersist
  rw [harm]
  rcases armed with e | ⟨⟩
  · exact ⟨_, t₁, [], hc₁, .refl, fun _ => rfl, Or.inl rfl⟩
  obtain ⟨applied, t₂, h₂, he₂⟩ := applyCore_emits t₁ core
  simp only [h₂]
  rcases applied with e | ⟨⟩
  · exact ⟨_, t₁, [], hc₁, he₂, fun _ => rfl, Or.inl rfl⟩
  obtain ⟨offset, t₃, h₃, he₃⟩ := setMemOffsetMhz_emits t₂ memOffsetMhz
  have he₃ := he₂.trans he₃
  simp only [h₃]
  rcases offset with e | ⟨⟩
  · exact ⟨_, t₁, [], hc₁, he₃, fun _ => rfl, Or.inl rfl⟩
  obtain ⟨t₄, saved, h₄, hsaved, he₄⟩ := persistApplied_emits t₃
    (⟨label, core, memOffsetMhz, ·, none⟩) none (fun _ => rfl)
  simp only [h₄]
  exact ⟨_, t₁, _, hc₁, he₃.trans he₄, by simp [Except.isOk, Except.toBool],
    Or.inr ⟨saved, hsaved, rfl⟩⟩

/-- A failed anchored write or memory offset saves nothing. -/
theorem resetAfterMemory_emits (self : Recorded ApplyCall O) :
    ∃ result self₁ self₂, GpuApplyOps.resetToStock self = ((), self₁) ∧
      GpuApplyOps.resetAll self₁ = (result, self₂) ∧
      Emits operator profile timestamp torn save self self₂ [] := by
  obtain ⟨⟨⟩, t₁, h₁, hc₁⟩ := self.record_spec (fun _ => ApplyCall.resetToStock)
    GpuApplyOps.resetToStock
  obtain ⟨result, t₂, h₂, hc₂⟩ := t₁.record_spec ApplyCall.resetAll GpuApplyOps.resetAll
  exact ⟨result, t₁, t₂, h₁, h₂, (Emits.call hc₁).trans (Emits.call hc₂)⟩

theorem applyAndPersistUndervolt_emits (self : Recorded ApplyCall O) (label : String)
    (targetMhz anchorMv : Nat) (memOffsetMhz : Option Int) :
    ∃ armed t events,
      t.calls = self.calls ++ [.armBootFlag (undervoltIntent targetMhz anchorMv memOffsetMhz)
        "gpu_apply_undervolt" armed] ∧
      Emits operator profile timestamp torn save t
        (applyAndPersistUndervolt label targetMhz anchorMv memOffsetMhz self).2 events ∧
      (armed.isOk = false → events = []) ∧
      SavesAtMost operator (some ⟨targetMhz, anchorMv⟩) save events := by
  obtain ⟨armed, t₁, h₁, hc₁⟩ := self.record_spec
    (ApplyCall.armBootFlag (undervoltIntent targetMhz anchorMv memOffsetMhz)
      "gpu_apply_undervolt")
    (GpuApplyOps.armBootFlag (undervoltIntent targetMhz anchorMv memOffsetMhz)
      "gpu_apply_undervolt")
  have harm : GpuApplyOps.armBootFlag (undervoltIntent targetMhz anchorMv memOffsetMhz)
      "gpu_apply_undervolt" self = (armed, t₁) := h₁
  unfold applyAndPersistUndervolt
  rw [harm]
  rcases armed with e | ⟨⟩
  · exact ⟨_, t₁, [], hc₁, .refl, fun _ => rfl, Or.inl rfl⟩
  obtain ⟨applied, t₂, h₂, hc₂⟩ := t₁.record_spec
    (ApplyCall.applyAnchoredUndervolt targetMhz anchorMv)
    (GpuApplyOps.applyAnchoredUndervolt targetMhz anchorMv)
  have hanchored : GpuApplyOps.applyAnchoredUndervolt targetMhz anchorMv t₁ =
      (applied, t₂) := h₂
  have he₂ : Emits operator profile timestamp torn save t₁ t₂ [] := .call hc₂
  simp only [hanchored]
  rcases applied with e | ⟨⟩
  · exact ⟨_, t₁, [], hc₁, he₂, fun _ => rfl, Or.inl rfl⟩
  obtain ⟨offset, t₃, h₃, he₃⟩ := setMemOffsetMhz_emits t₂ memOffsetMhz
  have he₃ := he₂.trans he₃
  simp only [h₃]
  rcases offset with e | ⟨⟩
  · obtain ⟨reset, t₄, t₅, h₄, h₅, he₅⟩ := resetAfterMemory_emits t₃
    have he₅ := he₃.trans he₅
    simp only [h₄, h₅]
    rcases reset with e' | ⟨⟩ <;> exact ⟨_, t₁, [], hc₁, he₅, fun _ => rfl, Or.inl rfl⟩
  obtain ⟨t₄, saved, h₄, hsaved, he₄⟩ := persistApplied_emits t₃
    (⟨label, some ⟨targetMhz, anchorMv⟩, memOffsetMhz, ·, some ⟨targetMhz, anchorMv⟩⟩)
    (some ⟨targetMhz, anchorMv⟩) (fun _ => rfl)
  simp only [h₄]
  exact ⟨_, t₁, _, hc₁, he₃.trans he₄, by simp [Except.isOk, Except.toBool],
    Or.inr ⟨saved, hsaved, rfl⟩⟩

variable (operator profile timestamp torn save) in
/-- The apply of a profile arms its flag first and saves at most a profile of the same pair. -/
theorem reapply_emits (self : Recorded ApplyCall O) (ap : AppliedProfile) :
    ∃ armed t events,
      t.calls = self.calls ++ [.armBootFlag (ap.bootFlag timestamp).intent
        (ap.bootFlag timestamp).phase armed] ∧
      Emits operator profile timestamp torn save t (reapply ap self).2 events ∧
      (armed.isOk = false → events = []) ∧ SavesAtMost operator ap.undervolt save events := by
  unfold reapply AppliedProfile.bootFlag
  cases ap.undervolt with
  | none => exact applyAndPersist_emits self ap.label ap.core ap.memOffsetMhz
  | some uv =>
    exact applyAndPersistUndervolt_emits self ap.label uv.targetMhz uv.anchorMv ap.memOffsetMhz

/-- The apply of a profile is a run of the startup machine from any state that is not down. -/
theorem reapply_refines (self : Recorded ApplyCall O) (ap : AppliedProfile)
    {s : StartupState} (hdown : s.down = false) :
    ∃ calls s', (reapply ap self).2.calls = self.calls ++ calls ∧
      (calls.flatMap (ApplyCall.startupEvents operator ap timestamp torn save)).foldlM
        StartupState.step s = some s' := by
  obtain ⟨armed, t, events, hc, ⟨calls, hcalls, hevents⟩, hfailed, hsaves⟩ :=
    reapply_emits operator ap timestamp torn save self ap
  have hall : (reapply ap self).2.calls = self.calls ++ (.armBootFlag
      (ap.bootFlag timestamp).intent (ap.bootFlag timestamp).phase armed :: calls) := by
    rw [hcalls, hc, List.append_assoc, List.singleton_append]
  have hstep : ∀ result, s.step (.apply operator ap timestamp result) =
      some (s.applied operator ap timestamp result) := by
    intro result
    simp [StartupState.step, StartupState.act, hdown]
  rcases armed with e | ⟨⟩
  · refine ⟨_, s.applied operator ap timestamp (.failed e torn), hall, ?_⟩
    rw [List.flatMap_cons, hevents, hfailed rfl]
    simp [ApplyCall.startupEvents, hstep]
  · have hup : (s.applied operator ap timestamp .done).down = false := hdown
    rcases hsaves with hnone | hsome
    · refine ⟨_, s.applied operator ap timestamp .done, hall, ?_⟩
      rw [List.flatMap_cons, hevents, hnone]
      simp [ApplyCall.startupEvents, hstep]
    · obtain ⟨saved, hpair, hsaved⟩ := hsome
      have happlying : (operator, saved.undervolt) ∈
          (s.applied operator ap timestamp .done).applying := by
        rw [hpair]
        exact List.mem_cons_self
      have hsave : (s.applied operator ap timestamp .done).step (.persist operator saved save) =
          some ((s.applied operator ap timestamp .done).persisted operator saved save) := by
        simp [StartupState.step, StartupState.act, hup, happlying]
      refine ⟨_, (s.applied operator ap timestamp .done).persisted operator saved save, hall, ?_⟩
      rw [List.flatMap_cons, hevents, hsaved]
      simp [ApplyCall.startupEvents, hstep, hsave]

end Emits

/-- A re-apply that goes on is the apply of the profile it loaded. -/
theorem StartupState.reapplied_eq {s : StartupState} {rebootRequired : Option String}
    {disarm : FileResult} {profile : AppliedProfile}
    (h : (reapplyOnBoot rebootRequired disarm s.dir).1 = some profile) (timestamp : String)
    (arm : FileResult) :
    s.reapplied rebootRequired disarm timestamp arm =
      s.applied false profile timestamp arm := by
  have hdir := (reapplyOnBoot_eq_some h).2.2.2
  have hboth : reapplyOnBoot rebootRequired disarm s.dir = (some profile, s.dir) :=
    Prod.ext h hdir
  rw [StartupState.reapplied, hboth]

end Nidavellir

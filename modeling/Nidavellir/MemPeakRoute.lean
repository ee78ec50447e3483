import Nidavellir.RecoveryLatch

namespace Nidavellir

open GpuApplyOps Trace

/-- A write of the core: the ceiling that flattens down, or the anchored undervolt. -/
inductive CoreWrite
  | ceiling (point : VfPoint)
  | anchored (uv : UndervoltApply)
deriving DecidableEq, Repr

/-- The core write that re-applies the profile at boot. -/
def AppliedProfile.coreWrite (profile : AppliedProfile) : Option CoreWrite :=
  match profile.undervolt with
  | some uv => some (.anchored uv)
  | none => profile.core.map .ceiling

def TuningCall.coreWrite : TuningCall → Option CoreWrite
  | .apply (.applyCore point _) => some (.ceiling point)
  | .apply (.applyAnchoredUndervolt targetMhz anchorMv _) => some (.anchored ⟨targetMhz, anchorMv⟩)
  | _ => none

def TuningCall.saved : TuningCall → Option AppliedProfile
  | .apply (.saveApplied profile) => some profile
  | _ => none

section Calls

variable {O : Type*} {self self' self'' : Recorded TuningCall O}

/-- The further calls, by what they write to the core and the profiles that they save. -/
def Adds (self self' : Recorded TuningCall O) (writes : List CoreWrite)
    (profiles : List AppliedProfile) : Prop :=
  ∃ calls, self'.calls = self.calls ++ calls ∧
    calls.filterMap TuningCall.coreWrite = writes ∧ calls.filterMap TuningCall.saved = profiles

theorem Adds.refl : Adds self self [] [] := ⟨[], by simp, rfl, rfl⟩

theorem Adds.trans {writes writes' : List CoreWrite} {profiles profiles' : List AppliedProfile}
    (h : Adds self self' writes profiles) (h' : Adds self' self'' writes' profiles') :
    Adds self self'' (writes ++ writes') (profiles ++ profiles') := by
  obtain ⟨calls, hc, rfl, rfl⟩ := h
  obtain ⟨calls', hc', rfl, rfl⟩ := h'
  exact ⟨calls ++ calls', by simp [hc', hc], List.filterMap_append, List.filterMap_append⟩

theorem Adds.record {R : Type*} {call : R → TuningCall} {op : O → R × O} {result : R}
    (h : self.record call op = (result, self')) :
    Adds self self' (call result).coreWrite.toList (call result).saved.toList := by
  obtain ⟨rfl, rfl⟩ := Prod.mk.inj h
  refine ⟨[call (op self.ops).1], rfl, ?_, ?_⟩
  · rw [List.filterMap_cons]
    cases (call (op self.ops).1).coreWrite <;> rfl
  · rw [List.filterMap_cons]
    cases (call (op self.ops).1).saved <;> rfl

theorem applied_success {r : Except String Unit × Recorded TuningCall O} {peak : Int}
    (h : (applied s!"Applied memory +{peak} MHz" r).1 =
      .success s!"Applied memory +{peak} MHz") : r.1 = .ok () := by
  obtain ⟨result, self⟩ := r
  cases result with
  | ok => rfl
  | error e =>
    have hmessage := IpcResponse.success.inj h
    have hletter := congrArg (fun s : String => s.toList.take 6) hmessage
    simp [toString] at hletter

variable [TuningOps O] {label : String} {core : Option VfPoint} {mem : Option Int}

theorem setMem_adds {result : Except String Unit}
    (h : applySome mem setMemOffsetMhz self = (result, self')) : Adds self self' [] [] := by
  cases mem with
  | none =>
    obtain ⟨-, rfl⟩ := Prod.mk.inj h
    exact .refl
  | some m =>
    change self.record (fun r => .apply (.setMemOffsetMhz m r)) (setMemOffsetMhz m) = _ at h
    exact Adds.record h

theorem applyCore_adds {result : Except String Unit}
    (h : applySome core applyCore self = (result, self')) :
    Adds self self' (core.map .ceiling).toList [] := by
  cases core with
  | none =>
    obtain ⟨-, rfl⟩ := Prod.mk.inj h
    exact .refl
  | some point =>
    change self.record (fun r => .apply (.applyCore point r)) (applyCore point) = _ at h
    exact Adds.record h

theorem persistApplied_adds (profile : Option String → AppliedProfile)
    (self : Recorded TuningCall O) :
    ∃ now, Adds self (persistApplied profile self).2 [] [profile (some now)] := by
  unfold persistApplied
  split
  next now t₁ h₁ =>
    split
    next t₂ h₂ =>
      split
      next t₃ h₃ =>
        exact ⟨now, (Adds.record h₁).trans ((Adds.record h₂).trans (Adds.record h₃))⟩

/-- A ceiling apply that succeeds saves a profile without an undervolt. -/
theorem applyAndPersist_adds (h : (applyAndPersist label core mem self).1 = .ok ()) :
    ∃ now, Adds self (applyAndPersist label core mem self).2 (core.map .ceiling).toList
      [⟨label, core, mem, some now, none⟩] := by
  unfold applyAndPersist at h ⊢
  split at h
  next => cases h
  next t₁ harm =>
    split at h
    next => cases h
    next t₂ hcore =>
      split at h
      next => cases h
      next t₃ hmem =>
        obtain ⟨now, hpersist⟩ := persistApplied_adds (⟨label, core, mem, ·, none⟩) t₃
        have hadds := (Adds.record harm).trans
          ((applyCore_adds hcore).trans ((setMem_adds hmem).trans hpersist))
        simp only [List.append_nil] at hadds
        exact ⟨now, hadds⟩

theorem applyAndPersistUndervolt_adds {targetMhz anchorMv : Nat}
    (h : (applyAndPersistUndervolt label targetMhz anchorMv mem self).1 = .ok ()) :
    ∃ now, Adds self (applyAndPersistUndervolt label targetMhz anchorMv mem self).2
      [.anchored ⟨targetMhz, anchorMv⟩]
      [⟨label, some ⟨targetMhz, anchorMv⟩, mem, some now, some ⟨targetMhz, anchorMv⟩⟩] := by
  unfold applyAndPersistUndervolt at h ⊢
  split at h
  next => cases h
  next t₁ harm =>
    split at h
    next => cases h
    next t₂ hcore =>
      split at h
      next =>
        split at h
        split at h <;> cases h
      next t₃ hmem =>
        obtain ⟨now, hpersist⟩ := persistApplied_adds
          (⟨label, some ⟨targetMhz, anchorMv⟩, mem, ·, some ⟨targetMhz, anchorMv⟩⟩) t₃
        have hadds := (Adds.record harm).trans
          ((Adds.record hcore).trans ((setMem_adds hmem).trans hpersist))
        exact ⟨now, hadds⟩

/-- The boot writes the core of a profile by the route of its kind, and keeps the kind. -/
theorem reapply_adds {profile : AppliedProfile} (h : (reapply profile self).1 = .ok ()) :
    ∃ saved, Adds self (reapply profile self).2 profile.coreWrite.toList [saved] ∧
      saved.coreWrite = profile.coreWrite := by
  obtain ⟨label, core, mem, appliedAt, undervolt⟩ := profile
  cases undervolt with
  | none =>
    obtain ⟨now, hadds⟩ := applyAndPersist_adds h
    exact ⟨_, hadds, rfl⟩
  | some uv =>
    obtain ⟨now, hadds⟩ := applyAndPersistUndervolt_adds h
    exact ⟨_, hadds, rfl⟩

/-- The profile with another memory offset. An empty one gets a name. -/
def AppliedProfile.withMemory (profile : AppliedProfile) (peakOffsetMhz : Int) (now : String) :
    AppliedProfile :=
  { profile with
      label := if profile.label.isEmpty then "Custom" else profile.label
      memOffsetMhz := some peakOffsetMhz
      appliedAt := some now }

/-- A memory apply that leaves the rest of the profile alone: what it saves, and the writer that it
gives the core to. -/
def KeepsRest (profile : AppliedProfile) (peakOffsetMhz : Int) (calls : List TuningCall) : Prop :=
  (∃ now, calls.filterMap TuningCall.saved = [profile.withMemory peakOffsetMhz now]) ∧
    calls.filterMap TuningCall.coreWrite = profile.coreWrite.toList

theorem AppliedProfile.withMemory_undervolt (profile : AppliedProfile) (peak : Int)
    (now : String) : (profile.withMemory peak now).undervolt = profile.undervolt := rfl

/-- A memory apply that is done keeps the rest of the persisted profile just when that profile is
no undervolt. -/
theorem applyMemPeak_keeps_iff (view : ServiceView) (self : Recorded TuningCall O)
    (hdone : (applyMemPeak view self).1 =
      .success s!"Applied memory +{view.peakOffsetMhz} MHz") :
    ∃ calls, (applyMemPeak view self).2.calls = self.calls ++ calls ∧
      (KeepsRest (loadAppliedOrDefault view.dir) view.peakOffsetMhz calls ↔
        (loadAppliedOrDefault view.dir).undervolt = none) := by
  unfold applyMemPeak at hdone ⊢
  split at hdone
  next => cases hdone
  next hpeak =>
    rw [if_neg hpeak, applied_snd]
    obtain ⟨now, calls, hcalls, hcore, hsaved⟩ := applyAndPersist_adds (applied_success hdone)
    refine ⟨calls, hcalls, ?_⟩
    unfold KeepsRest
    rw [hcore, hsaved]
    constructor
    · rintro ⟨⟨now', hkept⟩, -⟩
      have hkept := congrArg AppliedProfile.undervolt (List.singleton_inj.mp hkept)
      rw [AppliedProfile.withMemory_undervolt] at hkept
      exact hkept.symm
    · intro hnone
      refine ⟨⟨now, ?_⟩, ?_⟩
      · unfold AppliedProfile.withMemory
        rw [hnone]
      · unfold AppliedProfile.coreWrite
        rw [hnone]

end Calls

/-- The service behind a memory sweep that peaked at 500 MHz, with a profile on disk. -/
def memPeakView (profile : AppliedProfile) : ServiceView where
  dir := { applied := .holds profile }
  peakOffsetMhz := 500

theorem memPeak_keeps_ceiling :
    ∃ calls, (applyMemPeak (memPeakView ⟨"Godforge", some ⟨1700, 850⟩, none, none, none⟩)
        (⟨⟨⟩, []⟩ : Recorded TuningCall WillingCard)).2.calls = [] ++ calls ∧
      (KeepsRest ⟨"Godforge", some ⟨1700, 850⟩, none, none, none⟩ 500 calls ↔
        (none : Option UndervoltApply) = none) :=
  applyMemPeak_keeps_iff (memPeakView ⟨"Godforge", some ⟨1700, 850⟩, none, none, none⟩)
    (⟨⟨⟩, []⟩ : Recorded TuningCall WillingCard) rfl

/-- A persisted undervolt at 2000 MHz and 850 mV is written and saved as a ceiling at the same
numbers. -/
theorem memPeak_flattens_undervolt :
    (applyMemPeak (memPeakView ⟨"Godforge", some ⟨2000, 850⟩, none, none, some ⟨2000, 850⟩⟩)
        (⟨⟨⟩, []⟩ : Recorded TuningCall WillingCard)).1 = .success "Applied memory +500 MHz" ∧
    (applyMemPeak (memPeakView ⟨"Godforge", some ⟨2000, 850⟩, none, none, some ⟨2000, 850⟩⟩)
        (⟨⟨⟩, []⟩ : Recorded TuningCall WillingCard)).2.calls =
      [.apply (.armBootFlag (applyIntent (some ⟨2000, 850⟩) (some 500)) "gpu_apply" (.ok ())),
        .apply (.applyCore ⟨2000, 850⟩ (.ok ())), .apply (.setMemOffsetMhz 500 (.ok ())),
        .apply (.nowRfc3339 "2026-07-18T21:50:00Z"),
        .apply (.saveApplied ⟨"Godforge", some ⟨2000, 850⟩, some 500,
          some "2026-07-18T21:50:00Z", none⟩), .apply .spawnClear] ∧
    (⟨"Godforge", some ⟨2000, 850⟩, none, none, some ⟨2000, 850⟩⟩ :
      AppliedProfile).coreWrite = some (.anchored ⟨2000, 850⟩) :=
  ⟨by decide, rfl, rfl⟩

end Nidavellir

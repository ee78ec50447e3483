import Nidavellir.TuningRequests

namespace Nidavellir

open GpuApplyOps SafeLoopStore Trace

inductive TuningCall
  | apply (call : ApplyCall)
  | gpuCtxNew (result : Except String Unit)
  | resetCoreClockLock (result : Except String Unit)
  | clearApplied
  | clearBootFlag (result : Except String Unit)
  | goesOn (op : GpuOperation)

/-- The call writes the card, arms the flag, or changes the persisted profile. -/
def TuningCall.touches : TuningCall → Bool
  | .apply (.armBootFlag _ _ result) => result.isOk
  | .apply (.nowRfc3339 _) | .apply .spawnClear => false
  | .apply _ | .resetCoreClockLock _ | .clearApplied | .goesOn _ => true
  | .gpuCtxNew _ | .clearBootFlag _ => false

section Recorder

variable {O : Type*} [TuningOps O]

instance : GpuApplyOps (Recorded TuningCall O) where
  armBootFlag intent phase self :=
    self.record (fun r => .apply (.armBootFlag intent phase r)) (armBootFlag intent phase)
  applyCore point self := self.record (fun r => .apply (.applyCore point r)) (applyCore point)
  applyAnchoredUndervolt targetMhz anchorMv self :=
    self.record (fun r => .apply (.applyAnchoredUndervolt targetMhz anchorMv r))
      (applyAnchoredUndervolt targetMhz anchorMv)
  setMemOffsetMhz offsetMhz self :=
    self.record (fun r => .apply (.setMemOffsetMhz offsetMhz r)) (setMemOffsetMhz offsetMhz)
  resetToStock self := self.record (fun _ => .apply .resetToStock) resetToStock
  resetAll self := self.record (fun r => .apply (.resetAll r)) resetAll
  nowRfc3339 self := self.record (fun now => .apply (.nowRfc3339 now)) nowRfc3339
  saveApplied profile self :=
    self.record (fun _ => .apply (.saveApplied profile)) (GpuApplyOps.saveApplied profile)
  spawnClear self := self.record (fun _ => .apply .spawnClear) spawnClear

instance : TuningOps (Recorded TuningCall O) where
  gpuCtxNew self := self.record .gpuCtxNew TuningOps.gpuCtxNew
  resetCoreClockLock self := self.record .resetCoreClockLock TuningOps.resetCoreClockLock
  clearApplied self := self.record (fun _ => .clearApplied) TuningOps.clearApplied
  clearBootFlag self := self.record .clearBootFlag TuningOps.clearBootFlag
  goesOn op self := self.record (fun _ => .goesOn op) (TuningOps.goesOn op)

end Recorder

/-- The record latches the service at stock. -/
def SafeLoopRecord.AwaitsOperator (record : SafeLoopRecord) : Prop :=
  record.safeMode = true ∨ record.pendingForgeIncident.isSome = true

namespace ServiceView

variable (view : ServiceView)

def record : SafeLoopRecord := loadRecord view.dir

/-- The save of the stripped record tore the file, and the latch with it. -/
def losesRecord : Bool :=
  view.archived && decide (0 < (stripGpuVfBlacklist view.record).2) && view.savedStripped.isTorn

/-- The handler, or the worker it starts, asks for the latch that is set. -/
def Consults : TuningRequest → Prop
  | .startPowerSweep | .startPowerSweepFast | .startPowerSweepLong | .resumePowerSweep => True
  | .startPowerSweepClean =>
    view.record.pendingForgeIncident.isSome = true ∨ view.losesRecord = false
  | .applyPowerGodforge | .applyPowerBrokkrs | .applyPowerDeepCalm =>
    view.record.pendingForgeIncident.isSome = true
  | .applyManualDiagnosticPoint _ _ => view.record.safeMode = true
  | _ => False

/-- What the apply of an undervolt point arms once its power and its approval are confirmed. -/
def undervoltPointIntent (p : PowerSweepPoint) : Option (TuningPoint × String) :=
  if !(p.powerP99W.any fun power => decide (0 < power)) then none
  else if !p.approved then none
  else
    some (undervoltIntent (undervoltApplyParams p).1 (undervoltApplyParams p).2
      (loadAppliedOrDefault view.dir).memOffsetMhz, "gpu_apply_undervolt")

/-- The field guard or the ledger refuses the point. -/
def condemnsPoint (p : PowerSweepPoint) : Bool :=
  fieldPairBlacklisted view.record (undervoltApplyParams p).1 (undervoltApplyParams p).2 ||
    view.condemned.refuses (undervoltApplyParams p).1 (undervoltApplyParams p).2

/-- The intent and the phase that an apply of a Forge profile arms, once the checks of the point
have passed. -/
def forgeIntent (pt : Option PowerSweepPoint) : Option (TuningPoint × String) :=
  if view.isUndervolt then
    if !view.forge.profilesQualified then none
    else
      pt.bind fun p => if view.condemnsPoint p then none else view.undervoltPointIntent p
  else
    pt.map fun p => (applyIntent (some ⟨p.clockMhz, p.voltageMv⟩)
      (loadAppliedOrDefault view.dir).memOffsetMhz, "gpu_apply")

def sweepIntent (profile : Option GpuProfile) : Option (TuningPoint × String) :=
  profile.map fun chosen =>
    (applyIntent (some chosen.point) (loadAppliedOrDefault view.dir).memOffsetMhz, "gpu_apply")

/-- What an apply arms; `none` where one of its own checks refuses. -/
def armedIntent : TuningRequest → Option (TuningPoint × String)
  | .applyGodforge => view.sweepIntent (view.profiles.map (·.godforge))
  | .applyBrokkrs => view.sweepIntent (view.profiles.map (·.brokkrsBest))
  | .applyDeepCalm => view.sweepIntent (view.profiles.map (·.deepCalm))
  | .applyMemPeak =>
    if view.peakOffsetMhz ≤ 0 then none
    else
      some (applyIntent (loadAppliedOrDefault view.dir).core (some view.peakOffsetMhz), "gpu_apply")
  | .applyPowerGodforge => view.forgeIntent view.forge.godforge
  | .applyPowerBrokkrs => view.forgeIntent view.forge.brokkrs
  | .applyPowerDeepCalm => view.forgeIntent view.forge.deepCalm
  | _ => none

/-- The flag that the apply would arm cannot be written. -/
def ArmFails {O : Type*} [TuningOps O] (ops : O) (request : TuningRequest) : Prop :=
  ∀ intent phase, view.armedIntent request = some (intent, phase) →
    (GpuApplyOps.armBootFlag intent phase ops).1.isOk = false

/-- A check that has nothing to do with the latches stops the request, or the flag or the GPU
context that it needs first fails. -/
def StopsAnyway {O : Type*} [TuningOps O] (ops : O) : TuningRequest → Prop
  | .startRealSweep | .startRealSweepFast =>
    view.handleRunning .realSweep = true ∨ (TuningOps.gpuCtxNew ops).1.isOk = false
  | .startMemSweep =>
    view.handleRunning .memSweep = true ∨ (TuningOps.gpuCtxNew ops).1.isOk = false
  | .startForgeAll => view.handleRunning .forgeAll = true
  | .startBenchmark => view.handleRunning .benchmark = true ∨ loadApplied view.dir = none
  | .startPowerSweepClean =>
    view.handleRunning .powerSweep = true ∨ isBootFlagArmed view.dir = true
  | .applyManualDiagnosticPoint targetMhz voltageMv =>
    (manualPointAdmits view targetMhz voltageMv).isOk = false
  | .startDetectorLab recipe durationS => (detectorLabAdmits view recipe durationS).isOk = false
  | .startPowerSweep | .startPowerSweepFast | .startPowerSweepLong | .resumePowerSweep => False
  | request => view.ArmFails ops request

end ServiceView

section Traces

variable {O : Type*} {self self' self'' : Recorded TuningCall O}

/-- The later state has made only further calls. -/
def Extends (self self' : Recorded TuningCall O) : Prop :=
  ∃ calls, self'.calls = self.calls ++ calls

/-- One of the further calls touches the card, the flag or the profile. -/
def Reaches (self self' : Recorded TuningCall O) : Prop :=
  ∃ calls, self'.calls = self.calls ++ calls ∧ ∃ c ∈ calls, c.touches = true

/-- None of the further calls does. -/
def Spares (self self' : Recorded TuningCall O) : Prop :=
  ∃ calls, self'.calls = self.calls ++ calls ∧ ∀ c ∈ calls, c.touches = false

/-- The request stops before it touches anything exactly under the condition. -/
structure Decided (stops : Prop) (s s' : Recorded TuningCall O) : Prop where
  spares : stops → Spares s s'
  reaches : ¬ stops → Reaches s s'

theorem Extends.refl : Extends self self := ⟨[], by simp⟩

theorem Extends.trans (h : Extends self self') (h' : Extends self' self'') :
    Extends self self'' := by
  obtain ⟨calls, hc⟩ := h
  obtain ⟨calls', hc'⟩ := h'
  exact ⟨calls ++ calls', by simp [hc', hc]⟩

theorem Spares.refl : Spares self self := ⟨[], by simp, by simp⟩

theorem Reaches.extend (h : Reaches self self') (h' : Extends self' self'') :
    Reaches self self'' := by
  obtain ⟨calls, hc, c, hmem, htouch⟩ := h
  obtain ⟨calls', hc'⟩ := h'
  exact ⟨calls ++ calls', by simp [hc', hc], c, List.mem_append_left _ hmem, htouch⟩

theorem Spares.reaches (h : Spares self self') (h' : Reaches self' self'') :
    Reaches self self'' := by
  obtain ⟨calls, hc, -⟩ := h
  obtain ⟨calls', hc', c, hmem, htouch⟩ := h'
  exact ⟨calls ++ calls', by simp [hc', hc], c, List.mem_append_right _ hmem, htouch⟩

theorem Reaches.extends (h : Reaches self self') : Extends self self' := by
  obtain ⟨calls, hc, -⟩ := h
  exact ⟨calls, hc⟩

theorem Decided.congr {p q : Prop} (h : Decided p self self') (hpq : p ↔ q) :
    Decided q self self' :=
  ⟨fun hq => h.spares (hpq.mpr hq), fun hq => h.reaches fun hp => hq (hpq.mp hp)⟩

theorem Decided.stopped {p : Prop} (hp : p) : Decided p self self :=
  ⟨fun _ => .refl, fun hnot => absurd hp hnot⟩

theorem Decided.reached {p : Prop} (hp : ¬ p) (h : Reaches self self') : Decided p self self' :=
  ⟨fun hyes => absurd hyes hp, fun _ => h⟩

/-- What one recorded operation adds. -/
theorem record_cases {R : Type*} {call : R → TuningCall} {op : O → R × O} {result : R}
    (h : self.record call op = (result, self')) :
    result = (op self.ops).1 ∧ Extends self self' ∧
      ((call result).touches = true → Reaches self self') ∧
      ((call result).touches = false → Spares self self') := by
  obtain ⟨rfl, rfl⟩ := Prod.mk.inj h
  refine ⟨rfl, ⟨[_], rfl⟩, fun htouch => ⟨[_], rfl, _, List.mem_singleton.mpr rfl, htouch⟩,
    fun hspare => ⟨[_], rfl, ?_⟩⟩
  intro c hc
  obtain rfl := List.mem_singleton.mp hc
  exact hspare

theorem applySome_extends {α : Type*} {x : Option α} {call : α → Except String Unit → TuningCall}
    {op : α → O → Except String Unit × O} {result : Except String Unit}
    (h : applySome x (fun a (self : Recorded TuningCall O) => self.record (call a) (op a)) self =
      (result, self')) : Extends self self' := by
  unfold applySome at h
  split at h
  next a => exact (record_cases h).2.1
  next =>
    obtain ⟨-, rfl⟩ := Prod.mk.inj h
    exact .refl

theorem applied_snd (done : String) (r : Except String Unit × Recorded TuningCall O) :
    (applied done r).2 = r.2 := by
  obtain ⟨result, self⟩ := r
  cases result <;> rfl

theorem startHandle_decided (view : ServiceView) {op : GpuOperation} {busy : String}
    {worker : Recorded TuningCall O → Recorded TuningCall O} {stops : Prop}
    (h : Decided stops self (worker self)) :
    Decided (view.handleRunning op = true ∨ stops) self
      (startHandle view op busy worker self).2 := by
  unfold startHandle
  split
  next hbusy => exact .stopped (.inl hbusy)
  next hfree => exact h.congr (or_iff_right hfree).symm

variable [TuningOps O]

theorem persistApplied_extends (profile : Option String → AppliedProfile)
    (self : Recorded TuningCall O) : Extends self (persistApplied profile self).2 := by
  unfold persistApplied
  split
  next now t₁ h₁ =>
    split
    next t₂ h₂ =>
      split
      next t₃ h₃ =>
        exact (record_cases h₁).2.1.trans ((record_cases h₂).2.1.trans (record_cases h₃).2.1)

/-- An apply reaches the card exactly when the flag could be armed. -/
theorem applyAndPersist_decided (label : String) (core : Option VfPoint)
    (memOffsetMhz : Option Int) (self : Recorded TuningCall O) :
    Decided ((armBootFlag (applyIntent core memOffsetMhz) "gpu_apply" self.ops).1.isOk = false)
      self (applyAndPersist label core memOffsetMhz self).2 := by
  unfold applyAndPersist
  split
  next e t₁ harm =>
    obtain ⟨hresult, -, -, hspares⟩ := record_cases harm
    rw [← hresult]
    exact ⟨fun _ => hspares rfl, fun hok => absurd rfl hok⟩
  next t₁ harm =>
    obtain ⟨hresult, -, hreaches, -⟩ := record_cases harm
    rw [← hresult]
    refine ⟨fun hfailed => (by cases hfailed), fun _ => (hreaches rfl).extend ?_⟩
    split
    next e t₂ hcore => exact applySome_extends hcore
    next t₂ hcore =>
      refine (applySome_extends hcore).trans ?_
      split
      next e t₃ hmem => exact applySome_extends hmem
      next t₃ hmem => exact (applySome_extends hmem).trans (persistApplied_extends _ t₃)

theorem applyAndPersistUndervolt_decided (label : String) (targetMhz anchorMv : Nat)
    (memOffsetMhz : Option Int) (self : Recorded TuningCall O) :
    Decided ((armBootFlag (undervoltIntent targetMhz anchorMv memOffsetMhz) "gpu_apply_undervolt"
        self.ops).1.isOk = false)
      self (applyAndPersistUndervolt label targetMhz anchorMv memOffsetMhz self).2 := by
  unfold applyAndPersistUndervolt
  split
  next e t₁ harm =>
    obtain ⟨hresult, -, -, hspares⟩ := record_cases harm
    rw [← hresult]
    exact ⟨fun _ => hspares rfl, fun hok => absurd rfl hok⟩
  next t₁ harm =>
    obtain ⟨hresult, -, hreaches, -⟩ := record_cases harm
    rw [← hresult]
    refine ⟨fun hfailed => (by cases hfailed), fun _ => (hreaches rfl).extend ?_⟩
    split
    next e t₂ hcore => exact (record_cases hcore).2.1
    next t₂ hcore =>
      refine (record_cases hcore).2.1.trans ?_
      split
      next e t₃ hmem =>
        refine (applySome_extends hmem).trans ?_
        split
        next t₄ hstock =>
          refine (record_cases hstock).2.1.trans ?_
          split
          next t₅ hall => exact (record_cases hall).2.1
          next e' t₅ hall => exact (record_cases hall).2.1
      next t₃ hmem => exact (applySome_extends hmem).trans (persistApplied_extends _ t₃)

theorem resetHardware_reaches {result : Except String Unit}
    (h : resetHardware self = (result, self')) : Reaches self self' := by
  unfold resetHardware at h
  split at h
  next clock t₁ hclock =>
    split at h
    next vf t₂ hvf =>
      have hreaches := ((record_cases hclock).2.2.1 rfl).extend (record_cases hvf).2.1
      split at h <;> (obtain ⟨-, rfl⟩ := Prod.mk.inj h; exact hreaches)

theorem resetHardwareAndDisarm_reaches {result : Except String Unit}
    (h : resetHardwareAndDisarm self = (result, self')) : Reaches self self' := by
  unfold resetHardwareAndDisarm at h
  split at h
  next e t₁ hreset =>
    obtain ⟨-, rfl⟩ := Prod.mk.inj h
    exact resetHardware_reaches hreset
  next t₁ hreset =>
    refine (resetHardware_reaches hreset).extend ?_
    split at h
    next t₂ happlied =>
      refine (record_cases happlied).2.1.trans ?_
      split at h
      next t₃ hflag =>
        obtain ⟨-, rfl⟩ := Prod.mk.inj h
        exact (record_cases hflag).2.1
      next e t₃ hflag =>
        obtain ⟨-, rfl⟩ := Prod.mk.inj h
        exact (record_cases hflag).2.1

variable (view : ServiceView)

/-- The intent decides: none is armed, or it cannot be. -/
theorem arm_fails_iff {armed : Option (TuningPoint × String)} {ops : O} :
    (∀ intent phase, armed = some (intent, phase) →
      (armBootFlag intent phase ops).1.isOk = false) ↔
      armed = none ∨ ∃ a, armed = some a ∧ (armBootFlag a.1 a.2 ops).1.isOk = false := by
  cases armed with
  | none => simp
  | some a =>
    obtain ⟨intent, phase⟩ := a
    simp

theorem applySweepProfile_decided (profile : Option GpuProfile) (self : Recorded TuningCall O) :
    Decided (∀ intent phase, view.sweepIntent profile = some (intent, phase) →
      (armBootFlag intent phase self.ops).1.isOk = false) self
      (applySweepProfile view profile self).2 := by
  unfold applySweepProfile
  cases profile with
  | none => exact .stopped fun intent phase h => by cases h
  | some chosen =>
    dsimp only
    rw [applied_snd]
    refine (applyAndPersist_decided _ _ _ self).congr ?_
    rw [arm_fails_iff]
    simp [ServiceView.sweepIntent]

theorem applyMemPeak_decided (self : Recorded TuningCall O) :
    Decided (view.ArmFails self.ops .applyMemPeak) self (applyMemPeak view self).2 := by
  unfold applyMemPeak ServiceView.ArmFails
  rw [arm_fails_iff, ServiceView.armedIntent]
  split
  next hpeak => exact .stopped (.inl rfl)
  next hpeak =>
    dsimp only
    rw [applied_snd]
    exact (applyAndPersist_decided _ _ _ self).congr (by simp)

theorem applyUndervoltProfile_decided (p : PowerSweepPoint) (label : String)
    (self : Recorded TuningCall O) :
    Decided (∀ intent phase, view.undervoltPointIntent p = some (intent, phase) →
      (armBootFlag intent phase self.ops).1.isOk = false) self
      (applyUndervoltProfile view (some p) label self).2 := by
  rw [arm_fails_iff]
  unfold applyUndervoltProfile ServiceView.undervoltPointIntent
  dsimp only
  by_cases hpower : (!(p.powerP99W.any fun power => decide (0 < power))) = true
  · rw [if_pos hpower, if_pos hpower]
    exact .stopped (.inl rfl)
  rw [if_neg hpower, if_neg hpower]
  by_cases hprovisional : (!p.approved) = true
  · rw [if_pos hprovisional, if_pos hprovisional]
    exact .stopped (.inl rfl)
  rw [if_neg hprovisional, if_neg hprovisional, applied_snd]
  exact (applyAndPersistUndervolt_decided _ _ _ _ self).congr (by simp)

theorem applyForgeProfile_decided (pt : Option PowerSweepPoint) (label : String)
    (self : Recorded TuningCall O) :
    Decided (view.record.pendingForgeIncident.isSome = true ∨
      ∀ intent phase, view.forgeIntent pt = some (intent, phase) →
        (armBootFlag intent phase self.ops).1.isOk = false) self
      (applyForgeProfile view pt label self).2 := by
  unfold applyForgeProfile ServiceView.forgeIntent
  by_cases hpending : view.record.pendingForgeIncident.isSome = true
  · have hpending' : (loadRecord view.dir).pendingForgeIncident.isSome = true := hpending
    rw [if_pos hpending']
    exact .stopped (.inl hpending)
  have hpending' : ¬ (loadRecord view.dir).pendingForgeIncident.isSome = true := hpending
  rw [or_iff_right hpending, if_neg hpending']
  by_cases hundervolt : view.isUndervolt = true
  · rw [if_pos hundervolt, if_pos hundervolt]
    by_cases hprovisional : (!view.forge.profilesQualified) = true
    · rw [if_pos hprovisional, if_pos hprovisional]
      exact .stopped (by simp)
    rw [if_neg hprovisional, if_neg hprovisional]
    cases pt with
    | none => exact .stopped (by simp)
    | some p =>
      rw [Option.bind_some]
      by_cases hcondemned : view.condemnsPoint p = true
      · rw [if_pos hcondemned]
        refine Decided.congr (p := True) ?_ (by simp)
        have hcondemned' : (fieldPairBlacklisted (loadRecord view.dir) (undervoltApplyParams p).1
          (undervoltApplyParams p).2 || view.condemned.refuses (undervoltApplyParams p).1
          (undervoltApplyParams p).2) = true := hcondemned
        dsimp only
        rw [if_pos hcondemned']
        exact .stopped trivial
      · rw [if_neg hcondemned]
        have hcondemned' : ¬ (fieldPairBlacklisted (loadRecord view.dir)
          (undervoltApplyParams p).1 (undervoltApplyParams p).2 ||
          view.condemned.refuses (undervoltApplyParams p).1 (undervoltApplyParams p).2) = true :=
          hcondemned
        dsimp only
        rw [if_neg hcondemned']
        exact applyUndervoltProfile_decided view p label self
  · rw [if_neg hundervolt, if_neg hundervolt]
    unfold applyPowerProfile
    rw [arm_fails_iff]
    cases pt with
    | none => exact .stopped (.inl rfl)
    | some p =>
      dsimp only
      rw [applied_snd]
      exact (applyAndPersist_decided _ _ _ self).congr (by simp)

theorem resetAll_reaches (self : Recorded TuningCall O) : Reaches self (resetAll self).2 :=
  ⟨[_], rfl, _, List.mem_singleton.mpr rfl, rfl⟩

theorem goesOn_extends (op : GpuOperation) (self : Recorded TuningCall O) :
    Extends self (TuningOps.goesOn op self).2 := ⟨[_], rfl⟩

theorem runSweep_decided (op : GpuOperation) (self : Recorded TuningCall O) :
    Decided ((TuningOps.gpuCtxNew self.ops).1.isOk = false) self (runSweep op self) := by
  unfold runSweep
  split
  next e t₁ hctx =>
    obtain ⟨hresult, -, -, hspares⟩ := record_cases hctx
    rw [← hresult]
    exact ⟨fun _ => hspares rfl, fun hok => absurd rfl hok⟩
  next t₁ hctx =>
    obtain ⟨hresult, -, -, hspares⟩ := record_cases hctx
    rw [← hresult]
    refine .reached (by simp [Except.isOk, Except.toBool]) ((hspares rfl).reaches ?_)
    exact (resetAll_reaches t₁).extend (goesOn_extends op _)

theorem runForgeAll_reaches (self : Recorded TuningCall O) : Reaches self (runForgeAll self) := by
  unfold runForgeAll
  split
  next e t₁ hctx => exact ((record_cases hctx).2.2.2 rfl).reaches (resetAll_reaches t₁)
  next t₁ hctx =>
    exact ((record_cases hctx).2.2.2 rfl).reaches
      ((resetAll_reaches t₁).extend (goesOn_extends .forgeAll _))

theorem runBenchmark_decided (self : Recorded TuningCall O) :
    Decided (loadApplied view.dir = none) self (runBenchmark view self) := by
  unfold runBenchmark
  split
  next hnone => exact .stopped hnone
  next profile hsome =>
    refine .reached (by simp [hsome]) ?_
    have hlock : Reaches self (TuningOps.resetCoreClockLock self).2 :=
      ⟨[_], rfl, _, List.mem_singleton.mpr rfl, rfl⟩
    have hall : Extends (TuningOps.resetCoreClockLock self).2
        (resetAll (TuningOps.resetCoreClockLock self).2).2 := ⟨[_], rfl⟩
    exact hlock.extend (hall.trans (goesOn_extends .benchmark _))

theorem runLab_reaches (self : Recorded TuningCall O) : Reaches self (runLab self) := by
  unfold runLab
  split
  next e t₁ hreset =>
    exact (resetHardwareAndDisarm_reaches hreset).extend (goesOn_extends .detectorLab t₁)
  next t₁ hreset =>
    exact (resetHardwareAndDisarm_reaches hreset).extend (goesOn_extends .detectorLab t₁)

theorem startDetectorLab_decided (recipe : String) (durationS : Nat)
    (self : Recorded TuningCall O) :
    Decided ((detectorLabAdmits view recipe durationS).isOk = false) self
      (startDetectorLab view recipe durationS self).2 := by
  unfold startDetectorLab
  split
  next e hrefused => exact .stopped (by rw [hrefused]; rfl)
  next hadmitted =>
    exact .reached (by rw [hadmitted]; simp [Except.isOk, Except.toBool]) (runLab_reaches self)

theorem applyResolvedPoint_extends {targetMhz resolvedVoltageMv : Nat} {offsetMhz : Int}
    {source : String} {result : Except String Unit}
    (h : applyResolvedPoint targetMhz resolvedVoltageMv offsetMhz source self = (result, self')) :
    Extends self self' := by
  unfold applyResolvedPoint at h
  dsimp only at h
  split at h
  next e t₁ harm =>
    obtain ⟨-, rfl⟩ := Prod.mk.inj h
    exact (record_cases harm).2.1
  next t₁ harm => exact (record_cases harm).2.1.trans (record_cases h).2.1

theorem applyManualDiagnosticPoint_decided (targetMhz voltageMv : Nat)
    (self : Recorded TuningCall O) :
    Decided ((manualPointAdmits view targetMhz voltageMv).isOk = false) self
      (applyManualDiagnosticPoint view targetMhz voltageMv self).2 := by
  unfold applyManualDiagnosticPoint
  split
  next e hrefused => exact .stopped (by rw [hrefused]; rfl)
  next resolvedVoltageMv offsetMhz hadmitted =>
    refine .reached (by rw [hadmitted]; simp [Except.isOk, Except.toBool]) ?_
    split
    next e t₁ hreset => exact resetHardware_reaches hreset
    next t₁ hreset =>
      refine (resetHardware_reaches hreset).extend ?_
      split
      next t₂ hclear =>
        refine (record_cases hclear).2.1.trans ?_
        split
        next t₃ happly => exact applyResolvedPoint_extends happly
        next error t₃ happly =>
          refine (applyResolvedPoint_extends happly).trans ?_
          split
          next t₄ hdisarm => exact (resetHardwareAndDisarm_reaches hdisarm).extends
          next e t₄ hdisarm => exact (resetHardwareAndDisarm_reaches hdisarm).extends

theorem manualPointAdmits_safeMode (targetMhz voltageMv : Nat)
    (hsafe : view.record.safeMode = true) :
    (manualPointAdmits view targetMhz voltageMv).isOk = false := by
  have hsafe' : (loadRecord view.dir).safeMode = true := hsafe
  unfold manualPointAdmits
  rw [if_pos hsafe']
  split
  next => rfl
  next =>
    split
    next => rfl
    next => split <;> rfl

/-- The directory that the Forge's worker checks. -/
def forgeDir (clean : Bool) : DataDir :=
  if clean then archivePreCleanRun view.archived view.savedStripped view.dir else view.dir

theorem measureForge_decided (clean : Bool) (self : Recorded TuningCall O) :
    Decided ((loadRecord (forgeDir view clean)).safeMode = true ∨
      isBootFlagArmed (forgeDir view clean) = true) self
      (measureMulticlockUndervoltForge view clean self) := by
  unfold measureMulticlockUndervoltForge
  show Decided _ self (if (loadRecord (forgeDir view clean)).safeMode then self
    else if isBootFlagArmed (forgeDir view clean) then self else _)
  split
  next hsafe => exact .stopped (.inl hsafe)
  next hsafe =>
    split
    next harmed => exact .stopped (.inr harmed)
    next harmed =>
      refine .reached (fun h => h.elim hsafe harmed) ?_
      split
      next e t₁ hreset => exact resetHardware_reaches hreset
      next t₁ hreset =>
        refine (resetHardware_reaches hreset).extend ?_
        split
        next e t₂ hclear => exact (record_cases hclear).2.1
        next t₂ hclear => exact (record_cases hclear).2.1.trans (goesOn_extends .powerSweep t₂)

theorem startWithIntent_decided (clean : Bool) (self : Recorded TuningCall O) :
    Decided (view.record.pendingForgeIncident.isSome = true ∨
      view.handleRunning .powerSweep = true ∨
      (loadRecord (forgeDir view clean)).safeMode = true ∨
      isBootFlagArmed (forgeDir view clean) = true) self (startWithIntent view clean self).2 := by
  unfold startWithIntent
  split
  next hpending => exact .stopped (.inl hpending)
  next hpending =>
    split
    next hrunning => exact .stopped (.inr (.inl hrunning))
    next hrunning =>
      exact (measureForge_decided view clean self).congr
        ((or_iff_right hpending).trans (or_iff_right hrunning)).symm

theorem startPowerSweep_snd (clean : Bool) (self : Recorded TuningCall O) :
    (startPowerSweep view clean self).2 = (startWithIntent view clean self).2 := by
  unfold startPowerSweep
  split
  next t hstart => rw [hstart]
  next t hstart => rw [hstart]

/-- The record that a clean run leaves behind is latched as before, or lost. -/
theorem forgeDir_clean :
    isBootFlagArmed (forgeDir view true) = isBootFlagArmed view.dir ∧
      (loadRecord (forgeDir view true)).safeMode =
        (view.record.safeMode && !view.losesRecord) := by
  have hdefault : ({} : SafeLoopRecord).safeMode = false := rfl
  unfold forgeDir archivePreCleanRun ServiceView.losesRecord ServiceView.record
  rw [if_pos rfl]
  split
  next harchived =>
    dsimp only
    split
    next hremoved =>
      refine ⟨rfl, ?_⟩
      rw [loadRecord_saveRecord]
      cases hsave : view.savedStripped with
      | done => simp [FileResult.isDone, FileResult.isTorn, stripGpuVfBlacklist]
      | failed error torn =>
        cases torn with
        | true => simp [FileResult.isDone, FileResult.isTorn, harchived, hremoved]
        | false => simp [FileResult.isDone, FileResult.isTorn]
    next hremoved => exact ⟨rfl, by simp [hremoved]⟩
  next harchived => exact ⟨rfl, by simp [harchived]⟩

variable {view}

theorem startPowerSweep_spares (hlatched : view.record.AwaitsOperator)
    (self : Recorded TuningCall O) :
    Spares self (startWithIntent view false self).2 := by
  refine (startWithIntent_decided view false self).spares ?_
  rcases hlatched with hsafe | hpending
  · exact .inr (.inr (.inl hsafe))
  · exact .inl hpending

theorem startPowerSweepClean_decided (hlatched : view.record.AwaitsOperator)
    (self : Recorded TuningCall O) :
    Decided (view.Consults .startPowerSweepClean ∨
      view.StopsAnyway self.ops .startPowerSweepClean) self (startWithIntent view true self).2 := by
  refine (startWithIntent_decided view true self).congr ?_
  obtain ⟨hflag, hsafe⟩ := forgeDir_clean view
  rw [hflag, hsafe]
  have hlatch : view.record.pendingForgeIncident.isSome = true ∨ view.record.safeMode = true :=
    hlatched.symm
  simp only [ServiceView.Consults, ServiceView.StopsAnyway, Bool.and_eq_true, Bool.not_eq_true']
  tauto

theorem resumePowerSweep_spares (hlatched : view.record.AwaitsOperator)
    (self : Recorded TuningCall O) :
    Spares self (resumePowerSweep view self).2 := by
  unfold resumePowerSweep
  dsimp only
  split
  next => exact .refl
  next =>
    split
    next => exact .refl
    next =>
      split
      next => exact .refl
      next =>
        have hspares := startPowerSweep_spares hlatched self
        split
        next t hstart => rwa [hstart] at hspares
        next t hstart => rwa [hstart] at hspares

/-- Behind the shared guards a latched service stops a request exactly where its handler asks for
the latch that is set, or a check of its own stops it. -/
theorem serveRequest_decided (hlatched : view.record.AwaitsOperator) (request : TuningRequest)
    (self : Recorded TuningCall O) :
    Decided (view.Consults request ∨ view.StopsAnyway self.ops request) self
      (serveRequest view request self).2 := by
  have hnone {p q : Prop} (hp : p ↔ q) : p ↔ False ∨ q :=
    ⟨fun h => .inr (hp.mp h), fun h => hp.mpr (h.resolve_left id)⟩
  cases request with
  | startRealSweep =>
    exact (startHandle_decided view (runSweep_decided .realSweep self)).congr (hnone Iff.rfl)
  | startRealSweepFast =>
    exact (startHandle_decided view (runSweep_decided .realSweep self)).congr (hnone Iff.rfl)
  | startMemSweep =>
    exact (startHandle_decided view (runSweep_decided .memSweep self)).congr (hnone Iff.rfl)
  | startForgeAll =>
    have hworker : Decided False self (runForgeAll self) := .reached id (runForgeAll_reaches self)
    exact (startHandle_decided view hworker).congr (hnone (or_iff_left id))
  | startBenchmark =>
    exact (startHandle_decided view (runBenchmark_decided view self)).congr (hnone Iff.rfl)
  | applyGodforge => exact (applySweepProfile_decided view _ self).congr (hnone Iff.rfl)
  | applyBrokkrs => exact (applySweepProfile_decided view _ self).congr (hnone Iff.rfl)
  | applyDeepCalm => exact (applySweepProfile_decided view _ self).congr (hnone Iff.rfl)
  | applyMemPeak => exact (applyMemPeak_decided view self).congr (hnone Iff.rfl)
  | applyPowerGodforge => exact applyForgeProfile_decided view _ _ self
  | applyPowerBrokkrs => exact applyForgeProfile_decided view _ _ self
  | applyPowerDeepCalm => exact applyForgeProfile_decided view _ _ self
  | applyManualDiagnosticPoint targetMhz voltageMv =>
    refine (applyManualDiagnosticPoint_decided view targetMhz voltageMv self).congr ?_
    exact ⟨.inr, fun h => h.elim (manualPointAdmits_safeMode view targetMhz voltageMv) id⟩
  | startDetectorLab recipe durationS =>
    exact (startDetectorLab_decided view recipe durationS self).congr (hnone Iff.rfl)
  | startPowerSweep =>
    refine ⟨fun _ => ?_, fun hnot => (hnot (.inl trivial)).elim⟩
    exact startPowerSweep_snd view false self ▸ startPowerSweep_spares hlatched self
  | startPowerSweepFast =>
    refine ⟨fun _ => ?_, fun hnot => (hnot (.inl trivial)).elim⟩
    exact startPowerSweep_snd view false self ▸ startPowerSweep_spares hlatched self
  | startPowerSweepLong =>
    refine ⟨fun _ => ?_, fun hnot => (hnot (.inl trivial)).elim⟩
    exact startPowerSweep_snd view false self ▸ startPowerSweep_spares hlatched self
  | startPowerSweepClean =>
    exact startPowerSweep_snd view true self ▸ startPowerSweepClean_decided hlatched self
  | resumePowerSweep =>
    exact ⟨fun _ => resumePowerSweep_spares hlatched self, fun hnot => (hnot (.inl trivial)).elim⟩

end Traces

/-- A latched service lets a tuning request touch the card, the boot flag or the persisted profile
unless a guard that all share stops it, its handler asks for the latch that is set, or a check of
its own stops it anyway. -/
theorem latched_spares_iff {O : Type*} [TuningOps O] (view : ServiceView) (ops : O)
    (request : TuningRequest) (hlatched : view.record.AwaitsOperator) :
    (∀ call ∈ (handleRequest view request (⟨ops, []⟩ : Recorded TuningCall O)).2.calls,
      call.touches = false) ↔
      (sharedRefusal view request).isSome = true ∨ view.Consults request ∨
        view.StopsAnyway ops request := by
  unfold handleRequest
  split
  next error hshared =>
    refine iff_of_true ?_ (.inl (by rw [hshared]; rfl))
    intro call hcall
    exact absurd hcall List.not_mem_nil
  next hshared =>
    have hdecided := serveRequest_decided hlatched request (⟨ops, []⟩ : Recorded TuningCall O)
    rw [hshared, or_iff_right (by simp)]
    by_cases hstops : view.Consults request ∨ view.StopsAnyway ops request
    · obtain ⟨calls, hcalls, hspared⟩ := hdecided.spares hstops
      rw [List.nil_append] at hcalls
      exact iff_of_true (hcalls ▸ hspared) hstops
    · obtain ⟨calls, hcalls, call, hcall, htouches⟩ := hdecided.reaches hstops
      rw [List.nil_append] at hcalls
      refine iff_of_false (fun hspared => ?_) hstops
      rw [hspared call (hcalls ▸ hcall)] at htouches
      cases htouches

/-- A card and a disk on which everything succeeds. -/
structure WillingCard

instance : GpuApplyOps WillingCard where
  armBootFlag _ _ ops := (.ok (), ops)
  applyCore _ ops := (.ok (), ops)
  applyAnchoredUndervolt _ _ ops := (.ok (), ops)
  setMemOffsetMhz _ ops := (.ok (), ops)
  resetToStock ops := ((), ops)
  resetAll ops := (.ok (), ops)
  nowRfc3339 ops := ("2026-07-18T21:50:00Z", ops)
  saveApplied _ ops := ((), ops)
  spawnClear ops := ((), ops)

instance : TuningOps WillingCard where
  gpuCtxNew ops := (.ok (), ops)
  resetCoreClockLock ops := (.ok (), ops)
  clearApplied ops := ((), ops)
  clearBootFlag ops := (.ok (), ops)
  goesOn _ ops := ((), ops)

/-- The service in Safe Mode, behind a memory sweep that peaked at 500 MHz. -/
def safeModeView : ServiceView where
  dir := { record := .holds { safeMode := true } }
  peakOffsetMhz := 500

/-- A Forge is not started in Safe Mode. -/
theorem latched_spares_forge : safeModeView.record.safeMode = true ∧
    ∀ call ∈ (handleRequest safeModeView .startPowerSweep
      (⟨⟨⟩, []⟩ : Recorded TuningCall WillingCard)).2.calls, call.touches = false := by
  refine ⟨rfl, ?_⟩
  rw [latched_spares_iff safeModeView (⟨⟩ : WillingCard) .startPowerSweep (.inl rfl)]
  exact .inr (.inl trivial)

/-- In Safe Mode the memory peak is armed, written and persisted. -/
theorem latched_applies_memPeak : safeModeView.record.safeMode = true ∧
    (handleRequest safeModeView .applyMemPeak
      (⟨⟨⟩, []⟩ : Recorded TuningCall WillingCard)).2.calls =
      [.apply (.armBootFlag (applyIntent none (some 500)) "gpu_apply" (.ok ())),
        .apply (.setMemOffsetMhz 500 (.ok ())), .apply (.nowRfc3339 "2026-07-18T21:50:00Z"),
        .apply (.saveApplied ⟨"Custom", none, some 500, some "2026-07-18T21:50:00Z", none⟩),
        .apply .spawnClear] ∧
    ¬ ∀ call ∈ (handleRequest safeModeView .applyMemPeak
      (⟨⟨⟩, []⟩ : Recorded TuningCall WillingCard)).2.calls, call.touches = false := by
  refine ⟨rfl, rfl, fun hspared => ?_⟩
  cases hspared (.apply (.setMemOffsetMhz 500 (.ok ()))) (.tail _ (.head _))

end Nidavellir

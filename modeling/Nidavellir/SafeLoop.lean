import Mathlib.Data.Finmap
import Mathlib.Data.Finset.Lattice.Fold
import Mathlib.Order.Lattice.Nat

namespace Nidavellir

/-- A point in tuning space: axis name to integer setting. -/
structure TuningPoint where
  axes : Finmap fun _ : String => Int
deriving DecidableEq

def TuningPoint.stock : TuningPoint := ⟨∅⟩

/-- A repeated axis keeps its last setting, as `collect` does. -/
def TuningPoint.fromAxes (axes : List (String × Int)) : TuningPoint :=
  ⟨axes.foldl (fun m a => m.insert a.1 a.2) ∅⟩

/-- A missing axis sits at 0. -/
def TuningPoint.setting (self : TuningPoint) (key : String) : Int := (self.axes.lookup key).getD 0

def TuningPoint.isStock (self : TuningPoint) : Bool :=
  decide (∀ key ∈ self.axes.keys, self.setting key = 0)

def TuningPoint.chebyshev (self other : TuningPoint) : Int :=
  Int.ofNat ((self.axes.keys ∪ other.axes.keys).sup fun key =>
    (self.setting key - other.setting key).natAbs)

structure BlacklistRegion where
  center : TuningPoint
  radius : Int
deriving DecidableEq

def BlacklistRegion.around (center : TuningPoint) (radius : Int) : BlacklistRegion :=
  ⟨center, radius⟩

def BlacklistRegion.contains (self : BlacklistRegion) (point : TuningPoint) : Bool :=
  decide (self.center.chebyshev point ≤ self.radius)

@[simp] theorem TuningPoint.setting_empty (key : String) :
    (⟨∅⟩ : TuningPoint).setting key = 0 := rfl

@[simp] theorem TuningPoint.setting_insert (axes : Finmap fun _ : String => Int)
    (axis key : String) (v : Int) :
    (⟨axes.insert axis v⟩ : TuningPoint).setting key =
      if key = axis then v else (⟨axes⟩ : TuningPoint).setting key := by
  unfold setting
  split
  next h =>
    subst h
    simp
  next h => rw [Finmap.lookup_insert_of_ne _ h]

theorem TuningPoint.setting_eq_zero {self : TuningPoint} {key : String}
    (h : key ∉ self.axes.keys) : self.setting key = 0 := by
  rw [Finmap.mem_keys, ← Finmap.lookup_eq_none] at h
  rw [setting, h]
  rfl

theorem TuningPoint.chebyshev_le_iff {self other : TuningPoint} {r : Nat} :
    self.chebyshev other ≤ r ↔
      ∀ key, (self.setting key - other.setting key).natAbs ≤ r := by
  rw [chebyshev, Int.ofNat_eq_natCast, Int.ofNat_le, Finset.sup_le_iff]
  refine ⟨fun h key => ?_, fun h key _ => h key⟩
  by_cases hkey : key ∈ self.axes.keys ∪ other.axes.keys
  · exact h key hkey
  · rw [Finset.mem_union, not_or] at hkey
    simp [setting_eq_zero hkey.1, setting_eq_zero hkey.2]

theorem BlacklistRegion.contains_around_iff {center point : TuningPoint} {r : Nat} :
    (around center r).contains point ↔
      ∀ key, (center.setting key - point.setting key).natAbs ≤ r := by
  rw [contains, decide_eq_true_eq]
  exact TuningPoint.chebyshev_le_iff

theorem BlacklistRegion.contains_around_self (center : TuningPoint) (r : Nat) :
    (around center r).contains center := by
  rw [contains_around_iff]
  simp

def u32Max : Nat := 4294967295

def saturatingAdd (a b : Nat) : Nat := min (a + b) u32Max

def safeModeCrashThreshold : Nat := 3

def defaultBlacklistRadius : Nat := 1

def supervisedF2ForgePhase : String := "f2_undervolt_probe"

inductive SafeLoopState
  | idle
  | probing
  | applying
  | dwell
  | validated
  | unstable
  | safeMode
deriving DecidableEq, Repr

inductive CrashClass
  | ocInstability
  | unrelated
  | unknown
deriving DecidableEq, Repr

inductive ForgeIncidentKind
  | candidateCrash
  | unaccountedRestart
  | operatorFieldFailure
  | runtimeFailure
deriving DecidableEq, Repr

structure ForgeIncident where
  id : String
  kind : ForgeIncidentKind
  detectedAt : String
  runId : Option String
  gpuKey : Option String
  targetMhz : Option Nat
  anchorMv : Option Nat
  message : String
  acknowledged : Bool
deriving DecidableEq, Repr

/-- Everything the loop remembers across reboots. -/
structure SafeLoopRecord where
  state : SafeLoopState := .idle
  consecutiveCrashes : Nat := 0
  lastValidated : Option TuningPoint := none
  blacklist : List BlacklistRegion := []
  safeMode : Bool := false
  crashLog : List CrashClass := []
  pendingForgeIncident : Option ForgeIncident := none
  forgeIncidents : List ForgeIncident := []
deriving DecidableEq

structure BootFlag where
  intent : TuningPoint
  phase : String
  timestamp : String
deriving DecidableEq

inductive RecoveryAction
  | idle
  | applyLastValidated (point : TuningPoint)
  | awaitOperatorAcknowledgement (incident : ForgeIncident)
  | blacklistAndRecede (crashed recedeTo : TuningPoint) (cls : CrashClass)
      (countTowardSafeMode : Bool)
  | enterSafeMode (stock : TuningPoint)
  | remainSafeMode (stock : TuningPoint)
deriving DecidableEq

/-- Keeps the newest `cap` entries. -/
def pushCapped {α : Type*} (v : List α) (item : α) (cap : Nat) : List α :=
  (v ++ [item]).drop ((v ++ [item]).length - cap)

namespace SafeLoopRecord

def isBlacklisted (self : SafeLoopRecord) (point : TuningPoint) : Bool :=
  self.blacklist.any (·.contains point)

def markValidated (self : SafeLoopRecord) (point : TuningPoint) : SafeLoopRecord :=
  { self with lastValidated := some point, consecutiveCrashes := 0, state := .validated }

def recoveryTarget (self : SafeLoopRecord) : TuningPoint :=
  self.lastValidated.getD TuningPoint.stock

def clearRecoveryLatch (self : SafeLoopRecord) : SafeLoopRecord :=
  { self with
    safeMode := false
    consecutiveCrashes := 0
    state := if self.pendingForgeIncident.isSome then .unstable else .idle }

def recordForgeIncident (self : SafeLoopRecord) (incident : ForgeIncident) :
    SafeLoopRecord × Bool :=
  let duplicate := self.forgeIncidents.any fun known =>
    known.id == incident.id || (known.runId.isSome && known.runId == incident.runId)
  if duplicate then (self, false)
  else
    ({ self with
        pendingForgeIncident := some incident
        forgeIncidents := pushCapped self.forgeIncidents incident 64
        state := if self.safeMode then self.state else .unstable }, true)

/-- Marks the first stored incident with this id. -/
def acknowledgeStored (id : String) : List ForgeIncident → List ForgeIncident
  | [] => []
  | stored :: rest =>
    if stored.id = id then { stored with acknowledged := true } :: rest
    else stored :: acknowledgeStored id rest

def acknowledgeForgeIncident (self : SafeLoopRecord) : SafeLoopRecord × Option ForgeIncident :=
  match self.pendingForgeIncident with
  | none => (self, none)
  | some incident =>
    ({ self with
        pendingForgeIncident := none
        forgeIncidents := acknowledgeStored incident.id self.forgeIncidents
        state := if self.safeMode then self.state else .idle },
      some { incident with acknowledged := true })

@[simp] theorem recordForgeIncident_lastValidated (self : SafeLoopRecord)
    (incident : ForgeIncident) :
    (self.recordForgeIncident incident).1.lastValidated = self.lastValidated := by
  simp only [recordForgeIncident]
  split <;> rfl

@[simp] theorem recordForgeIncident_blacklist (self : SafeLoopRecord) (incident : ForgeIncident) :
    (self.recordForgeIncident incident).1.blacklist = self.blacklist := by
  simp only [recordForgeIncident]
  split <;> rfl

@[simp] theorem recordForgeIncident_safeMode (self : SafeLoopRecord) (incident : ForgeIncident) :
    (self.recordForgeIncident incident).1.safeMode = self.safeMode := by
  simp only [recordForgeIncident]
  split <;> rfl

@[simp] theorem acknowledgeForgeIncident_lastValidated (self : SafeLoopRecord) :
    self.acknowledgeForgeIncident.1.lastValidated = self.lastValidated := by
  unfold acknowledgeForgeIncident
  split <;> rfl

@[simp] theorem acknowledgeForgeIncident_blacklist (self : SafeLoopRecord) :
    self.acknowledgeForgeIncident.1.blacklist = self.blacklist := by
  unfold acknowledgeForgeIncident
  split <;> rfl

@[simp] theorem acknowledgeForgeIncident_safeMode (self : SafeLoopRecord) :
    self.acknowledgeForgeIncident.1.safeMode = self.safeMode := by
  unfold acknowledgeForgeIncident
  split <;> rfl

end SafeLoopRecord

/-- A supervised Forge TDR is boundary evidence, not a normal-use crash. -/
def supervisedForgeTdr (flag : BootFlag) (bugcheck : CrashClass) : Bool :=
  flag.phase == supervisedF2ForgePhase && bugcheck != .unrelated

def decideRecovery (bootFlag : Option BootFlag) (bugcheck : CrashClass)
    (record : SafeLoopRecord) : RecoveryAction :=
  match bootFlag with
  | some flag =>
    let countTowardSafeMode := !supervisedForgeTdr flag bugcheck
    let crashes := saturatingAdd record.consecutiveCrashes countTowardSafeMode.toNat
    if countTowardSafeMode && crashes ≥ safeModeCrashThreshold then
      .enterSafeMode TuningPoint.stock
    else
      .blacklistAndRecede flag.intent record.recoveryTarget bugcheck countTowardSafeMode
  | none =>
    if record.safeMode then .remainSafeMode TuningPoint.stock
    else
      match record.pendingForgeIncident, record.lastValidated with
      | some incident, _ => .awaitOperatorAcknowledgement incident
      | none, some point => .applyLastValidated point
      | none, none => .idle

/-- The record after the decision is committed, and the point to apply to hardware. -/
def applyRecovery (record : SafeLoopRecord) (action : RecoveryAction) :
    SafeLoopRecord × TuningPoint :=
  match action with
  | .idle => ({ record with state := .idle }, TuningPoint.stock)
  | .applyLastValidated point => ({ record with state := .validated }, point)
  | .awaitOperatorAcknowledgement _ => ({ record with state := .unstable }, TuningPoint.stock)
  | .blacklistAndRecede crashed recedeTo cls countTowardSafeMode =>
    ({ record with
        consecutiveCrashes :=
          if countTowardSafeMode then saturatingAdd record.consecutiveCrashes 1
          else record.consecutiveCrashes
        blacklist :=
          if record.isBlacklisted crashed then record.blacklist
          else record.blacklist ++ [.around crashed defaultBlacklistRadius]
        crashLog := pushCapped record.crashLog cls 32
        state := .unstable }, recedeTo)
  | .enterSafeMode stock =>
    ({ record with
        consecutiveCrashes := saturatingAdd record.consecutiveCrashes 1
        safeMode := true
        state := .safeMode }, stock)
  | .remainSafeMode stock => ({ record with safeMode := true, state := .safeMode }, stock)

/-- Startup recovery: the decision and its commit. -/
def recover (record : SafeLoopRecord) (bootFlag : Option BootFlag) (bugcheck : CrashClass) :
    SafeLoopRecord × TuningPoint :=
  applyRecovery record (decideRecovery bootFlag bugcheck record)

/-- The crash that exhausts the budget of `safeModeCrashThreshold`. -/
def tripsSafeMode (record : SafeLoopRecord) (flag : BootFlag) (bugcheck : CrashClass) : Bool :=
  !supervisedForgeTdr flag bugcheck &&
    decide (safeModeCrashThreshold ≤ record.consecutiveCrashes + 1)

theorem pushCapped_getLast? {α : Type*} (v : List α) (item : α) {cap : Nat} (h : 0 < cap) :
    (pushCapped v item cap).getLast? = some item := by
  rw [pushCapped, List.getLast?_drop, if_neg (by simp; omega)]
  simp

theorem pushCapped_length_le {α : Type*} (v : List α) (item : α) (cap : Nat) :
    (pushCapped v item cap).length ≤ cap := by
  rw [pushCapped, List.length_drop]
  omega

/-- The two actions an armed flag can lead to. -/
theorem decideRecovery_armed (flag : BootFlag) (bugcheck : CrashClass)
    (record : SafeLoopRecord) :
    decideRecovery (some flag) bugcheck record =
      if tripsSafeMode record flag bugcheck then .enterSafeMode TuningPoint.stock
      else .blacklistAndRecede flag.intent record.recoveryTarget bugcheck
        (!supervisedForgeTdr flag bugcheck) := by
  have hcrashes : saturatingAdd record.consecutiveCrashes 1 ≥ safeModeCrashThreshold ↔
      safeModeCrashThreshold ≤ record.consecutiveCrashes + 1 := by
    simp only [saturatingAdd, u32Max, safeModeCrashThreshold]
    omega
  cases h : supervisedForgeTdr flag bugcheck <;>
    simp [decideRecovery, tripsSafeMode, h, hcrashes]

/-- The record learns the crashed point and its class. -/
theorem applyRecovery_blacklistAndRecede_blacklist {record : SafeLoopRecord}
    {crashed recedeTo : TuningPoint} {cls : CrashClass} {count : Bool} :
    (applyRecovery record (.blacklistAndRecede crashed recedeTo cls count)).1.blacklist =
      if record.isBlacklisted crashed then record.blacklist
      else record.blacklist ++ [.around crashed defaultBlacklistRadius] := rfl

theorem applyRecovery_learns {record : SafeLoopRecord} {crashed recedeTo : TuningPoint}
    {cls : CrashClass} {count : Bool} :
    let record' := (applyRecovery record (.blacklistAndRecede crashed recedeTo cls count)).1
    record'.isBlacklisted crashed ∧ record'.crashLog.getLast? = some cls := by
  refine ⟨?_, pushCapped_getLast? _ _ (by decide)⟩
  rw [SafeLoopRecord.isBlacklisted, applyRecovery_blacklistAndRecede_blacklist]
  split
  next h => exact h
  next => simp [BlacklistRegion.contains_around_self]

/-- Recovery never forgets a region. -/
theorem applyRecovery_blacklist_prefix (record : SafeLoopRecord) (action : RecoveryAction) :
    record.blacklist <+: (applyRecovery record action).1.blacklist := by
  cases action with
  | blacklistAndRecede crashed recedeTo cls count =>
    rw [applyRecovery_blacklistAndRecede_blacklist]
    split
    next => exact List.prefix_refl _
    next => exact List.prefix_append _ _
  | _ => exact List.prefix_refl _

/-- A crash is learnt unless it trips Safe Mode; then only what was known before is known. -/
theorem recover_accounts_iff (record : SafeLoopRecord) (flag : BootFlag) (cls : CrashClass) :
    ((recover record (some flag) cls).1.isBlacklisted flag.intent ∧
        (recover record (some flag) cls).1.crashLog.getLast? = some cls) ↔
      tripsSafeMode record flag cls = false ∨
        (record.isBlacklisted flag.intent ∧ record.crashLog.getLast? = some cls) := by
  rw [recover, decideRecovery_armed]
  cases h : tripsSafeMode record flag cls with
  | true => simp [applyRecovery, SafeLoopRecord.isBlacklisted]
  | false => simpa using applyRecovery_learns

/-- The third crash in a row is neither blacklisted nor logged. -/
theorem recover_loses_tripping_crash :
    ¬ ∀ (record : SafeLoopRecord) (flag : BootFlag) (cls : CrashClass),
      (recover record (some flag) cls).1.isBlacklisted flag.intent ∧
        (recover record (some flag) cls).1.crashLog.getLast? = some cls := by
  intro h
  have := h { consecutiveCrashes := 2 }
    ⟨.fromAxes [("gpu_freq_mhz", 1845), ("gpu_voltage_mv", 856)], "gpu_apply_undervolt",
      "2026-07-15T00:00:00Z"⟩ .ocInstability
  revert this
  decide

end Nidavellir

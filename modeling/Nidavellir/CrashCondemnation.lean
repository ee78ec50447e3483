import Nidavellir.FieldGuard

namespace Nidavellir

/-- The operations that write a (clock, anchor) pair to the card behind an armed flag. -/
inductive ArmedOperation
  | f2Probe (targetMhz : Nat) (cand : PositiveOffsetPlan)
  | profileApply (targetMhz anchorMv : Nat) (memOffsetMhz : Option Int)

namespace ArmedOperation

def targetMhz : ArmedOperation → Nat
  | f2Probe targetMhz _ => targetMhz
  | profileApply targetMhz _ _ => targetMhz

def anchorMv : ArmedOperation → Nat
  | f2Probe _ cand => cand.voltageMv
  | profileApply _ anchorMv _ => anchorMv

def bootFlag (timestamp : String) : ArmedOperation → BootFlag
  | f2Probe targetMhz cand => ⟨f2Intent targetMhz cand, "f2_undervolt_probe", timestamp⟩
  | profileApply targetMhz anchorMv memOffsetMhz =>
    ⟨undervoltIntent targetMhz anchorMv memOffsetMhz, "gpu_apply_undervolt", timestamp⟩

/-- The intent names the pair: by its axes, or by lying within the radius of it. -/
def namesPair : ArmedOperation → Prop
  | f2Probe _ _ => True
  | profileApply _ anchorMv memOffsetMhz =>
    anchorMv ≤ defaultBlacklistRadius ∧
      ∀ m, memOffsetMhz = some m → m.natAbs ≤ defaultBlacklistRadius

end ArmedOperation

theorem f2Intent_fieldPair (targetMhz : Nat) (cand : PositiveOffsetPlan) (r : Int) :
    (BlacklistRegion.around (f2Intent targetMhz cand) r).fieldPair =
      some ((targetMhz : Int), (cand.voltageMv : Int)) := by
  simp [BlacklistRegion.fieldPair, BlacklistRegion.around, f2Intent, TuningPoint.fromAxes,
    Finmap.lookup_insert_of_ne]

theorem undervoltIntent_fieldPair (targetMhz anchorMv : Nat) (memOffsetMhz : Option Int)
    (r : Int) :
    (BlacklistRegion.around (undervoltIntent targetMhz anchorMv memOffsetMhz) r).fieldPair =
      none := by
  cases memOffsetMhz <;>
    simp [BlacklistRegion.fieldPair, BlacklistRegion.around, undervoltIntent,
      TuningPoint.fromAxes, Finmap.lookup_insert_of_ne]

theorem undervoltIntent_setting (targetMhz anchorMv : Nat) (memOffsetMhz : Option Int)
    (key : String) :
    (undervoltIntent targetMhz anchorMv memOffsetMhz).setting key =
      if key = "gpu_mem_offset_mhz" then memOffsetMhz.getD 0
      else if key = "gpu_voltage_mv" then (anchorMv : Int)
      else if key = "gpu_freq_mhz" then (targetMhz : Int) else 0 := by
  cases memOffsetMhz with
  | none =>
    by_cases h : key = "gpu_mem_offset_mhz"
    · subst h
      simp [undervoltIntent, TuningPoint.fromAxes]
    · simp [undervoltIntent, TuningPoint.fromAxes, h]
  | some m =>
    simp [undervoltIntent, TuningPoint.fromAxes]

theorem pairIntent_setting (targetMhz anchorMv : Nat) (key : String) :
    (pairIntent targetMhz anchorMv).setting key =
      if key = "gpu_vf_bin_mv" then (anchorMv : Int)
      else if key = "gpu_freq_mhz" then (targetMhz : Int) else 0 := by
  simp [pairIntent, TuningPoint.fromAxes]

/-- A profile region reaches the pair it was applied at only within the radius of stock. -/
theorem undervoltIntent_contains_pairIntent (targetMhz anchorMv : Nat)
    (memOffsetMhz : Option Int) :
    (BlacklistRegion.around (undervoltIntent targetMhz anchorMv memOffsetMhz)
        defaultBlacklistRadius).contains (pairIntent targetMhz anchorMv) ↔
      (ArmedOperation.profileApply targetMhz anchorMv memOffsetMhz).namesPair := by
  rw [BlacklistRegion.contains_around_iff]
  simp only [undervoltIntent_setting, pairIntent_setting, ArmedOperation.namesPair]
  constructor
  · intro h
    have hmv := h "gpu_voltage_mv"
    have hmem := h "gpu_mem_offset_mhz"
    refine ⟨by simpa using hmv, ?_⟩
    rintro m rfl
    simpa using hmem
  · intro hpair key
    obtain ⟨hmv, hmem⟩ := hpair
    have hm : (memOffsetMhz.getD 0).natAbs ≤ defaultBlacklistRadius := by
      cases memOffsetMhz with
      | none => decide
      | some m => exact hmem m rfl
    by_cases h1 : key = "gpu_mem_offset_mhz"
    · simpa [h1] using hm
    by_cases h2 : key = "gpu_voltage_mv"
    · simpa [h2] using hmv
    by_cases h3 : key = "gpu_vf_bin_mv"
    · simpa [h3] using hmv
    · simp [h1, h2, h3]

theorem fieldPairBlacklisted_blacklisting_of_fieldPair {record : SafeLoopRecord}
    {region : BlacklistRegion} {targetMhz anchorMv : Nat}
    (h : region.fieldPair = some ((targetMhz : Int), (anchorMv : Int))) :
    fieldPairBlacklisted (record.blacklisting region) targetMhz anchorMv := by
  have hmem : ((targetMhz : Int), (anchorMv : Int)) ∈
      fieldPairs (record.blacklisting region) := by
    simp [fieldPairs_blacklisting, h]
  obtain ⟨f, hf, hle⟩ := floorEnvelope_ge_of_mem hmem
  exact fieldPairBlacklisted_iff.mpr (Or.inr ⟨f, hf, hle⟩)

theorem fieldPairBlacklisted_blacklisting_of_none {record : SafeLoopRecord}
    {region : BlacklistRegion} {targetMhz anchorMv : Nat} (h : region.fieldPair = none) :
    fieldPairBlacklisted (record.blacklisting region) targetMhz anchorMv ↔
      fieldPairBlacklisted record targetMhz anchorMv ∨
        region.contains (pairIntent targetMhz anchorMv) := by
  have hfloor : fieldVfFloorMv (record.blacklisting region) targetMhz =
      fieldVfFloorMv record targetMhz := by
    simp [fieldVfFloorMv, fieldPairs_blacklisting, h]
  have hlist : (record.blacklisting region).isBlacklisted (pairIntent targetMhz anchorMv) ↔
      record.isBlacklisted (pairIntent targetMhz anchorMv) ∨
        region.contains (pairIntent targetMhz anchorMv) := by
    simp [SafeLoopRecord.isBlacklisted, SafeLoopRecord.blacklisting]
  rw [fieldPairBlacklisted_iff, fieldPairBlacklisted_iff, hfloor, hlist]
  exact or_right_comm

theorem fieldPairBlacklisted_blacklisting_intent (record : SafeLoopRecord) (op : ArmedOperation)
    (timestamp : String) :
    fieldPairBlacklisted (record.blacklisting
        (.around (op.bootFlag timestamp).intent defaultBlacklistRadius)) op.targetMhz
        op.anchorMv ↔
      fieldPairBlacklisted record op.targetMhz op.anchorMv ∨ op.namesPair := by
  cases op with
  | f2Probe targetMhz cand =>
    exact ⟨fun _ => Or.inr trivial, fun _ => fieldPairBlacklisted_blacklisting_of_fieldPair
      (f2Intent_fieldPair targetMhz cand defaultBlacklistRadius)⟩
  | profileApply targetMhz anchorMv memOffsetMhz =>
    rw [← undervoltIntent_contains_pairIntent]
    exact fieldPairBlacklisted_blacklisting_of_none
      (undervoltIntent_fieldPair targetMhz anchorMv memOffsetMhz defaultBlacklistRadius)

/-- A learnt crash condemns its pair to the field guard exactly when the guard knew the pair
already, or a new region was carved out around an intent that names it. -/
theorem crash_condemns_pair_iff {record : SafeLoopRecord} {op : ArmedOperation}
    {timestamp : String} {bugcheck cls : CrashClass} {crashed recedeTo : TuningPoint}
    {count : Bool}
    (h : decideRecovery (some (op.bootFlag timestamp)) bugcheck record =
      .blacklistAndRecede crashed recedeTo cls count) :
    fieldPairBlacklisted (recover record (some (op.bootFlag timestamp)) bugcheck).1 op.targetMhz
        op.anchorMv ↔
      fieldPairBlacklisted record op.targetMhz op.anchorMv ∨
        (record.isBlacklisted (op.bootFlag timestamp).intent = false ∧ op.namesPair) := by
  have hcrashed : crashed = (op.bootFlag timestamp).intent := by
    rw [decideRecovery_armed] at h
    split at h
    next => simp at h
    next => exact (RecoveryAction.blacklistAndRecede.inj h).1.symm
  subst hcrashed
  have hlearnt : (recover record (some (op.bootFlag timestamp)) bugcheck).1.blacklist =
      if record.isBlacklisted (op.bootFlag timestamp).intent then record.blacklist
      else record.blacklist ++
        [.around (op.bootFlag timestamp).intent defaultBlacklistRadius] := by
    rw [recover, h]
    exact applyRecovery_blacklistAndRecede_blacklist
  cases hb : record.isBlacklisted (op.bootFlag timestamp).intent with
  | true =>
    have hsame : (recover record (some (op.bootFlag timestamp)) bugcheck).1.blacklist =
        record.blacklist := by
      rw [hlearnt, if_pos hb]
    rw [fieldPairBlacklisted_congr hsame]
    simp
  | false =>
    have hnew : (recover record (some (op.bootFlag timestamp)) bugcheck).1.blacklist =
        (record.blacklisting
          (.around (op.bootFlag timestamp).intent defaultBlacklistRadius)).blacklist := by
      rw [hlearnt, if_neg (by simp [hb])]
      rfl
    rw [fieldPairBlacklisted_congr hnew, fieldPairBlacklisted_blacklisting_intent]
    simp

def candidate1845 : PositiveOffsetPlan where
  index := 64
  voltageMv := 856
  baseMhz := 1755
  offsetMhz := 90
  prevOffsetMhz := 75
  stepDeltaMhz := 15
  effectiveMhz := 1845

/-- The first crashing probe condemns its pair. -/
theorem probe_crash_condemns_pair :
    fieldPairBlacklisted (recover {}
      (some ((ArmedOperation.f2Probe 1845 candidate1845).bootFlag "2026-07-15T00:00:00Z"))
      .ocInstability).1 1845 856 := by
  have h : decideRecovery
      (some ((ArmedOperation.f2Probe 1845 candidate1845).bootFlag "2026-07-15T00:00:00Z"))
      .ocInstability {} = .blacklistAndRecede _ _ _ _ := rfl
  exact (crash_condemns_pair_iff h).mpr (Or.inr ⟨by decide, trivial⟩)

/-- The same pair crashing as a profile is stored under an axis the field guard never reads. -/
theorem profile_crash_spares_pair :
    ¬ ∀ (record : SafeLoopRecord) (op : ArmedOperation) (timestamp : String)
      (bugcheck cls : CrashClass) (crashed recedeTo : TuningPoint) (count : Bool),
      decideRecovery (some (op.bootFlag timestamp)) bugcheck record =
        .blacklistAndRecede crashed recedeTo cls count →
      fieldPairBlacklisted (recover record (some (op.bootFlag timestamp)) bugcheck).1
        op.targetMhz op.anchorMv := by
  intro h
  have := h {} (.profileApply 1845 856 none) "2026-07-15T00:00:00Z" .ocInstability
    .ocInstability _ _ _ rfl
  revert this
  decide

end Nidavellir

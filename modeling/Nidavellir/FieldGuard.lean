import Nidavellir.SafeLoop
import Nidavellir.Condemnation

namespace Nidavellir

/-- One bounded positive-offset point: the bin, its base clock and the offset that reaches the
target. -/
structure PositiveOffsetPlan where
  index : Nat
  voltageMv : Nat
  baseMhz : Nat
  offsetMhz : Int
  prevOffsetMhz : Int
  stepDeltaMhz : Int
  effectiveMhz : Nat
deriving DecidableEq, Repr

def f2Intent (targetMhz : Nat) (cand : PositiveOffsetPlan) : TuningPoint :=
  .fromAxes [("gpu_freq_mhz", targetMhz), ("gpu_vf_bin_mv", cand.voltageMv),
    ("gpu_offset_mhz", cand.offsetMhz)]

/-- The intent that `apply_and_persist_undervolt` arms. -/
def undervoltIntent (targetMhz anchorMv : Nat) (memOffsetMhz : Option Int) : TuningPoint :=
  .fromAxes ([("gpu_freq_mhz", (targetMhz : Int)), ("gpu_voltage_mv", (anchorMv : Int))] ++
    memOffsetMhz.toList.map fun m => ("gpu_mem_offset_mhz", m))

def BlacklistRegion.fieldPair (self : BlacklistRegion) : Option (Int × Int) := do
  let clock ← self.center.axes.lookup "gpu_freq_mhz"
  let mv ← self.center.axes.lookup "gpu_vf_bin_mv"
  return (clock, mv)

def fieldPairs (record : SafeLoopRecord) : List (Int × Int) :=
  record.blacklist.filterMap BlacklistRegion.fieldPair

def fieldVfFloorMv (record : SafeLoopRecord) (clockMhz : Int) : Option Int :=
  floorEnvelope (fieldPairs record) clockMhz

def pairIntent (targetMhz anchorMv : Nat) : TuningPoint :=
  .fromAxes [("gpu_freq_mhz", targetMhz), ("gpu_vf_bin_mv", anchorMv)]

def fieldPairBlacklisted (record : SafeLoopRecord) (targetMhz anchorMv : Nat) : Bool :=
  record.isBlacklisted (pairIntent targetMhz anchorMv) ||
    (fieldVfFloorMv record targetMhz).any ((anchorMv : Int) ≤ ·)

def candidateBlacklisted (record : SafeLoopRecord) (targetMhz : Nat) (cand : PositiveOffsetPlan) :
    Bool :=
  record.isBlacklisted (f2Intent targetMhz cand) ||
    fieldPairBlacklisted record targetMhz cand.voltageMv

def SafeLoopRecord.blacklisting (self : SafeLoopRecord) (region : BlacklistRegion) :
    SafeLoopRecord :=
  { self with blacklist := self.blacklist ++ [region] }

theorem fieldPairs_blacklisting (record : SafeLoopRecord) (region : BlacklistRegion) :
    fieldPairs (record.blacklisting region) = fieldPairs record ++ region.fieldPair.toList := by
  rw [fieldPairs, SafeLoopRecord.blacklisting, List.filterMap_append, fieldPairs]
  cases h : region.fieldPair <;> simp [h]

theorem fieldPairBlacklisted_iff {record : SafeLoopRecord} {targetMhz anchorMv : Nat} :
    fieldPairBlacklisted record targetMhz anchorMv ↔
      record.isBlacklisted (pairIntent targetMhz anchorMv) ∨
        ∃ f, fieldVfFloorMv record targetMhz = some f ∧ (anchorMv : Int) ≤ f := by
  simp [fieldPairBlacklisted, Option.any_eq_true]

theorem fieldPairBlacklisted_congr {record record' : SafeLoopRecord}
    (h : record.blacklist = record'.blacklist) (targetMhz anchorMv : Nat) :
    fieldPairBlacklisted record targetMhz anchorMv =
      fieldPairBlacklisted record' targetMhz anchorMv := by
  simp only [fieldPairBlacklisted, SafeLoopRecord.isBlacklisted, fieldVfFloorMv, fieldPairs, h]

/-- A region raises the field floor at every clock, unless its pair splits a chord. -/
theorem fieldVfFloorMv_blacklisting_mono_iff {record : SafeLoopRecord}
    {region : BlacklistRegion} :
    (∀ clockMhz f, fieldVfFloorMv record clockMhz = some f →
      ∃ g, fieldVfFloorMv (record.blacklisting region) clockMhz = some g ∧ f ≤ g) ↔
      ∀ q, region.fieldPair = some q → ¬ SplitsChord (fieldPairs record) q := by
  unfold fieldVfFloorMv
  rw [fieldPairs_blacklisting]
  cases h : region.fieldPair with
  | none => simpa using fun clockMhz f hf => ⟨f, hf, le_rfl⟩
  | some q => simp [floorEnvelope_append_mono_iff]

/-- More evidence never relaxes a floor or a refusal, as long as the new pair does not fall below
the chord that two condemned clocks span. -/
theorem evidence_mono_unless_splits :
    (∀ pairs q, (∀ clockMhz f, vfFloorEnvelope pairs clockMhz = some f →
        ∃ g, vfFloorEnvelope (pairs ++ [q]) clockMhz = some g ∧ f ≤ g) ↔
      ¬ SplitsChord (pairs.map toClockMv) (toClockMv q)) ∧
    (∀ events gpuKey (e : CondemnationEvent), e.rehabilitated = false →
      ¬ (condemns gpuKey e ∧
        SplitsChord (((condemnedPairs events gpuKey).bySeverity e.severity).map toClockMv)
          (toClockMv e.pair)) →
      ∀ clockMhz anchorMv, (condemnedPairs events gpuKey).refuses clockMhz anchorMv →
        (condemnedPairs (events ++ [e]) gpuKey).refuses clockMhz anchorMv) ∧
    ∀ record (region : BlacklistRegion), (∀ clockMhz f, fieldVfFloorMv record clockMhz = some f →
        ∃ g, fieldVfFloorMv (record.blacklisting region) clockMhz = some g ∧ f ≤ g) ↔
      ∀ q, region.fieldPair = some q → ¬ SplitsChord (fieldPairs record) q := by
  refine ⟨?_, ?_, ?_⟩
  · intro pairs q
    exact vfFloorEnvelope_append_mono_iff
  · intro events gpuKey e he h clockMhz anchorMv href
    exact condemnedPairs_refuses_append he h href
  · intro record region
    exact fieldVfFloorMv_blacklisting_mono_iff

/-- A condemnation of (1850, 800) lowers the floor that (1800, 800) and (1900, 900) span there. -/
theorem splitting_evidence_relaxes :
    ¬ (∀ pairs q clockMhz f, vfFloorEnvelope pairs clockMhz = some f →
      ∃ g, vfFloorEnvelope (pairs ++ [q]) clockMhz = some g ∧ f ≤ g) ∧
    ¬ ∀ events gpuKey (e : CondemnationEvent), e.rehabilitated = false →
      ∀ clockMhz anchorMv, (condemnedPairs events gpuKey).refuses clockMhz anchorMv →
        (condemnedPairs (events ++ [e]) gpuKey).refuses clockMhz anchorMv := by
  constructor
  · intro h
    obtain ⟨g, hg, hle⟩ := h [(1800, 800), (1900, 900)] (1850, 800) 1850 850 (by decide)
    obtain rfl : 800 = g := Option.some.inj ((by decide : _ = some 800).symm.trans hg)
    omega
  · intro h
    have := h [rigidCondemnation 1800 800, rigidCondemnation 1900 900] "gpu-a"
      (rigidCondemnation 1850 800) rfl 1850 825 (by decide)
    revert this
    decide

end Nidavellir

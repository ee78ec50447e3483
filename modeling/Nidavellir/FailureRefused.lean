import Nidavellir.HardFailureMemory

namespace Nidavellir

open SafeLoopStore

/-- A point that failed: a candidate on the card, or a forged profile in use. -/
inductive PointFailure
  | candidate (targetMhz : Nat) (cand : PositiveOffsetPlan)
  | profile (report : OperatorReport)

namespace PointFailure

def intent : PointFailure → TuningPoint
  | .candidate targetMhz cand => f2Intent targetMhz cand
  | .profile report => report.intent

def pair : PointFailure → Nat × Nat
  | .candidate targetMhz cand => (targetMhz, cand.voltageMv)
  | .profile report => report.pair

/-- The record that a failure leaves: `blacklist_point` or `record_operator_field_failure`. -/
def record : PointFailure → SafeLoopRecord → SafeLoopRecord
  | .candidate targetMhz cand, record =>
    if record.isBlacklisted (f2Intent targetMhz cand) then record
    else record.blacklisting (.around (f2Intent targetMhz cand) defaultBlacklistRadius)
  | .profile report, record => report.recordOperatorFieldFailure record

/-- What the two writers save. -/
theorem blacklistPoint_eq (targetMhz : Nat) (cand : PositiveOffsetPlan)
    (result : FileResult) (dir : DataDir) :
    blacklistPoint targetMhz cand result dir =
      saveRecord ((PointFailure.candidate targetMhz cand).record (loadRecord dir)) result
        dir := rfl

theorem report_run_eq (report : OperatorReport) (dir : DataDir) :
    report.run dir =
      saveRecord ((PointFailure.profile report).record (loadRecord dir)) report.record dir := rfl

variable {failure : PointFailure} {record : SafeLoopRecord} {targetMhz anchorMv : Nat}

theorem record_blacklist (failure : PointFailure) (record : SafeLoopRecord) :
    (failure.record record).blacklist =
      if record.isBlacklisted failure.intent then record.blacklist
      else (record.blacklisting (.around failure.intent defaultBlacklistRadius)).blacklist := by
  cases failure with
  | candidate targetMhz cand =>
    unfold PointFailure.record intent
    dsimp only
    split <;> rfl
  | profile report =>
    unfold PointFailure.record intent OperatorReport.recordOperatorFieldFailure
    dsimp only
    split <;> rfl

theorem intent_fieldPair (failure : PointFailure) (r : Int) :
    (BlacklistRegion.around failure.intent r).fieldPair =
      some ((failure.pair.1 : Int), (failure.pair.2 : Int)) := by
  cases failure with
  | candidate targetMhz cand => exact f2Intent_fieldPair targetMhz cand r
  | profile report =>
    simp [BlacklistRegion.fieldPair, BlacklistRegion.around, intent, pair, OperatorReport.intent,
      TuningPoint.fromAxes, Finmap.lookup_insert_of_ne]

end PointFailure

/-- The guard refuses the pair, and every lower voltage at its clock. -/
def RefusedDown (record : SafeLoopRecord) (targetMhz anchorMv : Nat) : Prop :=
  ∀ mv ≤ anchorMv, fieldPairBlacklisted record targetMhz mv

/-- Between the field floor at the clock and the anchor, every pair lies in a region even without
its offset. -/
def CoveredDown (record : SafeLoopRecord) (targetMhz anchorMv : Nat) : Prop :=
  ∀ mv ≤ anchorMv, (∀ floor, fieldVfFloorMv record targetMhz = some floor → floor < mv) →
    record.isBlacklisted (pairIntent targetMhz mv)

variable {record : SafeLoopRecord} {targetMhz anchorMv : Nat}

theorem refusedDown_iff_coveredDown :
    RefusedDown record targetMhz anchorMv ↔ CoveredDown record targetMhz anchorMv := by
  constructor
  · intro h mv hmv habove
    rcases fieldPairBlacklisted_iff.mp (h mv hmv) with hlisted | ⟨floor, hfloor, hle⟩
    · exact hlisted
    · exact absurd hle (not_le.mpr (habove floor hfloor))
  · intro h mv hmv
    rw [fieldPairBlacklisted_iff]
    by_cases habove : ∀ floor, fieldVfFloorMv record targetMhz = some floor → floor < mv
    · exact .inl (h mv hmv habove)
    · push Not at habove
      obtain ⟨floor, hfloor, hle⟩ := habove
      exact .inr ⟨floor, hfloor, hle⟩

theorem refusedDown_congr {record' : SafeLoopRecord} (h : record.blacklist = record'.blacklist) :
    RefusedDown record targetMhz anchorMv ↔ RefusedDown record' targetMhz anchorMv := by
  unfold RefusedDown
  simp only [fieldPairBlacklisted_congr h]

/-- A new region raises the floor at its clock to its own voltage. -/
theorem refusedDown_blacklisting {region : BlacklistRegion}
    (h : region.fieldPair = some ((targetMhz : Int), (anchorMv : Int))) :
    RefusedDown (record.blacklisting region) targetMhz anchorMv := by
  have hmem : ((targetMhz : Int), (anchorMv : Int)) ∈
      fieldPairs (record.blacklisting region) := by
    simp [fieldPairs_blacklisting, h]
  obtain ⟨floor, hfloor, hle⟩ := floorEnvelope_ge_of_mem hmem
  intro mv hmv
  exact fieldPairBlacklisted_iff.mpr (.inr ⟨floor, hfloor, by omega⟩)

/-- A recorded failure is refused, unless an older region swallowed it without covering its pair. -/
theorem recorded_refused_iff (failure : PointFailure) (record : SafeLoopRecord) :
    RefusedDown (failure.record record) failure.pair.1 failure.pair.2 ↔
      (record.isBlacklisted failure.intent → CoveredDown record failure.pair.1 failure.pair.2) := by
  have hblacklist := failure.record_blacklist record
  cases hlisted : record.isBlacklisted failure.intent with
  | true =>
    rw [hlisted, if_pos rfl] at hblacklist
    rw [refusedDown_congr hblacklist, refusedDown_iff_coveredDown]
    exact ⟨fun h _ => h, fun h => h rfl⟩
  | false =>
    rw [hlisted, if_neg Bool.false_ne_true] at hblacklist
    rw [refusedDown_congr hblacklist]
    constructor
    · intro _ h
      cases h
    · intro _
      exact refusedDown_blacklisting (failure.intent_fieldPair defaultBlacklistRadius)

/-- A candidate one step above the region of an earlier failure, at the same offset. -/
def nearDuplicate : PositiveOffsetPlan where
  index := 65
  voltageMv := 857
  baseMhz := 1755
  offsetMhz := 90
  prevOffsetMhz := 75
  stepDeltaMhz := 15
  effectiveMhz := 1845

def earlierFailure : SafeLoopRecord :=
  { blacklist := [.around (f2Intent 1845 candidate1845) defaultBlacklistRadius] }

/-- The region is not pushed, and the guard sees neither the offset nor the new voltage. -/
theorem near_duplicate_not_refused :
    ¬ RefusedDown ((PointFailure.candidate 1845 nearDuplicate).record earlierFailure) 1845 857 := by
  intro h
  exact absurd (h 857 le_rfl) (by decide)

end Nidavellir

import Nidavellir.F2Observation
import Mathlib.Algebra.Order.Field.Rat

namespace Nidavellir

def isCurrentApplyQualificationEvidence (o : F2Observation) : Bool :=
  o.evidenceKind == .applyQualification &&
    o.qualificationContractVersion == some f2QualificationContractVersion &&
    o.outcome.isValidated && hasProvenCleanup o && hasReproducibleProvenance o &&
    o.qualificationCoverage.any fun coverage =>
      coverage.strength == .fsgl4 && coverage.pattern.isSome && coverage.verdict == .pass

def isCurrentApplyQualificationPass (o : F2Observation) : Bool :=
  isCurrentApplyQualificationEvidence o && o.pattern.any isRequiredQualificationPattern

def f2ApplyClockHoldTolMhz : Nat := 0

/-- A thermal flag counts only when the sustained clock sagged below the target. -/
def applyQualReadingTrustworthy (o : F2Observation) (targetMhz : Nat) : Bool :=
  !o.thermalThrottled ||
    o.sustainedClockMhz.any fun held => targetMhz ≤ held + f2ApplyClockHoldTolMhz

def F2Observation.isAt (o : F2Observation) (targetMhz anchorMv : Nat) (gpuKey : String) : Bool :=
  o.targetMhz == targetMhz && o.anchorMv == anchorMv && o.gpuKey == some gpuKey

/-- This run's reset-clean Endurance soak at exactly this pair. -/
def F2Observation.isCurrentEndurance (o : F2Observation) (runId : String)
    (targetMhz anchorMv : Nat) (gpuKey : String) : Bool :=
  o.runId == runId && o.isAt targetMhz anchorMv gpuKey &&
    isCurrentApplyQualificationEvidence o && o.pattern == some .endurance

def pointHasCurrentEnduranceQualification (obs : List F2Observation) (runId : String)
    (targetMhz applyMv : Nat) (gpuKey : String) : Bool :=
  obs.any fun o => o.isCurrentEndurance runId targetMhz applyMv gpuKey

/-- One pass without a sustained clock refuses the whole set. -/
def currentApplyQualificationP95ClockAtAnchor (obs : List F2Observation) (runId : String)
    (targetMhz anchorMv : Nat) (gpuKey : String) : Option Nat :=
  let passes := obs.filter fun o => o.runId == runId && o.isAt targetMhz anchorMv gpuKey &&
    isCurrentApplyQualificationPass o && o.resetToStockOk && o.bootFlagCleared &&
    applyQualReadingTrustworthy o targetMhz
  if (passes.all fun o => o.sustainedUpperClockMhz.any (0 < ·)) &&
      requiredQualificationPatterns.all fun required =>
        passes.any fun o => o.pattern == some required then
    (passes.filterMap F2Observation.sustainedUpperClockMhz).max?
  else none

section Watts

-- the exact value of a finite float, none for the others
variable (watts : Float32 → Option ℚ)

def F2Observation.p99Watts (o : F2Observation) : Option ℚ :=
  (o.powerP99W.bind watts).filter (0 < ·)

def F2Observation.peakWatts (o : F2Observation) : Option ℚ :=
  (o.maxWatts.map fun peak => (peak : ℚ)).filter (0 < ·)

def worstCurrentApplyQualificationPowerAtAnchor (obs : List F2Observation) (runId : String)
    (targetMhz applyMv : Nat) (gpuKey : String) : Option ℚ :=
  ((obs.filter fun o => o.runId == runId && o.isAt targetMhz applyMv gpuKey &&
    isCurrentApplyQualificationEvidence o).flatMap fun o =>
      (o.p99Watts watts).toList ++ o.peakWatts.toList).max?

/-- The greatest p99 of the required set and the Endurance soak, when both are complete. -/
def currentCompleteApplyGateP99AtAnchor (obs : List F2Observation) (runId : String)
    (targetMhz anchorMv : Nat) (gpuKey : String) : Option ℚ :=
  let counted := obs.filter fun o => o.runId == runId && o.isAt targetMhz anchorMv gpuKey &&
    isCurrentApplyQualificationEvidence o && o.resetToStockOk && o.bootFlagCleared &&
    applyQualReadingTrustworthy o targetMhz && (o.p99Watts watts).isSome &&
    o.pattern.any fun pattern => isRequiredQualificationPattern pattern || pattern == .endurance
  if (requiredQualificationPatterns.all fun required =>
      counted.any fun o => o.pattern == some required) &&
      counted.any fun o => o.pattern == some .endurance then
    (counted.filterMap fun o => o.p99Watts watts).max?
  else none

/-- The greatest power ever measured at the pair; none when it never was. -/
def measuredPowerAtPair (obs : List F2Observation) (gpuKey : String)
    (targetMhz anchorMv : Nat) : Option ℚ :=
  ((obs.filter fun o => o.isAt targetMhz anchorMv gpuKey).flatMap fun o =>
    ((o.p99Watts watts).filter fun _ => o.powerP99Confirmed).toList ++ o.peakWatts.toList).max?

end Watts

/-- A longer log never lowers the measured power of a pair. -/
theorem measuredPowerAtPair_append {watts : Float32 → Option ℚ} {obs later : List F2Observation}
    {gpuKey : String} {targetMhz anchorMv : Nat} {w : ℚ}
    (h : measuredPowerAtPair watts obs gpuKey targetMhz anchorMv = some w) :
    ∃ w', measuredPowerAtPair watts (obs ++ later) gpuKey targetMhz anchorMv = some w' ∧
      w ≤ w' := by
  obtain ⟨hmem, -⟩ := List.max?_eq_some_iff.mp h
  unfold measuredPowerAtPair
  rw [List.filter_append, List.flatMap_append]
  generalize (later.filter _).flatMap _ = added
  cases hmax : (((obs.filter fun o => o.isAt targetMhz anchorMv gpuKey).flatMap fun o =>
      ((o.p99Watts watts).filter fun _ => o.powerP99Confirmed).toList ++
        o.peakWatts.toList) ++ added).max? with
  | none =>
    rw [List.max?_eq_none_iff] at hmax
    rw [(List.append_eq_nil_iff.mp hmax).1] at hmem
    cases hmem
  | some w' =>
    exact ⟨w', rfl, (List.max?_eq_some_iff.mp hmax).2 w (List.mem_append_left _ hmem)⟩

@[simp] theorem pointHasCurrentEnduranceQualification_append {obs later : List F2Observation}
    {runId : String} {targetMhz applyMv : Nat} {gpuKey : String} :
    pointHasCurrentEnduranceQualification (obs ++ later) runId targetMhz applyMv gpuKey =
      (pointHasCurrentEnduranceQualification obs runId targetMhz applyMv gpuKey ||
        pointHasCurrentEnduranceQualification later runId targetMhz applyMv gpuKey) := by
  simp [pointHasCurrentEnduranceQualification]

end Nidavellir

import Nidavellir.AttemptDecision
import Nidavellir.DiscoveryEvidence
import Nidavellir.F2Frontier
import Nidavellir.UnionGuardPaths

namespace Nidavellir

open PowerAttempts

/-- A prefix that reaches into the second part holds the first. -/
theorem prefix_of_mem_right {α : Type*} {l a b : List α} {x : α} (h : l <+: a ++ b) (hx : x ∈ l)
    (hxa : x ∉ a) : a <+: l := by
  rcases List.prefix_or_prefix_of_prefix h (List.prefix_append a b) with hla | hal
  · exact absurd (hla.subset hx) hxa
  · exact hal

namespace F2DiscoveryCall

variable {call : F2DiscoveryCall} {candidate : AnchoredPositiveOffsetPlan}
  {reports : List F2TimedPhaseReport} {appended : List F2Observation}

/-- The lines of a candidate that a power loss leaves, its cleanup being clean. -/
def PersistedUpTo (call : F2DiscoveryCall) (candidate : AnchoredPositiveOffsetPlan)
    (reports : List F2TimedPhaseReport) (appended : List F2Observation) : Prop :=
  appended <+: (f2CandidatePersistOrder reports true).map (call.observationOf candidate)

/-- The qualification lines of a candidate, in the order in which they were measured. -/
def qualificationLines (call : F2DiscoveryCall) (candidate : AnchoredPositiveOffsetPlan)
    (reports : List F2TimedPhaseReport) : List F2Observation :=
  (reports.filter (·.evidenceKind == .qualification)).map (call.observationOf candidate)

theorem persist_persistedUpTo {W : Type*} [F2World W] (prior : List F2Observation) (w : W) :
    ∃ appended, (call.persist candidate (f2CandidatePersistOrder reports true) prior w).2.1 =
        prior ++ appended ∧ call.PersistedUpTo candidate reports appended := by
  obtain ⟨appended, hlog, hpre, -⟩ :=
    call.persist_spec candidate (f2CandidatePersistOrder reports true) prior w
  exact ⟨appended, hlog, hpre⟩

theorem observationOf_qualification {timed : F2TimedPhaseReport}
    (h : timed.evidenceKind = .qualification) :
    (call.observationOf candidate timed).evidenceKind = .qualification := by
  rw [observationOf, if_pos h]
  exact call.qualifies

theorem mem_qualificationLines {line : F2Observation} :
    line ∈ call.qualificationLines candidate reports ↔ ∃ timed ∈ reports,
      timed.evidenceKind = .qualification ∧ call.observationOf candidate timed = line := by
  simp only [qualificationLines, List.mem_map, List.mem_filter, beq_iff_eq, and_assoc]

/-- The qualification lines are written before any discovery line. -/
theorem qualificationLines_prefix (h : call.PersistedUpTo candidate reports appended)
    {line : F2Observation} (hline : line ∈ appended) (hkind : line.evidenceKind = .discovery) :
    call.qualificationLines candidate reports <+: appended := by
  rw [PersistedUpTo, f2CandidatePersistOrder, if_pos rfl, List.map_append] at h
  refine prefix_of_mem_right h hline fun hqualification => ?_
  obtain ⟨timed, -, hqualifies, rfl⟩ := mem_qualificationLines.mp hqualification
  rw [observationOf_qualification hqualifies] at hkind
  cases hkind

/-- A failed qualification on record keeps its anchor off the frontier. -/
theorem anchor_lt_of_failed {obs : List F2Observation} {line : F2Observation}
    {e : F2FrontierEntry} (hline : line ∈ call.qualificationLines candidate reports)
    (hmem : line ∈ obs) (hbad : line.outcome.isBad)
    (he : frontierEntryForTarget obs call.descent.targetMhz = some e) :
    candidate.anchor.voltageMv < e.bestAnchorMv := by
  obtain ⟨timed, -, hkind, rfl⟩ := mem_qualificationLines.mp hline
  have hbest : DiscoveredAt obs call.descent.targetMhz e.bestAnchorMv :=
    (frontierEntryForTarget_isLeast he).2.1
  refine hbest.aboveBad _ hmem rfl ?_ hbad
  rw [observationOf_qualification hkind]
  decide

/-- Whenever the power is lost, a discovery line of the candidate is on record only after all its
qualification lines, and a bin that failed one of them is not the frontier that is reloaded. -/
theorem persisted_frontier_qualified (call : F2DiscoveryCall)
    (candidate : AnchoredPositiveOffsetPlan) (reports : List F2TimedPhaseReport)
    (prior appended : List F2Observation) (h : call.PersistedUpTo candidate reports appended)
    (line : F2Observation) (hline : line ∈ appended) (hkind : line.evidenceKind = .discovery) :
    call.qualificationLines candidate reports <+: appended ∧
      ∀ e, frontierEntryForTarget (prior ++ appended) call.descent.targetMhz = some e →
        e.bestAnchorMv = candidate.anchor.voltageMv →
          ∀ failed ∈ call.qualificationLines candidate reports, ¬ failed.outcome.isBad := by
  have hpre := qualificationLines_prefix h hline hkind
  refine ⟨hpre, fun e he hbest failed hfailed hbad => ?_⟩
  have hmem := List.mem_append_right prior (hpre.subset hfailed)
  have hlt := anchor_lt_of_failed hfailed hmem hbad he
  omega

def context1845 (evidenceKind : F2EvidenceKind) : ObsContext where
  runId := "f2-power-1781980800000"
  timestamp := "2026-06-21T00:00:00Z"
  gpuKey := some "RTX 3060 Ti"
  evidenceKind := evidenceKind
  discoveryContractVersion := some f2DiscoveryContractVersion
  qualificationContractVersion := some f2QualificationContractVersion
  qualificationCoverage := none
  mode := .ladderSweep
  requestedStartMv := none
  positiveOffsetCapMhz := 120

def call1845 : F2DiscoveryCall where
  descent := ⟨1845, [plan1845], {}, 30, 1⟩
  rules := nearLimitRules
  powerLimitW := some 220
  discoveryDwellMs := 10000
  qualificationDwellMs := 15000
  renderGoldens := none
  ctx := context1845 .discovery
  qualCtx := context1845 .qualification
  discovers := rfl
  qualifies := rfl
  sameRun := rfl
  priorRunQualification := []

/-- A bin that passed its discovery and failed its qualification. -/
def failedQualification : List F2TimedPhaseReport :=
  [⟨.discovery, powerReport 180 .validated⟩, ⟨.qualification, powerReport 180 .silentError⟩]

/-- The lines of that bin, all of them written. -/
theorem persisted_frontier_qualified_failed :
    let appended := (f2CandidatePersistOrder failedQualification true).map
      (call1845.observationOf plan1845)
    call1845.qualificationLines plan1845 failedQualification <+: appended ∧
      ∀ e, frontierEntryForTarget ([] ++ appended) 1845 = some e → e.bestAnchorMv = 856 →
        ∀ failed ∈ call1845.qualificationLines plan1845 failedQualification,
          ¬ failed.outcome.isBad :=
  persisted_frontier_qualified call1845 plan1845 failedQualification [] _ (List.prefix_refl _)
    _ (List.mem_of_getElem? (i := 1) rfl) rfl

end F2DiscoveryCall

end Nidavellir

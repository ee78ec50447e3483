import Nidavellir.F2Frontier

namespace Nidavellir

open Extremes

/-- Lines that prove no point leave no new proven anchor behind. -/
theorem DiscoveredAt.of_append {obs later : List F2Observation} {t v : Nat}
    (hlater : ∀ o ∈ later, o.outcome ≠ .validated) (h : DiscoveredAt (obs ++ later) t v) :
    DiscoveredAt obs t v := by
  obtain ⟨o, ho, ht, hv, hval, hev⟩ := h.discovery
  have hold : o ∈ obs := by
    rcases List.mem_append.mp ho with hobs | hnew
    · exact hobs
    · exact absurd hval (hlater o hnew)
  exact {
    discovery := ⟨o, hold, ht, hv, hval, hev⟩
    aboveBad := fun b hb => h.aboveBad b (List.mem_append_left later hb)
    aboveLoss := fun b hb => h.aboveLoss b (List.mem_append_left later hb) }

theorem PublishableAt.of_append {obs later : List F2Observation} {t v : Nat}
    (hlater : ∀ o ∈ later, o.outcome ≠ .validated) (h : PublishableAt (obs ++ later) t v) :
    PublishableAt obs t v := by
  refine ⟨h.toDiscoveredAt.of_append hlater, ?_⟩
  intro pattern hp
  obtain ⟨q, hq, ht, hv, hpass, hpat⟩ := h.qualified pattern hp
  have hold : q ∈ obs := by
    rcases List.mem_append.mp hq with hobs | hnew
    · exact hobs
    · have hval := F2ObsOutcome.isValidated_iff.mp (isCurrentQualificationPass_validated hpass)
      exact absurd hval (hlater q hnew)
  exact ⟨q, hold, ht, hv, hpass, hpat⟩

theorem frontierEntryForTarget_append {obs later : List F2Observation} {t : Nat}
    {e' : F2FrontierEntry} (hlater : ∀ o ∈ later, o.outcome ≠ .validated)
    (h : frontierEntryForTarget (obs ++ later) t = some e') :
    ∃ e, frontierEntryForTarget obs t = some e ∧ e.bestAnchorMv ≤ e'.bestAnchorMv := by
  have hold := (frontierEntryForTarget_isLeast h).2.1.of_append hlater
  obtain ⟨e, he⟩ := frontierEntryForTarget_isSome hold
  exact ⟨e, he, (frontierEntryForTarget_isLeast he).2.2 hold⟩

theorem qualifiedFrontierEntryForTarget_append {obs later : List F2Observation} {t : Nat}
    {e' : F2FrontierEntry} (hlater : ∀ o ∈ later, o.outcome ≠ .validated)
    (h : qualifiedFrontierEntryForTarget (obs ++ later) t = some e') :
    ∃ e, qualifiedFrontierEntryForTarget obs t = some e ∧
      e.bestAnchorMv ≤ e'.bestAnchorMv := by
  have hold := (qualifiedFrontierEntryForTarget_isLeast h).2.1.of_append hlater
  obtain ⟨e, he⟩ := qualifiedFrontierEntryForTarget_isSome hold
  exact ⟨e, he, (qualifiedFrontierEntryForTarget_isLeast he).2.2 hold⟩

section OtherTarget

variable {obs : List F2Observation} {o : F2Observation} {t : Nat}

theorem firstBadForTarget_append_other (ht : o.targetMhz ≠ t) :
    firstBadForTarget (obs ++ [o]) t = firstBadForTarget obs t := by
  simp [firstBadForTarget, F2Observation.isBadFor, ht]

theorem crashFloorForTarget_append_other (ht : o.targetMhz ≠ t) :
    crashFloorForTarget (obs ++ [o]) t = crashFloorForTarget obs t := by
  simp [crashFloorForTarget, F2Observation.isLossFor, ht]

theorem discoveryFrontierCandidates_append_other (ht : o.targetMhz ≠ t) :
    discoveryFrontierCandidates (obs ++ [o]) t = discoveryFrontierCandidates obs t := by
  simp [discoveryFrontierCandidates, firstBadForTarget_append_other ht,
    crashFloorForTarget_append_other ht, ht]

theorem qualifiedAt_append_other {v : Nat} (ht : o.targetMhz ≠ t) :
    qualifiedAt (obs ++ [o]) t v = qualifiedAt obs t v := by
  have hother : (o.targetMhz == t) = false := beq_false_of_ne ht
  simp [qualifiedAt, hother]

theorem bracketForTarget_append_other (ht : o.targetMhz ≠ t) :
    bracketForTarget (obs ++ [o]) t = bracketForTarget obs t := by
  simp [bracketForTarget, lastGoodForTarget, firstBadForTarget_append_other ht, ht]

theorem frontierEntryFromBest_append_other (ht : o.targetMhz ≠ t) :
    frontierEntryFromBest (obs ++ [o]) t = frontierEntryFromBest obs t := by
  funext best
  simp [frontierEntryFromBest, evidenceAt, firstBadForTarget_append_other ht,
    bracketForTarget_append_other ht, ht]

theorem frontierEntryForTarget_append_other (ht : o.targetMhz ≠ t) :
    frontierEntryForTarget (obs ++ [o]) t = frontierEntryForTarget obs t := by
  rw [frontierEntryForTarget, discoveryFrontierCandidates_append_other ht,
    frontierEntryFromBest_append_other ht, frontierEntryForTarget]

theorem qualifiedFrontierEntryForTarget_append_other (ht : o.targetMhz ≠ t) :
    qualifiedFrontierEntryForTarget (obs ++ [o]) t = qualifiedFrontierEntryForTarget obs t := by
  simp only [qualifiedFrontierEntryForTarget, discoveryFrontierCandidates_append_other ht,
    frontierEntryFromBest_append_other ht, qualifiedAt_append_other ht]

end OtherTarget

theorem onGpu_append (obs later : List F2Observation) (gpuKey : String) :
    onGpu (obs ++ later) gpuKey = onGpu obs gpuKey ++ onGpu later gpuKey := by
  rw [onGpu, List.filter_append, onGpu, onGpu]

/-- Appended lines that validate nothing never deepen an entry, neither of one target nor of
the frontiers of a GPU, and a line of another target leaves an entry as it is. -/
theorem negativeEvidence_never_deepens (obs : List F2Observation) :
    (∀ o, o.outcome ≠ .validated → ∀ t,
      (∀ e', frontierEntryForTarget (obs ++ [o]) t = some e' →
        ∃ e, frontierEntryForTarget obs t = some e ∧ e.bestAnchorMv ≤ e'.bestAnchorMv) ∧
      ∀ e', qualifiedFrontierEntryForTarget (obs ++ [o]) t = some e' →
        ∃ e, qualifiedFrontierEntryForTarget obs t = some e ∧
          e.bestAnchorMv ≤ e'.bestAnchorMv) ∧
    (∀ o t, o.targetMhz ≠ t →
      frontierEntryForTarget (obs ++ [o]) t = frontierEntryForTarget obs t ∧
      qualifiedFrontierEntryForTarget (obs ++ [o]) t =
        qualifiedFrontierEntryForTarget obs t) ∧
    ∀ later, (∀ o ∈ later, o.outcome ≠ .validated) → ∀ gpuKey,
      (∀ e' ∈ learnedFrontierForGpu (obs ++ later) gpuKey,
        ∃ e ∈ learnedFrontierForGpu obs gpuKey, e.targetMhz = e'.targetMhz ∧
          e.bestAnchorMv ≤ e'.bestAnchorMv) ∧
      ∀ e' ∈ qualifiedFrontierForGpu (obs ++ later) gpuKey,
        ∃ e ∈ qualifiedFrontierForGpu obs gpuKey, e.targetMhz = e'.targetMhz ∧
          e.bestAnchorMv ≤ e'.bestAnchorMv := by
  refine ⟨?_, ?_, ?_⟩
  · intro o ho t
    have hone : ∀ o' ∈ [o], o'.outcome ≠ .validated := by
      intro o' ho'
      rwa [List.mem_singleton.mp ho']
    exact ⟨fun e' => frontierEntryForTarget_append hone,
      fun e' => qualifiedFrontierEntryForTarget_append hone⟩
  · intro o t ht
    exact ⟨frontierEntryForTarget_append_other ht,
      qualifiedFrontierEntryForTarget_append_other ht⟩
  · intro later hlater gpuKey
    have hscoped : ∀ o ∈ onGpu later gpuKey, o.outcome ≠ .validated :=
      fun o ho => hlater o (mem_onGpu.mp ho).1
    refine ⟨?_, ?_⟩
    · intro e' he'
      have hentry := mem_learnedFrontierForGpu.mp he'
      rw [onGpu_append] at hentry
      obtain ⟨e, he, hle⟩ := frontierEntryForTarget_append hscoped hentry
      have ht := (frontierEntryForTarget_isLeast he).1
      exact ⟨e, mem_learnedFrontierForGpu.mpr (by rwa [ht]), ht, hle⟩
    · intro e' he'
      have hentry := mem_qualifiedFrontierForGpu.mp he'
      rw [onGpu_append] at hentry
      obtain ⟨e, he, hle⟩ := qualifiedFrontierEntryForTarget_append hscoped hentry
      have ht := (qualifiedFrontierEntryForTarget_isLeast he).1
      exact ⟨e, mem_qualifiedFrontierForGpu.mpr (by rwa [ht]), ht, hle⟩

end Nidavellir

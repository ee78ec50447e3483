import Nidavellir.F2Frontier

namespace Nidavellir

open Extremes

section Bracket

variable {obs : List F2Observation} {t : Nat} {e : F2FrontierEntry}

/-- The width of an entry is the distance from its anchor down to the failure it names. -/
def F2FrontierEntry.BracketsBest (e : F2FrontierEntry) : Prop :=
  ∀ b, e.firstBadMv = some b →
    b < e.bestAnchorMv ∧ e.bracketWidthMv = some (e.bestAnchorMv - b)

/-- A validated line above every failure of the target, of whatever kind, contract or cleanup. -/
def GoodLine (obs : List F2Observation) (t : Nat) (o : F2Observation) : Prop :=
  o ∈ obs ∧ o.targetMhz = t ∧ o.outcome = .validated ∧
    ∀ bad ∈ obs, bad.targetMhz = t → bad.evidenceKind ≠ .applyQualification →
      bad.outcome.isBad → bad.anchorMv < o.anchorMv

/-- Beside a failure, no good line lies below every proven anchor. -/
def GoodLinesProven (obs : List F2Observation) (t : Nat) : Prop :=
  (∃ bad ∈ obs, bad.isBadFor t) →
    ∀ o, GoodLine obs t o → ∃ v ≤ o.anchorMv, DiscoveredAt obs t v

theorem lastGoodForTarget_mem {o : F2Observation} :
    o ∈ ((obs.filter fun o => o.targetMhz == t && o.outcome.isValidated).filter fun o =>
      ((firstBadForTarget obs t).map F2Observation.anchorMv).all (· < o.anchorMv)) ↔
        GoodLine obs t o := by
  unfold GoodLine
  rw [List.mem_filter, List.mem_filter, firstBadForTarget_all_iff, Bool.and_eq_true, beq_iff_eq,
    F2ObsOutcome.isValidated_iff]
  tauto

theorem lastGoodForTarget_isLeast {best : F2Observation} (h : GoodLine obs t best) :
    ∃ lg, lastGoodForTarget obs t = some lg ∧ GoodLine obs t lg ∧
      ∀ o, GoodLine obs t o → lg.anchorMv ≤ o.anchorMv := by
  cases hlg : lastGoodForTarget obs t with
  | none =>
    have hnil := minByKey_eq_none.mp hlg
    have hmem := lastGoodForTarget_mem.mpr h
    rw [hnil] at hmem
    cases hmem
  | some lg =>
    refine ⟨lg, rfl, lastGoodForTarget_mem.mp (minByKey_mem hlg), fun o ho => ?_⟩
    exact le_of_minByKey hlg (lastGoodForTarget_mem.mpr ho)

theorem frontierEntryFromBest_bracket_iff {best bad : F2Observation}
    (hbad : firstBadForTarget obs t = some bad) (hbest : GoodLine obs t best) :
    (frontierEntryFromBest obs t best).BracketsBest ↔
      ∀ o, GoodLine obs t o → best.anchorMv ≤ o.anchorMv := by
  obtain ⟨lg, hlast, hgood, hleast⟩ := lastGoodForTarget_isLeast hbest
  have habove : ∀ o, GoodLine obs t o → bad.anchorMv < o.anchorMv := by
    intro o ho
    have hmem := List.mem_filter.mp (maxByKey_mem hbad)
    rw [F2Observation.isBadFor, Bool.and_eq_true, Bool.and_eq_true, beq_iff_eq,
      bne_iff_ne] at hmem
    exact ho.2.2.2 bad hmem.1 hmem.2.1.1 hmem.2.1.2 hmem.2.2
  have hlow := habove lg hgood
  have hhigh := habove best hbest
  have hle := hleast best hbest
  have hwidth : (frontierEntryFromBest obs t best).bracketWidthMv =
      some (lg.anchorMv - bad.anchorMv) := by
    simp only [frontierEntryFromBest, bracketForTarget, hlast, hbad, Option.map_some,
      Option.bind_eq_bind, Option.bind_some, gt_iff_lt, if_pos hlow]
  have hfirst : (frontierEntryFromBest obs t best).firstBadMv = some bad.anchorMv := by
    simp only [frontierEntryFromBest, hbad, Option.map_some]
  unfold F2FrontierEntry.BracketsBest
  rw [hwidth, hfirst]
  change (∀ b, some bad.anchorMv = some b → b < best.anchorMv ∧
    some (lg.anchorMv - bad.anchorMv) = some (best.anchorMv - b)) ↔ _
  constructor
  · intro h o ho
    obtain ⟨-, heq⟩ := h _ rfl
    have heq := Option.some.inj heq
    have hlgo := hleast o ho
    omega
  · rintro h b ⟨⟩
    have hsame := h lg hgood
    exact ⟨hhigh, congrArg some (by omega)⟩

/-- An entry brackets its own anchor just when, beside a failure, the lowest good line is no lower
than the proven ones. -/
theorem frontierEntry_brackets_iff (obs : List F2Observation) (t : Nat) (e : F2FrontierEntry)
    (h : frontierEntryForTarget obs t = some e) : e.BracketsBest ↔ GoodLinesProven obs t := by
  obtain ⟨-, hleast⟩ := frontierEntryForTarget_isLeast h
  obtain ⟨best, hmin, rfl⟩ := Option.map_eq_some_iff.mp h
  have hproven : DiscoveredAt obs t best.anchorMv :=
    discoveredAt_iff.mpr ⟨best, minByKey_mem hmin, rfl⟩
  have hbest : GoodLine obs t best := by
    have hmem := minByKey_mem hmin
    unfold discoveryFrontierCandidates at hmem
    simp only [List.mem_filter, Bool.and_eq_true, beq_iff_eq] at hmem
    obtain ⟨hmem, ⟨⟨⟨ht, hval⟩, -⟩, -⟩, -⟩ := hmem
    exact ⟨hmem, ht, F2ObsOutcome.isValidated_iff.mp hval, hproven.aboveBad⟩
  cases hbad : firstBadForTarget obs t with
  | none =>
    have hnone : obs.filter (·.isBadFor t) = [] := maxByKey_eq_none.mp hbad
    have hno : ¬ ∃ bad ∈ obs, bad.isBadFor t := by
      rintro ⟨bad, hmem, hisBad⟩
      have hfilter : bad ∈ obs.filter (·.isBadFor t) := List.mem_filter.mpr ⟨hmem, hisBad⟩
      rw [hnone] at hfilter
      cases hfilter
    refine iff_of_true ?_ fun hsome => absurd hsome hno
    intro b hb
    rw [show (frontierEntryFromBest obs t best).firstBadMv = none by
      simp only [frontierEntryFromBest, hbad, Option.map_none]] at hb
    cases hb
  | some bad =>
    have hmem := List.mem_filter.mp (maxByKey_mem hbad)
    rw [frontierEntryFromBest_bracket_iff hbad hbest]
    constructor
    · intro hall _ o ho
      exact ⟨best.anchorMv, hall o ho, hproven⟩
    · intro hall o ho
      obtain ⟨v, hv, hdiscovered⟩ := hall ⟨bad, hmem⟩ o ho
      exact le_trans (hleast.2 hdiscovered) hv

def uncontractedPass : F2Observation :=
  { discoveryObservation 1845 856 .validated with discoveryContractVersion := none }

theorem bracket_of_plain_log :
    (frontierEntryFromBest [discoveryObservation 1845 850 .unstable,
      discoveryObservation 1845 862 .validated] 1845
        (discoveryObservation 1845 862 .validated)).BracketsBest ↔
      GoodLinesProven [discoveryObservation 1845 850 .unstable,
        discoveryObservation 1845 862 .validated] 1845 :=
  frontierEntry_brackets_iff _ 1845 _ rfl

/-- The entry at 862 mV names the failure at 850 mV, and a width of 6 mV. -/
theorem bracket_of_uncontracted_pass :
    frontierEntryForTarget [discoveryObservation 1845 850 .unstable, uncontractedPass,
        discoveryObservation 1845 862 .validated] 1845 =
      some (frontierEntryFromBest [discoveryObservation 1845 850 .unstable, uncontractedPass,
        discoveryObservation 1845 862 .validated] 1845
          (discoveryObservation 1845 862 .validated)) ∧
    (frontierEntryFromBest [discoveryObservation 1845 850 .unstable, uncontractedPass,
        discoveryObservation 1845 862 .validated] 1845
          (discoveryObservation 1845 862 .validated)).firstBadMv = some 850 ∧
    (frontierEntryFromBest [discoveryObservation 1845 850 .unstable, uncontractedPass,
        discoveryObservation 1845 862 .validated] 1845
          (discoveryObservation 1845 862 .validated)).bracketWidthMv = some 6 := by
  refine ⟨rfl, rfl, rfl⟩

end Bracket

section Baseline

/-- A failure at a voltage condemns it and everything lower. -/
def isKnownBad (obs : List F2Observation) (targetMhz anchorMv : Nat) : Bool :=
  obs.any fun o => o.isBadFor targetMhz && decide (anchorMv ≤ o.anchorMv)

def F2Observation.cleanValidated (o : F2Observation) (targetMhz : Nat) : Bool :=
  o.targetMhz == targetMhz && o.outcome.isValidated && (o.resetToStockOk && o.bootFlagCleared) &&
    (!o.deviceLost && !o.unstable && !o.silentError && !o.clockDrop)

def F2Observation.onKey (o : F2Observation) (gpuKey : Option String) : Bool :=
  gpuKey.all fun key => o.gpuKey == some key

/-- The point from which the next descent of the target measures its steps. -/
def validatedDescentBaseline (obs : List F2Observation) (targetMhz : Nat)
    (gpuKey : Option String) : Option F2Observation :=
  minByKey F2Observation.anchorMv
    ((obs.filter (·.cleanValidated targetMhz)).filter (·.onKey gpuKey))

variable {obs : List F2Observation} {targetMhz anchorMv : Nat} {gpuKey : Option String}

theorem isKnownBad_eq_false_iff : isKnownBad obs targetMhz anchorMv = false ↔
    ∀ bad ∈ obs, bad.isBadFor targetMhz → bad.anchorMv < anchorMv := by
  simp only [isKnownBad, List.any_eq_false, Bool.and_eq_true, decide_eq_true_eq, not_and, not_le]

theorem lastGoodForTarget_not_isKnownBad {o : F2Observation}
    (h : lastGoodForTarget obs targetMhz = some o) :
    isKnownBad obs targetMhz o.anchorMv = false := by
  have hmem := (List.mem_filter.mp (minByKey_mem h)).2
  rw [firstBadForTarget, maxByKey_all_iff fun x y hxy hy => lt_of_le_of_lt hxy hy] at hmem
  refine isKnownBad_eq_false_iff.mpr fun bad hbad hisBad => ?_
  exact hmem bad (List.mem_filter.mpr ⟨hbad, hisBad⟩)

/-- The baseline of the log is never a point that its GPU is known to fail. -/
def BaselineNotKnownBad (obs : List F2Observation) (targetMhz : Nat) (gpuKey : Option String) :
    Prop :=
  ∀ o, validatedDescentBaseline obs targetMhz gpuKey = some o →
    isKnownBad (obs.filter (·.onKey gpuKey)) targetMhz o.anchorMv = false

def ValidatedAboveFailures (obs : List F2Observation) (targetMhz : Nat)
    (gpuKey : Option String) : Prop :=
  ∀ good ∈ obs, good.cleanValidated targetMhz → good.onKey gpuKey →
    ∀ bad ∈ obs, bad.isBadFor targetMhz → bad.onKey gpuKey → bad.anchorMv < good.anchorMv

theorem isKnownBad_onKey_eq_false_iff :
    isKnownBad (obs.filter (·.onKey gpuKey)) targetMhz anchorMv = false ↔
      ∀ bad ∈ obs, bad.isBadFor targetMhz → bad.onKey gpuKey → bad.anchorMv < anchorMv := by
  rw [isKnownBad_eq_false_iff]
  constructor
  · intro h bad hbad hisBad hkey
    exact h bad (List.mem_filter.mpr ⟨hbad, hkey⟩) hisBad
  · intro h bad hbad hisBad
    obtain ⟨hbad, hkey⟩ := List.mem_filter.mp hbad
    exact h bad hbad hisBad hkey

theorem mem_baselines_iff {o : F2Observation} :
    o ∈ (obs.filter (·.cleanValidated targetMhz)).filter (·.onKey gpuKey) ↔
      o ∈ obs ∧ o.cleanValidated targetMhz ∧ o.onKey gpuKey := by
  rw [List.mem_filter, List.mem_filter, and_assoc]

/-- The deepest clean reading escapes every failure just when all the clean readings do. -/
theorem baselineNotKnownBad_iff (obs : List F2Observation) (targetMhz : Nat)
    (gpuKey : Option String) :
    BaselineNotKnownBad obs targetMhz gpuKey ↔ ValidatedAboveFailures obs targetMhz gpuKey := by
  constructor
  · intro h good hgood hclean hkey bad hbad hisBad hbadKey
    have hmem := mem_baselines_iff.mpr ⟨hgood, hclean, hkey⟩
    cases hmin : validatedDescentBaseline obs targetMhz gpuKey with
    | none =>
      rw [minByKey_eq_none.mp hmin] at hmem
      cases hmem
    | some o =>
      have hle : o.anchorMv ≤ good.anchorMv := le_of_minByKey hmin hmem
      have hlt := isKnownBad_onKey_eq_false_iff.mp (h o hmin) bad hbad hisBad hbadKey
      omega
  · intro h o hmin
    obtain ⟨hmem, hclean, hkey⟩ := mem_baselines_iff.mp (minByKey_mem hmin)
    exact isKnownBad_onKey_eq_false_iff.mpr (h o hmem hclean hkey)

def withdrawnLog : List F2Observation :=
  [discoveryObservation 1845 862 .validated, discoveryObservation 1845 862 .unstable,
    discoveryObservation 1845 870 .unstable]

/-- It is still the baseline, although it is no longer the last good point. -/
theorem baseline_known_bad :
    ¬ BaselineNotKnownBad withdrawnLog 1845 (some "RTX 3060 Ti") ∧
      lastGoodForTarget withdrawnLog 1845 = none := by
  refine ⟨fun h => ?_, rfl⟩
  have hbad := h (discoveryObservation 1845 862 .validated) rfl
  exact absurd hbad (by decide)

end Baseline

end Nidavellir

import Mathlib.Data.Set.Card
import Nidavellir.VerticalRepair

namespace Nidavellir

/-- The voltage of a real bin of the curve. -/
def IsBin (saneCurve : List VfBin) (mv : Nat) : Prop := ∃ bin ∈ saneCurve, bin.mv = mv

/-- The `step`-th of the distinct bins above the failed voltage. -/
structure IsRepairStep (saneCurve : List VfBin) (failedMv step mv : Nat) : Prop where
  real : IsBin saneCurve mv
  above : failedMv < mv
  rank : {v | IsBin saneCurve v ∧ failedMv < v ∧ v < mv}.ncard + 1 = step

/-- The bin a repair climbs to: the least open one at or above its step. -/
def IsRepairBin (saneCurve : List VfBin) (record : SafeLoopRecord) (condemned : CondemnedPairs)
    (targetMhz failedMv step nextMv : Nat) : Prop :=
  ∃ start, IsRepairStep saneCurve failedMv step start ∧
    IsLeast {v | IsBin saneCurve v ∧ start ≤ v ∧
      fieldPairBlacklisted record targetMhz v = false ∧
      condemned.refuses targetMhz v = false} nextMv

/-- The positive powers that the log holds of the pair: a confirmed p99, a recorded peak. -/
def trustedPowers (watts : Float32 → Option ℚ) (observations : List F2Observation)
    (gpuKey : String) (targetMhz mv : Nat) : Set ℚ :=
  {w | 0 < w ∧ ∃ o ∈ observations, o.gpuKey = some gpuKey ∧ o.targetMhz = targetMhz ∧
    o.anchorMv = mv ∧ (o.powerP99Confirmed = true ∧ o.powerP99W.bind watts = some w ∨
      ∃ peak, o.maxWatts = some peak ∧ (peak : ℚ) = w)}

section Step

variable {saneCurve : List VfBin} {failedMv step mv : Nat}

theorem f2RepairBinAbove_eq_some_iff (hstep : 1 ≤ step) :
    f2RepairBinAbove saneCurve failedMv step = some mv ↔
      IsRepairStep saneCurve failedMv step mv := by
  obtain ⟨bins, hbins⟩ : ∃ bins, Extremes.dedup
    (((saneCurve.map VfBin.mv).filter (failedMv < ·)).insertionSort (· ≤ ·)) = bins := ⟨_, rfl⟩
  have hsorted : bins.Pairwise (· < ·) :=
    hbins ▸ Extremes.pairwise_lt_dedup (List.pairwise_insertionSort (α := Nat) (· ≤ ·) _)
  have hmem : ∀ v, v ∈ bins ↔ IsBin saneCurve v ∧ failedMv < v := by
    intro v
    rw [← hbins, mem_sortedBins, List.mem_filter, List.mem_map, decide_eq_true_eq]
    rfl
  have hbelow : {v | IsBin saneCurve v ∧ failedMv < v ∧ v < mv} =
      ↑(bins.filter (· < mv)).toFinset := by
    ext v
    rw [Finset.mem_coe, List.mem_toFinset, List.mem_filter, hmem, decide_eq_true_eq]
    exact and_assoc.symm
  have hcard : {v | IsBin saneCurve v ∧ failedMv < v ∧ v < mv}.ncard =
      (bins.filter (· < mv)).length := by
    rw [hbelow, Set.ncard_coe_finset, List.toFinset_card_of_nodup]
    exact (hsorted.imp ne_of_lt).filter _
  unfold f2RepairBinAbove
  rw [hbins, Extremes.getElem?_eq_some_iff_filter hsorted, hmem, ← hcard]
  constructor
  · rintro ⟨⟨hreal, habove⟩, hrank⟩
    exact ⟨hreal, habove, by omega⟩
  · rintro ⟨hreal, habove, hrank⟩
    exact ⟨⟨hreal, habove⟩, by omega⟩

theorem one_le_repairStepBins (stopReason : String) : 1 ≤ repairStepBins stopReason := by
  unfold repairStepBins
  split <;> omega

end Step

section Climb

variable {saneCurve : List VfBin} {condemned : Nat → Bool} {start next : Nat}

theorem f2ClimbPastCondemned_eq_some_iff (hstart : IsBin saneCurve start) :
    f2ClimbPastCondemned saneCurve condemned start = some next ↔
      IsLeast {v | IsBin saneCurve v ∧ start ≤ v ∧ condemned v = false} next := by
  have hleast : ∀ next, f2ClimbPastCondemned saneCurve condemned start = some next →
      IsLeast {v | IsBin saneCurve v ∧ start ≤ v ∧ condemned v = false} next := by
    intro next h
    obtain ⟨hfree, hle, hnext, hbelow⟩ := f2ClimbPastCondemned_some h
    have hreal : IsBin saneCurve next := by
      rcases hnext with rfl | hbin
      · exact hstart
      · exact hbin
    refine ⟨⟨hreal, hle, hfree⟩, ?_⟩
    rintro v ⟨⟨bin, hbin, rfl⟩, hge, hopen⟩
    by_contra hlt
    have hcondemned := hbelow bin hbin hge (not_le.mp hlt)
    rw [hopen] at hcondemned
    cases hcondemned
  constructor
  · exact hleast next
  · intro h
    cases hclimb : f2ClimbPastCondemned saneCurve condemned start with
    | none =>
      obtain ⟨⟨⟨bin, hbin, rfl⟩, hge, hopen⟩, -⟩ := h
      have hcondemned := f2ClimbPastCondemned_none hclimb bin hbin hge
      rw [hopen] at hcondemned
      cases hcondemned
    | some other => rw [(hleast other hclimb).unique h]

end Climb

section Measured

variable {watts : Float32 → Option ℚ} {observations : List F2Observation} {gpuKey : String}
  {targetMhz mv : Nat}

theorem peakWatts_eq_some_iff {o : F2Observation} {w : ℚ} :
    o.peakWatts = some w ↔ (∃ peak, o.maxWatts = some peak ∧ (peak : ℚ) = w) ∧ 0 < w := by
  unfold F2Observation.peakWatts
  cases o.maxWatts with
  | none => simp
  | some peak => simp [Option.filter_eq_some_iff]

/-- The readings that `measured_power_at_pair` folds. -/
theorem mem_readings {w : ℚ} :
    (w ∈ (observations.filter fun o => o.isAt targetMhz mv gpuKey).flatMap fun o =>
      ((o.p99Watts watts).filter fun _ => o.powerP99Confirmed).toList ++ o.peakWatts.toList) ↔
      w ∈ trustedPowers watts observations gpuKey targetMhz mv := by
  simp only [List.mem_flatMap, List.mem_filter, List.mem_append, Option.mem_toList,
    F2Observation.isAt, F2Observation.p99Watts, peakWatts_eq_some_iff, trustedPowers,
    Set.mem_ofPred_eq, Bool.and_eq_true, beq_iff_eq, Option.filter_eq_some_iff,
    decide_eq_true_eq]
  constructor
  · rintro ⟨o, ⟨ho, ⟨htarget, hanchor⟩, hkey⟩, ⟨⟨hp99, hpos⟩, hconfirmed⟩ | ⟨hpeak, hpos⟩⟩
    · exact ⟨hpos, o, ho, hkey, htarget, hanchor, .inl ⟨hconfirmed, hp99⟩⟩
    · exact ⟨hpos, o, ho, hkey, htarget, hanchor, .inr hpeak⟩
  · rintro ⟨hpos, o, ho, hkey, htarget, hanchor, ⟨hconfirmed, hp99⟩ | hpeak⟩
    · exact ⟨o, ⟨ho, ⟨htarget, hanchor⟩, hkey⟩, .inl ⟨⟨hp99, hpos⟩, hconfirmed⟩⟩
    · exact ⟨o, ⟨ho, ⟨htarget, hanchor⟩, hkey⟩, .inr ⟨hpeak, hpos⟩⟩

theorem measuredPowerAtPair_eq_some_iff {w : ℚ} :
    measuredPowerAtPair watts observations gpuKey targetMhz mv = some w ↔
      IsGreatest (trustedPowers watts observations gpuKey targetMhz mv) w := by
  unfold measuredPowerAtPair
  rw [List.max?_eq_some_iff, mem_readings]
  constructor
  · rintro ⟨hmem, hle⟩
    exact ⟨hmem, fun v hv => hle v (mem_readings.mpr hv)⟩
  · rintro ⟨hmem, hle⟩
    exact ⟨hmem, fun v hv => hle (mem_readings.mp hv)⟩

theorem measuredPowerAtPair_eq_none_iff :
    measuredPowerAtPair watts observations gpuKey targetMhz mv = none ↔
      trustedPowers watts observations gpuKey targetMhz mv = ∅ := by
  unfold measuredPowerAtPair
  rw [List.max?_eq_none_iff, List.eq_nil_iff_forall_not_mem, Set.eq_empty_iff_forall_notMem]
  exact forall_congr' fun w => not_congr mem_readings

/-- The worst measurement: none of an empty set, else the greatest. -/
def IsWorst (powers : Set ℚ) (measured : Option ℚ) : Prop :=
  measured.elim (powers = ∅) (IsGreatest powers)

theorem measuredPowerAtPair_isWorst :
    IsWorst (trustedPowers watts observations gpuKey targetMhz mv)
      (measuredPowerAtPair watts observations gpuKey targetMhz mv) := by
  cases hmeasured : measuredPowerAtPair watts observations gpuKey targetMhz mv with
  | none => exact measuredPowerAtPair_eq_none_iff.mp hmeasured
  | some w => exact measuredPowerAtPair_eq_some_iff.mp hmeasured

theorem IsWorst.unique {powers : Set ℚ} {measured measured' : Option ℚ}
    (h : IsWorst powers measured) (h' : IsWorst powers measured') : measured = measured' := by
  cases measured with
  | none =>
    cases measured' with
    | none => rfl
    | some w =>
      have hempty : powers = ∅ := h
      have hmem : w ∈ powers := h'.1
      rw [hempty] at hmem
      cases hmem
  | some w =>
    cases measured' with
    | none =>
      have hempty : powers = ∅ := h'
      have hmem : w ∈ powers := h.1
      rw [hempty] at hmem
      cases hmem
    | some w' => exact congrArg some (IsGreatest.unique h h')

/-- A positive ceiling is exceeded by the worst measurement just where some power exceeds it. -/
theorem IsWorst.exceeds_iff {powers : Set ℚ} {measured : Option ℚ} {ceiling : ℚ}
    (h : IsWorst powers measured) (hceiling : 0 < ceiling) :
    ceiling < measured.getD 0 ↔ ∃ w ∈ powers, ceiling < w := by
  cases measured with
  | none =>
    have hempty : powers = ∅ := h
    simp [hempty, hceiling.le]
  | some w =>
    have hgreatest : IsGreatest powers w := h
    rw [Option.getD_some]
    constructor
    · intro hlt
      exact ⟨w, hgreatest.1, hlt⟩
    · rintro ⟨v, hv, hlt⟩
      exact hlt.trans_le (hgreatest.2 hv)

end Measured

section Plan

variable {watts : Float32 → Option ℚ} {saneCurve : List VfBin} {record : SafeLoopRecord}
  {condemned : CondemnedPairs} {observations : List F2Observation} {gpuKey stopReason : String}
  {targetMhz failedMv profileMaxMv nextMv : Nat} {powerLimitW : ℚ} {measured : Option ℚ}

theorem isRepairBin_iff {step : Nat} (hstep : 1 ≤ step) :
    IsRepairBin saneCurve record condemned targetMhz failedMv step nextMv ↔
      ∃ start, f2RepairBinAbove saneCurve failedMv step = some start ∧
        f2ClimbPastCondemned saneCurve (pairCondemned record condemned targetMhz) start =
          some nextMv := by
  have hopen : ∀ v, pairCondemned record condemned targetMhz v = false ↔
      fieldPairBlacklisted record targetMhz v = false ∧ condemned.refuses targetMhz v = false :=
    fun v => Bool.or_eq_false_iff
  constructor
  · rintro ⟨start, hfirst, hleast⟩
    refine ⟨start, (f2RepairBinAbove_eq_some_iff hstep).mpr hfirst, ?_⟩
    rw [f2ClimbPastCondemned_eq_some_iff hfirst.real]
    simpa only [hopen] using hleast
  · rintro ⟨start, hfirst, hclimb⟩
    have hrepair := (f2RepairBinAbove_eq_some_iff hstep).mp hfirst
    rw [f2ClimbPastCondemned_eq_some_iff hrepair.real] at hclimb
    exact ⟨start, hrepair, by simpa only [hopen] using hclimb⟩

theorem offCapCeilingW_pos (h : 0 < powerLimitW) : 0 < offCapCeilingW powerLimitW := by
  unfold offCapCeilingW powerHeadroomFrac
  linarith

/-- The power test of the planner, over all trusted powers of the two pairs. -/
theorem exceeds_iff :
    (0 < powerLimitW ∧ offCapCeilingW powerLimitW <
      max ((measuredPowerAtPair watts observations gpuKey targetMhz nextMv).getD 0)
        ((measuredPowerAtPair watts observations gpuKey targetMhz failedMv).getD 0)) ↔
      0 < powerLimitW ∧ ∃ w ∈ trustedPowers watts observations gpuKey targetMhz nextMv ∪
        trustedPowers watts observations gpuKey targetMhz failedMv,
          offCapCeilingW powerLimitW < w := by
  refine and_congr_right fun hlimit => ?_
  have hceiling := offCapCeilingW_pos hlimit
  rw [lt_max_iff, measuredPowerAtPair_isWorst.exceeds_iff hceiling,
    measuredPowerAtPair_isWorst.exceeds_iff hceiling]
  simp only [Set.mem_union, or_and_right, exists_or]

/-- What the planner answers for the bin it climbed to. -/
def repairAnswer (watts : Float32 → Option ℚ) (observations : List F2Observation)
    (gpuKey : String) (targetMhz failedMv : Nat) (powerLimitW : ℚ) (profileMaxMv nextMv : Nat) :
    Except RepairLimit (Nat × Option ℚ) :=
  let measured := measuredPowerAtPair watts observations gpuKey targetMhz nextMv
  let lowerBound := max (measured.getD 0)
    ((measuredPowerAtPair watts observations gpuKey targetMhz failedMv).getD 0)
  if profileMaxMv < nextMv then .error (.profileCeiling profileMaxMv nextMv)
  else if 0 < powerLimitW ∧ offCapCeilingW powerLimitW < lowerBound then
    .error (.powerCeiling lowerBound (offCapCeilingW powerLimitW))
  else .ok (nextMv, measured)

theorem f2PlanVerticalRepair_answer (h : IsRepairBin saneCurve record condemned targetMhz failedMv
      (repairStepBins stopReason) nextMv) :
    f2PlanVerticalRepair watts saneCurve record condemned observations gpuKey targetMhz failedMv
        stopReason powerLimitW profileMaxMv =
      repairAnswer watts observations gpuKey targetMhz failedMv powerLimitW profileMaxMv
        nextMv := by
  obtain ⟨start, hstart, hclimb⟩ := (isRepairBin_iff (one_le_repairStepBins stopReason)).mp h
  unfold f2PlanVerticalRepair
  simp only [hstart, hclimb]
  rfl

theorem f2PlanVerticalRepair_gives_up (h : ¬ ∃ v, IsRepairBin saneCurve record condemned targetMhz
      failedMv (repairStepBins stopReason) v) :
    ∃ limit, f2PlanVerticalRepair watts saneCurve record condemned observations gpuKey targetMhz
      failedMv stopReason powerLimitW profileMaxMv = .error limit := by
  unfold f2PlanVerticalRepair
  split
  next => exact ⟨_, rfl⟩
  next start hstart =>
    split
    next => exact ⟨_, rfl⟩
    next v hclimb =>
      exact absurd ⟨v, (isRepairBin_iff (one_le_repairStepBins stopReason)).mpr
        ⟨start, hstart, hclimb⟩⟩ h

theorem IsRepairBin.unique {step v v' : Nat}
    (h : IsRepairBin saneCurve record condemned targetMhz failedMv step v)
    (h' : IsRepairBin saneCurve record condemned targetMhz failedMv step v') : v = v' := by
  obtain ⟨start, hstart, hleast⟩ := h
  obtain ⟨start', hstart', hleast'⟩ := h'
  have hstep : 1 ≤ step := by
    have := hstart.rank
    omega
  have hsame := (f2RepairBinAbove_eq_some_iff hstep).mpr hstart
  rw [(f2RepairBinAbove_eq_some_iff hstep).mpr hstart'] at hsame
  obtain rfl := Option.some.inj hsame
  exact hleast.unique hleast'

theorem repairAnswer_eq_ok_iff {next : Nat} :
    repairAnswer watts observations gpuKey targetMhz failedMv powerLimitW profileMaxMv nextMv =
        .ok (next, measured) ↔
      nextMv = next ∧ nextMv ≤ profileMaxMv ∧
        IsWorst (trustedPowers watts observations gpuKey targetMhz nextMv) measured ∧
        (0 < powerLimitW → ∀ w ∈ trustedPowers watts observations gpuKey targetMhz nextMv ∪
          trustedPowers watts observations gpuKey targetMhz failedMv,
            w ≤ offCapCeilingW powerLimitW) := by
  have hpower : (0 < powerLimitW → ∀ w ∈ trustedPowers watts observations gpuKey targetMhz nextMv ∪
      trustedPowers watts observations gpuKey targetMhz failedMv,
        w ≤ offCapCeilingW powerLimitW) ↔
      ¬ (0 < powerLimitW ∧ ∃ w ∈ trustedPowers watts observations gpuKey targetMhz nextMv ∪
        trustedPowers watts observations gpuKey targetMhz failedMv,
          offCapCeilingW powerLimitW < w) := by
    push Not
    rfl
  have hworst : IsWorst (trustedPowers watts observations gpuKey targetMhz nextMv) measured ↔
      measuredPowerAtPair watts observations gpuKey targetMhz nextMv = measured :=
    ⟨fun h => measuredPowerAtPair_isWorst.unique h, fun h => h ▸ measuredPowerAtPair_isWorst⟩
  rw [hpower, hworst, ← exceeds_iff]
  unfold repairAnswer
  dsimp only
  split
  next hmax =>
    refine iff_of_false (by simp) ?_
    rintro ⟨-, hle, -⟩
    omega
  next hmax =>
    split
    next hover => exact iff_of_false (by simp) fun h => h.2.2.2 hover
    next hover =>
      rw [Except.ok.injEq, Prod.mk.injEq]
      constructor
      · rintro ⟨hnext, hmeasured⟩
        exact ⟨hnext, not_lt.mp hmax, hmeasured, hover⟩
      · rintro ⟨hnext, -, hmeasured, -⟩
        exact ⟨hnext, hmeasured⟩

theorem f2PlanVerticalRepair_eq_ok_iff :
    f2PlanVerticalRepair watts saneCurve record condemned observations gpuKey targetMhz failedMv
        stopReason powerLimitW profileMaxMv = .ok (nextMv, measured) ↔
      IsRepairBin saneCurve record condemned targetMhz failedMv (repairStepBins stopReason)
          nextMv ∧
        nextMv ≤ profileMaxMv ∧
        IsWorst (trustedPowers watts observations gpuKey targetMhz nextMv) measured ∧
        (0 < powerLimitW → ∀ w ∈ trustedPowers watts observations gpuKey targetMhz nextMv ∪
          trustedPowers watts observations gpuKey targetMhz failedMv,
            w ≤ offCapCeilingW powerLimitW) := by
  by_cases hbin : ∃ v, IsRepairBin saneCurve record condemned targetMhz failedMv
      (repairStepBins stopReason) v
  · obtain ⟨v, hv⟩ := hbin
    rw [f2PlanVerticalRepair_answer hv, repairAnswer_eq_ok_iff]
    constructor
    · rintro ⟨rfl, hrest⟩
      exact ⟨hv, hrest⟩
    · rintro ⟨hnext, hrest⟩
      obtain rfl := hnext.unique hv
      exact ⟨rfl, hrest⟩
  · obtain ⟨limit, hlimit⟩ : ∃ limit, f2PlanVerticalRepair watts saneCurve record condemned
        observations gpuKey targetMhz failedMv stopReason powerLimitW profileMaxMv =
          .error limit := f2PlanVerticalRepair_gives_up hbin
    rw [hlimit]
    refine iff_of_false (by simp) ?_
    rintro ⟨hnext, -⟩
    exact hbin ⟨_, hnext⟩

/-- The repair planner is exact: it plans the least open bin from its step on, with the worst
measurement there, and gives up just where there is none, where it lies above the profile's
ceiling, or where a power measured there or at the failed bin exceeds the publication ceiling. -/
theorem f2PlanVerticalRepair_exact (watts : Float32 → Option ℚ) (saneCurve : List VfBin)
    (record : SafeLoopRecord) (condemned : CondemnedPairs) (observations : List F2Observation)
    (gpuKey : String) (targetMhz failedMv : Nat) (stopReason : String) (powerLimitW : ℚ)
    (profileMaxMv : Nat) :
    (∀ nextMv measured, f2PlanVerticalRepair watts saneCurve record condemned observations gpuKey
        targetMhz failedMv stopReason powerLimitW profileMaxMv = .ok (nextMv, measured) ↔
      IsRepairBin saneCurve record condemned targetMhz failedMv (repairStepBins stopReason)
          nextMv ∧
        nextMv ≤ profileMaxMv ∧
        IsWorst (trustedPowers watts observations gpuKey targetMhz nextMv) measured ∧
        (0 < powerLimitW → ∀ w ∈ trustedPowers watts observations gpuKey targetMhz nextMv ∪
          trustedPowers watts observations gpuKey targetMhz failedMv,
            w ≤ offCapCeilingW powerLimitW)) ∧
    ((∃ limit, f2PlanVerticalRepair watts saneCurve record condemned observations gpuKey
        targetMhz failedMv stopReason powerLimitW profileMaxMv = .error limit) ↔
      (¬ ∃ v, IsRepairBin saneCurve record condemned targetMhz failedMv
        (repairStepBins stopReason) v) ∨
      ∃ v, IsRepairBin saneCurve record condemned targetMhz failedMv
          (repairStepBins stopReason) v ∧
        (profileMaxMv < v ∨ 0 < powerLimitW ∧
          ∃ w ∈ trustedPowers watts observations gpuKey targetMhz v ∪
            trustedPowers watts observations gpuKey targetMhz failedMv,
              offCapCeilingW powerLimitW < w)) := by
  refine ⟨fun _ _ => f2PlanVerticalRepair_eq_ok_iff, ?_⟩
  have herror : ∀ plan : Except RepairLimit (Nat × Option ℚ),
      (∃ limit, plan = .error limit) ↔ ¬ ∃ nextMv measured, plan = .ok (nextMv, measured) := by
    rintro (limit | ⟨nextMv, measured⟩)
    · simp
    · simp
  simp only [herror, f2PlanVerticalRepair_eq_ok_iff]
  constructor
  · intro hnone
    by_contra hopen
    push Not at hopen
    obtain ⟨⟨v, hv⟩, hall⟩ := hopen
    obtain ⟨hmax, hpower⟩ := hall v hv
    exact hnone ⟨v, _, hv, hmax, measuredPowerAtPair_isWorst, hpower⟩
  · rintro hgives ⟨nextMv, measured, hnext, hmax, -, hpower⟩
    rcases hgives with hnone | ⟨v, hv, hbad⟩
    · exact hnone ⟨nextMv, hnext⟩
    · obtain rfl := hv.unique hnext
      rcases hbad with habove | ⟨hlimit, w, hw, hover⟩
      · omega
      · exact absurd (hpower hlimit w hw) (not_le.mpr hover)

end Plan

end Nidavellir

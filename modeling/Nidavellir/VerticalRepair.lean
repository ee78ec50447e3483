import Nidavellir.ForgeSynthesis
import Nidavellir.ApplyEvidence
import Nidavellir.Condemnation
import Nidavellir.FieldGuard
import Nidavellir.Lib.Text
import Mathlib.Tactic.Linarith

namespace Nidavellir

/-- What an outcome text holds once it is lower case. -/
def mentions (reason : String) (needles : List String) : Bool :=
  needles.any fun needle => Text.contains (Text.toAsciiLowercase reason.toList) needle.toList

def f2NextBinAbove (saneCurve : List VfBin) (mv : Nat) : Option Nat :=
  ((saneCurve.map VfBin.mv).filter (mv < ·)).min?

/-- A driver reset puts the boundary far above the failed bin, a silent error close to it. -/
def repairStepBins (stopReason : String) : Nat :=
  if mentions stopReason ["tdr", "device", "crash", "wedge"] then 2 else 1

/-- The `step`-th of the distinct bins above the failed voltage. -/
def f2RepairBinAbove (saneCurve : List VfBin) (failedMv step : Nat) : Option Nat :=
  (Extremes.dedup (((saneCurve.map VfBin.mv).filter (failedMv < ·)).insertionSort (· ≤ ·)))[
    step - 1]?

/-- Where a clock has no further bin to try. -/
inductive RepairLimit
  | noBinAbove (failedMv : Nat)
  | allCondemned (failedMv : Nat)
  | profileCeiling (maxMv nextMv : Nat)
  | powerCeiling (lowerBoundW ceilingW : ℚ)

theorem f2NextBinAbove_spec {saneCurve : List VfBin} {mv next : Nat}
    (h : f2NextBinAbove saneCurve mv = some next) :
    (∃ bin ∈ saneCurve, bin.mv = next) ∧ mv < next ∧
      ∀ bin ∈ saneCurve, mv < bin.mv → next ≤ bin.mv := by
  obtain ⟨hmem, hleast⟩ := List.min?_eq_some_iff.mp h
  rw [List.mem_filter, List.mem_map, decide_eq_true_eq] at hmem
  refine ⟨hmem.1, hmem.2, fun bin hbin hlt => hleast _ ?_⟩
  exact List.mem_filter.mpr ⟨List.mem_map_of_mem hbin, by simpa using hlt⟩

theorem f2NextBinAbove_eq_none {saneCurve : List VfBin} {mv : Nat} :
    f2NextBinAbove saneCurve mv = none ↔ ∀ bin ∈ saneCurve, bin.mv ≤ mv := by
  rw [f2NextBinAbove, List.min?_eq_none_iff, List.filter_eq_nil_iff]
  simp only [List.forall_mem_map, decide_eq_true_eq, not_lt]

/-- How many entries of the curve lie above a voltage. -/
def binsAbove (saneCurve : List VfBin) (mv : Nat) : Nat :=
  (saneCurve.filter fun bin => mv < bin.mv).length

theorem binsAbove_lt {saneCurve : List VfBin} {mv next : Nat}
    (h : f2NextBinAbove saneCurve mv = some next) :
    binsAbove saneCurve next < binsAbove saneCurve mv := by
  obtain ⟨⟨bin, hbin, rfl⟩, hlt, -⟩ := f2NextBinAbove_spec h
  have hsub : (saneCurve.filter fun b => bin.mv < b.mv) =
      (saneCurve.filter fun b => mv < b.mv).filter fun b => bin.mv < b.mv := by
    rw [List.filter_filter]
    refine List.filter_congr fun b _ => ?_
    by_cases hb : bin.mv < b.mv
    · simp [hb, hlt.trans hb]
    · simp [hb]
  rw [binsAbove, binsAbove, hsub]
  refine List.length_filter_lt_length_iff_exists.mpr ⟨bin, ?_, by simp⟩
  exact List.mem_filter.mpr ⟨hbin, by simpa using hlt⟩

/-- Climbs past the bins that a real failure condemned. -/
def f2ClimbPastCondemned (saneCurve : List VfBin) (condemned : Nat → Bool) (nextMv : Nat) :
    Option Nat :=
  if condemned nextMv then
    match h : f2NextBinAbove saneCurve nextMv with
    | none => none
    | some mv =>
      have := binsAbove_lt h
      f2ClimbPastCondemned saneCurve condemned mv
  else some nextMv
termination_by binsAbove saneCurve nextMv

/-- The field record or the ledger knows a real failure that covers the pair. -/
def pairCondemned (record : SafeLoopRecord) (condemned : CondemnedPairs)
    (targetMhz mv : Nat) : Bool :=
  fieldPairBlacklisted record targetMhz mv || condemned.refuses targetMhz mv

def f2PlanVerticalRepair (watts : Float32 → Option ℚ) (saneCurve : List VfBin)
    (record : SafeLoopRecord) (condemned : CondemnedPairs) (observations : List F2Observation)
    (gpuKey : String) (targetMhz failedMv : Nat) (stopReason : String) (powerLimitW : ℚ)
    (profileMaxMv : Nat) : Except RepairLimit (Nat × Option ℚ) :=
  match f2RepairBinAbove saneCurve failedMv (repairStepBins stopReason) with
  | none => .error (.noBinAbove failedMv)
  | some start =>
    match f2ClimbPastCondemned saneCurve (pairCondemned record condemned targetMhz) start with
    | none => .error (.allCondemned failedMv)
    | some nextMv =>
      if profileMaxMv < nextMv then .error (.profileCeiling profileMaxMv nextMv)
      else
        let measuredAtNext := measuredPowerAtPair watts observations gpuKey targetMhz nextMv
        let measuredAtFailed := measuredPowerAtPair watts observations gpuKey targetMhz failedMv
        let lowerBound := max (measuredAtNext.getD 0) (measuredAtFailed.getD 0)
        if 0 < powerLimitW ∧ offCapCeilingW powerLimitW < lowerBound then
          .error (.powerCeiling lowerBound (offCapCeilingW powerLimitW))
        else .ok (nextMv, measuredAtNext)

def f2GateFailureSupportsVerticalRepair (stopReason : String) : Bool :=
  mentions stopReason ["silenterror", "unstable", "clockdrop"]

def f2GateFailureIsQuarantinable (stopReason : String) : Bool :=
  mentions stopReason ["silenterror"]

section RepairBin

variable {saneCurve : List VfBin} {failedMv step mv : Nat}

theorem mem_sortedBins {l : List Nat} :
    mv ∈ Extremes.dedup (l.insertionSort (· ≤ ·)) ↔ mv ∈ l := by
  rw [Extremes.mem_dedup, List.mem_insertionSort]

theorem f2RepairBinAbove_mem (h : f2RepairBinAbove saneCurve failedMv step = some mv) :
    (∃ bin ∈ saneCurve, bin.mv = mv) ∧ failedMv < mv := by
  have hmem := mem_sortedBins.mp (List.mem_of_getElem? h)
  rw [List.mem_filter, List.mem_map, decide_eq_true_eq] at hmem
  exact hmem

/-- A step of one bin leads to the lowest bin above the failed voltage. -/
theorem f2RepairBinAbove_one :
    f2RepairBinAbove saneCurve failedMv 1 = f2NextBinAbove saneCurve failedMv := by
  have hhead : ∀ l : List Nat, l.Pairwise (· ≤ ·) → (Extremes.dedup l)[0]? = l.min? := by
    intro l hsorted
    cases l with
    | nil => rfl
    | cons a l =>
      have hfirst : (Extremes.dedup (a :: l))[0]? = some a := Extremes.getElem?_zero_dedup
      rw [hfirst]
      refine (List.min?_eq_some_iff.mpr ⟨List.mem_cons_self, fun b hb => ?_⟩).symm
      rcases List.mem_cons.mp hb with rfl | hb
      · exact le_rfl
      · exact List.rel_of_pairwise_cons hsorted hb
  have hmin : ∀ l : List Nat, (l.insertionSort (· ≤ ·)).min? = l.min? := by
    intro l
    cases h : l.min? with
    | none => simp [List.min?_eq_none_iff.mp h]
    | some a =>
      obtain ⟨ha, hle⟩ := List.min?_eq_some_iff.mp h
      refine List.min?_eq_some_iff.mpr ⟨(List.mem_insertionSort _).mpr ha, fun b hb => ?_⟩
      exact hle b ((List.mem_insertionSort _).mp hb)
  have hsorted := List.pairwise_insertionSort (α := Nat) (· ≤ ·)
    ((saneCurve.map VfBin.mv).filter (failedMv < ·))
  exact (hhead _ hsorted).trans (hmin _)

end RepairBin

section Climb

variable {saneCurve : List VfBin} {condemned : Nat → Bool} {start next : Nat}

theorem f2ClimbPastCondemned_some
    (h : f2ClimbPastCondemned saneCurve condemned start = some next) :
    condemned next = false ∧ start ≤ next ∧
      (next = start ∨ ∃ bin ∈ saneCurve, bin.mv = next) ∧
      ∀ bin ∈ saneCurve, start ≤ bin.mv → bin.mv < next → condemned bin.mv = true := by
  fun_induction f2ClimbPastCondemned saneCurve condemned start with
  | case1 mv hmv hnone => simp at h
  | case2 mv hmv above habove _ ih =>
    obtain ⟨hmem, hlt, hleast⟩ := f2NextBinAbove_spec habove
    obtain ⟨hfree, hle, hnext, hbelow⟩ := ih h
    refine ⟨hfree, hlt.le.trans hle, ?_, fun bin hbin hge hbelowNext => ?_⟩
    · rcases hnext with rfl | hbin
      · exact .inr hmem
      · exact .inr hbin
    · rcases Nat.eq_or_lt_of_le hge with heq | hgt
      · rw [← heq]
        exact hmv
      · exact hbelow bin hbin (hleast bin hbin hgt) hbelowNext
  | case3 mv hmv =>
    obtain rfl := Option.some.inj h
    refine ⟨by simpa using hmv, le_rfl, .inl rfl, fun bin _ hge hlt => ?_⟩
    omega

theorem f2ClimbPastCondemned_none
    (h : f2ClimbPastCondemned saneCurve condemned start = none) :
    ∀ bin ∈ saneCurve, start ≤ bin.mv → condemned bin.mv = true := by
  fun_induction f2ClimbPastCondemned saneCurve condemned start with
  | case1 mv hmv hnone =>
    intro bin hbin hge
    have hle := f2NextBinAbove_eq_none.mp hnone bin hbin
    obtain rfl : mv = bin.mv := by omega
    exact hmv
  | case2 mv hmv above habove _ ih =>
    intro bin hbin hge
    obtain ⟨-, -, hleast⟩ := f2NextBinAbove_spec habove
    rcases Nat.eq_or_lt_of_le hge with heq | hgt
    · rw [← heq]
      exact hmv
    · exact ih h bin hbin (hleast bin hbin hgt)
  | case3 mv hmv => simp at h

end Climb

section Plan

variable {watts : Float32 → Option ℚ} {saneCurve : List VfBin} {record : SafeLoopRecord}
  {condemned : CondemnedPairs} {observations : List F2Observation} {gpuKey stopReason : String}
  {targetMhz failedMv profileMaxMv nextMv : Nat} {powerLimitW : ℚ} {measured : Option ℚ}

/-- A planned bin is a real one above the failure, free of condemnation and within the ceilings. -/
theorem f2PlanVerticalRepair_ok
    (h : f2PlanVerticalRepair watts saneCurve record condemned observations gpuKey targetMhz
      failedMv stopReason powerLimitW profileMaxMv = .ok (nextMv, measured)) :
    (∃ bin ∈ saneCurve, bin.mv = nextMv) ∧ failedMv < nextMv ∧ nextMv ≤ profileMaxMv ∧
      pairCondemned record condemned targetMhz nextMv = false ∧
      measured = measuredPowerAtPair watts observations gpuKey targetMhz nextMv ∧
      ∀ w, measured = some w → powerLimitW ≤ 0 ∨ w ≤ offCapCeilingW powerLimitW := by
  unfold f2PlanVerticalRepair at h
  split at h
  next => simp at h
  next start hstart =>
    split at h
    next => simp at h
    next next hclimb =>
      split at h
      next => simp at h
      next hmax =>
        simp only at h
        split at h
        next => simp at h
        next hpower =>
          obtain ⟨rfl, rfl⟩ := Prod.mk.inj (Except.ok.inj h)
          obtain ⟨hmem, hlt⟩ := f2RepairBinAbove_mem hstart
          obtain ⟨hfree, hle, hnext, -⟩ := f2ClimbPastCondemned_some hclimb
          refine ⟨?_, hlt.trans_le hle, not_lt.mp hmax, hfree, rfl, fun w hw => ?_⟩
          · rcases hnext with rfl | hbin
            · exact hmem
            · exact hbin
          · by_cases hlimit : powerLimitW ≤ 0
            · exact .inl hlimit
            · refine .inr (le_of_not_gt fun hgt => hpower ⟨not_le.mp hlimit, ?_⟩)
              rw [hw, Option.getD_some]
              exact lt_max_of_lt_left hgt

/-- With a step of one bin, a planned bin is the lowest above the failure that is not condemned,
and the failed one was not measured above the publication ceiling. -/
theorem f2PlanVerticalRepair_least (hstep : repairStepBins stopReason = 1)
    (h : f2PlanVerticalRepair watts saneCurve record condemned observations gpuKey targetMhz
      failedMv stopReason powerLimitW profileMaxMv = .ok (nextMv, measured)) :
    (∀ bin ∈ saneCurve, failedMv < bin.mv → bin.mv < nextMv →
      pairCondemned record condemned targetMhz bin.mv = true) ∧
      ¬ (0 < powerLimitW ∧ offCapCeilingW powerLimitW <
        (measuredPowerAtPair watts observations gpuKey targetMhz failedMv).getD 0) := by
  unfold f2PlanVerticalRepair at h
  rw [hstep, f2RepairBinAbove_one] at h
  split at h
  next => simp at h
  next start hstart =>
    obtain ⟨-, -, hleast⟩ := f2NextBinAbove_spec hstart
    split at h
    next => simp at h
    next next hclimb =>
      split at h
      next => simp at h
      next =>
        simp only at h
        split at h
        next => simp at h
        next hpower =>
          obtain ⟨rfl, -⟩ := Prod.mk.inj (Except.ok.inj h)
          obtain ⟨-, -, -, hbelow⟩ := f2ClimbPastCondemned_some hclimb
          refine ⟨fun bin hbin habove hlt => ?_, fun ⟨hlimit, hceiling⟩ => hpower ⟨hlimit, ?_⟩⟩
          · exact hbelow bin hbin (hleast bin hbin habove) hlt
          · exact lt_max_of_lt_right hceiling

/-- With a step of one bin, no bin up to the profile ceiling is open where the planner gives up. -/
theorem f2PlanVerticalRepair_error (hstep : repairStepBins stopReason = 1) {limit : RepairLimit}
    (h : f2PlanVerticalRepair watts saneCurve record condemned observations gpuKey targetMhz
      failedMv stopReason powerLimitW profileMaxMv = .error limit) :
    ∀ bin ∈ saneCurve, failedMv < bin.mv → bin.mv ≤ profileMaxMv →
      pairCondemned record condemned targetMhz bin.mv = true ∨
        0 < powerLimitW ∧ ∃ mv w, failedMv ≤ mv ∧ mv ≤ bin.mv ∧
          measuredPowerAtPair watts observations gpuKey targetMhz mv = some w ∧
          offCapCeilingW powerLimitW < w := by
  unfold f2PlanVerticalRepair at h
  rw [hstep, f2RepairBinAbove_one] at h
  intro bin hbin habove hmax
  split at h
  next hnone =>
    have hle := f2NextBinAbove_eq_none.mp hnone bin hbin
    omega
  next start hstart =>
    obtain ⟨-, hlt, hleast⟩ := f2NextBinAbove_spec hstart
    have hge := hleast bin hbin habove
    split at h
    next hclimb => exact .inl (f2ClimbPastCondemned_none hclimb bin hbin hge)
    next next hclimb =>
      obtain ⟨-, hle, -, hbelow⟩ := f2ClimbPastCondemned_some hclimb
      by_cases hnext : bin.mv < next
      · exact .inl (hbelow bin hbin hge hnext)
      · split at h
        next => omega
        next =>
          simp only at h
          split at h
          next hpower =>
            obtain ⟨hlimit, hpower⟩ := hpower
            refine .inr ⟨hlimit, ?_⟩
            have hceiling : 0 < offCapCeilingW powerLimitW := by
              unfold offCapCeilingW powerHeadroomFrac
              linarith
            have hsome {mv : Nat} (hgt : offCapCeilingW powerLimitW <
                (measuredPowerAtPair watts observations gpuKey targetMhz mv).getD 0) :
                ∃ w, measuredPowerAtPair watts observations gpuKey targetMhz mv = some w ∧
                  offCapCeilingW powerLimitW < w := by
              cases hmeasured : measuredPowerAtPair watts observations gpuKey targetMhz mv with
              | none =>
                rw [hmeasured, Option.getD_none] at hgt
                exact absurd hgt (not_lt.mpr hceiling.le)
              | some w =>
                rw [hmeasured, Option.getD_some] at hgt
                exact ⟨w, rfl, hgt⟩
            rcases lt_max_iff.mp hpower with hgt | hgt
            · obtain ⟨w, hw, hgt⟩ := hsome hgt
              exact ⟨next, w, by omega, not_lt.mp hnext, hw, hgt⟩
            · obtain ⟨w, hw, hgt⟩ := hsome hgt
              exact ⟨failedMv, w, le_rfl, habove.le, hw, hgt⟩
          next => simp at h

end Plan

end Nidavellir

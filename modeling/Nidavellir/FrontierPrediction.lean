import Mathlib.Algebra.Order.Round
import Mathlib.Data.List.ReduceOption
import Mathlib.Data.Rat.Floor
import Nidavellir.Lib.Isotonic
import Nidavellir.DescentPlan

namespace Nidavellir

open Isotonic

def f2FrontierPredictionContradictionMv : Nat := 25

structure F2FrontierPrediction where
  boundaryMv : UInt32
  startMv : Nat
  usedHistoricalBoundary : Bool
deriving DecidableEq, Repr

/-- One block meets the blocks before it, the last of which comes first. -/
def poolBlock : List (ℚ × Nat) → ℚ × Nat → List (ℚ × Nat)
  | [], right => [right]
  | left :: blocks, right =>
    if left.1 / left.2 ≥ right.1 / right.2 then right :: left :: blocks
    else poolBlock blocks (left.1 + right.1, left.2 + right.2)

def poolVoltages (voltages : List ℚ) : List (ℚ × Nat) :=
  voltages.foldl (fun blocks voltageMv => poolBlock blocks (voltageMv, 1)) []

def projectedVoltages (voltages : List ℚ) : List ℚ :=
  (poolVoltages voltages).reverse.flatMap fun block => List.replicate block.2 (block.1 / block.2)

/-- The last four boundaries. -/
def recentOf (recentBoundaries : List (UInt32 × UInt32)) : List (UInt32 × UInt32) :=
  recentBoundaries.drop (recentBoundaries.length - 4)

def voltagesOf (boundaries : List (UInt32 × UInt32)) : List ℚ :=
  boundaries.map fun boundary => (boundary.2.toNat : ℚ)

/-- The slopes between neighbours whose clocks differ. -/
def slopesMvPerMhz : List (UInt32 × UInt32) → List ℚ → List ℚ
  | (clock, _) :: (clock', voltage) :: recent, level :: level' :: projected =>
    let clockDrop := clock.toNat - clock'.toNat
    let slopes := slopesMvPerMhz ((clock', voltage) :: recent) (level' :: projected)
    if clockDrop = 0 then slopes else max (level - level') 0 / clockDrop :: slopes
  | _, _ => []

/-- `f64::round` of what is not negative, and the saturating cast. -/
def roundU32 (x : ℚ) : UInt32 := UInt32.ofNat (min (round x).toNat (2 ^ 32 - 1))

def f2IsotonicTrendPrediction (recentBoundaries : List (UInt32 × UInt32)) (targetMhz : UInt32) :
    Option UInt32 :=
  let recent := recentOf recentBoundaries
  if recent.length < 2 then none
  else
    let projected := projectedVoltages (voltagesOf recent)
    let slopes := slopesMvPerMhz recent projected
    match (slopes.insertionSort (· ≤ ·))[slopes.length / 2]?, recent.getLast?,
      projected.getLast? with
    | some slope, some last, some lastVoltage =>
      let clockDrop := last.1.toNat - targetMhz.toNat
      some (roundU32 (max (lastVoltage - slope * clockDrop) 0))
    | _, _, _ => none

/-- What the sources suggest. -/
def suggestionsOf (targetMhz : UInt32) (historicalBoundaryMv : Option UInt32)
    (recentBoundaries : List (UInt32 × UInt32)) : List UInt32 :=
  [historicalBoundaryMv, recentBoundaries.getLast?.map Prod.snd,
    f2IsotonicTrendPrediction recentBoundaries targetMhz].reduceOption

def f2PredictFrontierStart (curve : List VfBin) (limits : Word.Limits) (targetMhz : UInt32)
    (historicalBoundaryMv : Option UInt32) (recentBoundaries : List (UInt32 × UInt32)) :
    Option F2FrontierPrediction := do
  let trendMv := f2IsotonicTrendPrediction recentBoundaries targetMhz
  let suggestions := suggestionsOf targetMhz historicalBoundaryMv recentBoundaries
  let low ← (suggestions.map UInt32.toNat).min?
  let high ← (suggestions.map UInt32.toNat).max?
  if high - low > f2FrontierPredictionContradictionMv then none
  else
    let middle ← (suggestions.insertionSort (· ≤ ·))[suggestions.length / 2]?
    let boundaryMv := (historicalBoundaryMv <|> trendMv).getD middle
    let descent := Word.planAnchoredUndervoltDescent curve targetMhz none limits (2 ^ 64 - 1)
    let voltages := descent.candidates.map fun candidate => candidate.anchor.voltageMv
    let startMv ← (voltages.filter fun voltageMv => boundaryMv.toNat < voltageMv).min?
    return { boundaryMv, startMv, usedHistoricalBoundary := historicalBoundaryMv.isSome }

def sumCount (block : List ℚ) : ℚ × Nat := (block.sum, block.length)

theorem poolBlock_sumCount (blocks : List (List ℚ)) (right : List ℚ) :
    poolBlock (blocks.map sumCount) (sumCount right) = (push blocks right).map sumCount := by
  induction blocks generalizing right with
  | nil => rfl
  | cons left blocks ih =>
    have hjoint : (left.sum + right.sum, left.length + right.length) =
        sumCount (left ++ right) := by
      rw [sumCount, List.sum_append, List.length_append]
    unfold push
    rw [List.map_cons, poolBlock]
    by_cases hle : mean right ≤ mean left
    · rw [if_pos hle]
      exact if_pos hle
    · rw [if_neg hle, ← ih, ← hjoint]
      exact if_neg hle

theorem poolVoltages_eq (voltages : List ℚ) :
    poolVoltages voltages = (pool voltages).map sumCount := by
  suffices h : ∀ blocks : List (List ℚ),
      voltages.foldl (fun blocks voltageMv => poolBlock blocks (voltageMv, 1))
        (blocks.map sumCount) =
      (voltages.foldl (fun blocks voltageMv => push blocks [voltageMv]) blocks).map sumCount from
    h []
  induction voltages with
  | nil => exact fun _ => rfl
  | cons voltageMv voltages ih =>
    intro blocks
    have hone : (voltageMv, 1) = sumCount [voltageMv] := by
      rw [sumCount, List.sum_singleton, List.length_singleton]
    rw [List.foldl_cons, List.foldl_cons, hone, poolBlock_sumCount]
    exact ih _

theorem projectedVoltages_eq (voltages : List ℚ) :
    projectedVoltages voltages = project voltages := by
  unfold projectedVoltages project levels
  rw [poolVoltages_eq, ← List.map_reverse, List.flatMap_map]
  rfl

theorem slopesMvPerMhz_nonneg (recent : List (UInt32 × UInt32)) (projected : List ℚ) :
    ∀ slope ∈ slopesMvPerMhz recent projected, 0 ≤ slope := by
  induction recent, projected using slopesMvPerMhz.induct with
  | case1 clock _ clock' voltage recent level level' projected clockDrop hzero ih =>
    intro slope hslope
    unfold slopesMvPerMhz at hslope
    dsimp only at hslope
    rw [if_pos hzero] at hslope
    exact ih slope hslope
  | case2 clock _ clock' voltage recent level level' projected clockDrop hdrop ih =>
    intro slope hslope
    unfold slopesMvPerMhz at hslope
    dsimp only at hslope
    rw [if_neg hdrop] at hslope
    rcases List.mem_cons.mp hslope with rfl | hslope
    · exact div_nonneg (le_max_right _ _) (Nat.cast_nonneg _)
    · exact ih slope hslope
  | case3 recent projected hnone =>
    intro slope hslope
    rw [slopesMvPerMhz] at hslope
    · cases hslope
    · exact hnone

/-- A value with half of the values on either side. -/
structure IsMedian (values : List ℚ) (m : ℚ) : Prop where
  mem : m ∈ values
  below : values.length ≤ 2 * values.countP (· ≤ m)
  above : values.length ≤ 2 * values.countP (m ≤ ·)

theorem isMedian_middle {values : List ℚ} {m : ℚ}
    (h : (values.insertionSort (· ≤ ·))[values.length / 2]? = some m) : IsMedian values m := by
  have hperm := List.perm_insertionSort (· ≤ ·) values
  have hsorted := List.pairwise_insertionSort (· ≤ ·) values
  generalize values.insertionSort (· ≤ ·) = sorted at h hperm hsorted
  obtain ⟨hlt, rfl⟩ := List.getElem?_eq_some_iff.mp h
  have hlength := hperm.length_eq
  have hle : ∀ {i j : Nat} (hi : i < sorted.length) (hj : j < sorted.length), i ≤ j →
      sorted[i] ≤ sorted[j] := fun {i j} hi hj hij =>
    hsorted.rel_get_of_le (a := ⟨i, hi⟩) (b := ⟨j, hj⟩) hij
  refine ⟨hperm.mem_iff.mp (List.getElem_mem hlt), ?_, ?_⟩
  · have hbelow : ((sorted.take (values.length / 2 + 1)).countP
        (· ≤ sorted[values.length / 2])) = (sorted.take (values.length / 2 + 1)).length := by
      refine List.countP_eq_length.mpr fun x hx => decide_eq_true ?_
      obtain ⟨i, hi, rfl⟩ := List.mem_take_iff_getElem.mp hx
      exact hle _ _ (by omega)
    have hsub := (List.take_sublist (values.length / 2 + 1) sorted).countP_le
      (p := fun x => decide (x ≤ sorted[values.length / 2]))
    rw [← hperm.countP_eq]
    rw [List.length_take] at hbelow
    omega
  · have habove : ((sorted.drop (values.length / 2)).countP
        (sorted[values.length / 2] ≤ ·)) = (sorted.drop (values.length / 2)).length := by
      refine List.countP_eq_length.mpr fun x hx => decide_eq_true ?_
      obtain ⟨i, hi, rfl⟩ := List.mem_drop_iff_getElem.mp hx
      exact hle _ _ (by omega)
    have hsub := (List.drop_sublist (values.length / 2) sorted).countP_le
      (p := fun x => decide (sorted[values.length / 2] ≤ x))
    rw [← hperm.countP_eq]
    rw [List.length_drop] at habove
    omega

theorem round_mono {x y : ℚ} (h : x ≤ y) : round x ≤ round y := by
  rw [round_eq, round_eq]
  exact Int.floor_mono (by linarith)

theorem toNat_roundU32 {x : ℚ} (hnonneg : 0 ≤ x) (hle : x ≤ (2 ^ 32 - 1 : Nat)) :
    ((roundU32 x).toNat : ℤ) = round x := by
  have hlow : 0 ≤ round x := round_zero (α := ℚ) ▸ round_mono hnonneg
  have hhigh : round x ≤ (2 ^ 32 - 1 : Nat) := round_natCast (α := ℚ) _ ▸ round_mono hle
  have hword : min (round x).toNat (2 ^ 32 - 1) < 2 ^ 32 := by omega
  unfold roundU32
  rw [UInt32.toNat_ofNat', Nat.mod_eq_of_lt hword]
  omega

section Trend

variable {boundaries : List (UInt32 × UInt32)} {targetMhz : UInt32}

theorem mem_voltagesOf {boundaries : List (UInt32 × UInt32)} {v : ℚ}
    (h : v ∈ voltagesOf boundaries) : 0 ≤ v ∧ v ≤ (2 ^ 32 - 1 : Nat) := by
  obtain ⟨boundary, -, rfl⟩ := List.mem_map.mp h
  have hlt := boundary.2.toNat_lt
  exact ⟨Nat.cast_nonneg _, Nat.cast_le.mpr (by omega)⟩

/-- The entries of the projection. -/
def projectionOf (boundaries : List (UInt32 × UInt32)) : List ℚ :=
  projectedVoltages (voltagesOf (recentOf boundaries))

def slopesOf (boundaries : List (UInt32 × UInt32)) : List ℚ :=
  slopesMvPerMhz (recentOf boundaries) (projectionOf boundaries)

/-- What a trend is extrapolated from. -/
structure TrendBase (boundaries : List (UInt32 × UInt32)) (slope lastVoltage : ℚ)
    (lastClock : UInt32) : Prop where
  median : IsMedian (slopesOf boundaries) slope
  nonneg : 0 ≤ slope
  clock : (recentOf boundaries).getLast?.map Prod.fst = some lastClock
  voltage : (projectionOf boundaries).getLast? = some lastVoltage

/-- The rounding of what the trend leaves of the last voltage. -/
def extrapolated (slope lastVoltage : ℚ) (lastClock targetMhz : UInt32) : ℤ :=
  round (max 0 (lastVoltage - slope * (lastClock.toNat - targetMhz.toNat : Nat)))

theorem TrendBase.bounds {slope lastVoltage : ℚ} {lastClock : UInt32}
    (h : TrendBase boundaries slope lastVoltage lastClock) :
    0 ≤ lastVoltage ∧ lastVoltage ≤ (2 ^ 32 - 1 : Nat) := by
  have hmem := List.mem_of_getLast? h.voltage
  rw [projectionOf, projectedVoltages_eq] at hmem
  exact ⟨le_project (fun v hv => (mem_voltagesOf hv).1) hmem,
    project_le (fun v hv => (mem_voltagesOf hv).2) hmem⟩

/-- Either there is no trend at all, or every target has its voltage. -/
theorem f2IsotonicTrendPrediction_cases (boundaries : List (UInt32 × UInt32)) :
    (∀ targetMhz, f2IsotonicTrendPrediction boundaries targetMhz = none) ∨
    ∃ slope lastVoltage lastClock, TrendBase boundaries slope lastVoltage lastClock ∧
      ∀ targetMhz, ∃ predictedMv,
        f2IsotonicTrendPrediction boundaries targetMhz = some predictedMv ∧
        (predictedMv.toNat : ℤ) = extrapolated slope lastVoltage lastClock targetMhz := by
  by_cases hshort : (recentOf boundaries).length < 2
  · exact .inl fun _ => if_pos hshort
  cases hslope : ((slopesOf boundaries).insertionSort (· ≤ ·))[(slopesOf boundaries).length / 2]?
  case none =>
    refine .inl fun _ => (if_neg hshort).trans ?_
    unfold slopesOf projectionOf at hslope
    rw [hslope]
  case some slope =>
    have hmedian := isMedian_middle hslope
    have hrecent : recentOf boundaries ≠ [] := by
      rintro hnil
      rw [hnil] at hshort
      exact hshort Nat.two_pos
    obtain ⟨last, hlast⟩ := Option.ne_none_iff_exists'.mp
      (mt List.getLast?_eq_none_iff.mp hrecent)
    have hprojection : projectionOf boundaries ≠ [] := by
      have hlen := (project_isProjection (voltagesOf (recentOf boundaries))).length
      rw [← projectedVoltages_eq, voltagesOf, List.length_map] at hlen
      intro hnil
      rw [projectionOf, voltagesOf] at hnil
      rw [hnil] at hlen
      exact hrecent (List.length_eq_zero_iff.mp hlen.symm)
    obtain ⟨lastVoltage, hvoltage⟩ := Option.ne_none_iff_exists'.mp
      (mt List.getLast?_eq_none_iff.mp hprojection)
    have hbase : TrendBase boundaries slope lastVoltage last.1 :=
      ⟨hmedian, slopesMvPerMhz_nonneg _ _ slope hmedian.mem, by rw [hlast]; rfl, hvoltage⟩
    refine .inr ⟨slope, lastVoltage, last.1, hbase, fun targetMhz =>
      ⟨roundU32 (max (lastVoltage - slope * (last.1.toNat - targetMhz.toNat : Nat)) 0), ?_, ?_⟩⟩
    · refine (if_neg hshort).trans ?_
      unfold slopesOf projectionOf at hslope
      unfold projectionOf at hvoltage
      rw [hslope, hlast, hvoltage]
    · have hdrop : 0 ≤ slope * (last.1.toNat - targetMhz.toNat : Nat) :=
        mul_nonneg hbase.nonneg (Nat.cast_nonneg _)
      have hbounds := hbase.bounds
      rw [extrapolated, max_comm 0]
      refine toNat_roundU32 (le_max_right _ _) (max_le ?_ (Nat.cast_nonneg _))
      linarith [hbounds.2]

theorem extrapolated_mono {slope lastVoltage : ℚ} {lastClock lowerMhz targetMhz : UInt32}
    (hslope : 0 ≤ slope) (h : lowerMhz ≤ targetMhz) :
    extrapolated slope lastVoltage lastClock lowerMhz ≤
      extrapolated slope lastVoltage lastClock targetMhz := by
  have hdrop : lastClock.toNat - targetMhz.toNat ≤ lastClock.toNat - lowerMhz.toNat :=
    Nat.sub_le_sub_left (UInt32.le_iff_toNat_le.mp h) _
  have hless := mul_le_mul_of_nonneg_left (Nat.cast_le (α := ℚ) |>.mpr hdrop) hslope
  exact round_mono (max_le_max le_rfl (by linarith))

theorem extrapolated_le {slope lastVoltage : ℚ} {lastClock : UInt32}
    (h : TrendBase boundaries slope lastVoltage lastClock) :
    extrapolated slope lastVoltage lastClock targetMhz ≤ round lastVoltage := by
  have hdrop : 0 ≤ slope * (lastClock.toNat - targetMhz.toNat : Nat) :=
    mul_nonneg h.nonneg (Nat.cast_nonneg _)
  exact round_mono (max_le h.bounds.1 (by linarith))

end Trend

/-- What a predicted start is. -/
structure PredictedStart (curve : List VfBin) (limits : Word.Limits) (targetMhz : UInt32)
    (suggestions : List UInt32) (prediction : F2FrontierPrediction) : Prop where
  agreeing : ∀ a ∈ suggestions, ∀ b ∈ suggestions,
    a.toNat - b.toNat ≤ f2FrontierPredictionContradictionMv
  boundary : prediction.boundaryMv ∈ suggestions
  planned : ∃ candidate ∈
    (Word.planAnchoredUndervoltDescent curve targetMhz none limits (2 ^ 64 - 1)).candidates,
    candidate.targetMhz = targetMhz.toNat ∧ candidate.anchor.voltageMv = prediction.startMv
  above : prediction.boundaryMv.toNat < prediction.startMv
  lowest : ∀ candidate ∈
    (Word.planAnchoredUndervoltDescent curve targetMhz none limits (2 ^ 64 - 1)).candidates,
    prediction.boundaryMv.toNat < candidate.anchor.voltageMv →
      prediction.startMv ≤ candidate.anchor.voltageMv

theorem Word.planBoundedAnchored_target {curve : List VfBin} {anchorBinIndex : Nat}
    {targetMhz : UInt32} {prevOffsetMhz : Int32} {limits : Limits}
    {plan : AnchoredPositiveOffsetPlan}
    (h : planBoundedAnchoredPositiveOffset curve anchorBinIndex targetMhz prevOffsetMhz limits =
      .ok plan) : plan.targetMhz = targetMhz.toNat := by
  unfold planBoundedAnchoredPositiveOffset at h
  obtain ⟨anchor, -, h⟩ := Fallible.bind_eq_ok.mp h
  obtain ⟨entries, -, h⟩ := Fallible.bind_eq_ok.mp h
  simp only at h
  split at h
  next => cases h
  next =>
    cases h
    rfl

theorem Word.target_of_mem_candidates {curve : List VfBin} {targetMhz : UInt32}
    {startMv : Option UInt32} {limits : Limits} {maxSteps : Nat}
    {candidate : AnchoredPositiveOffsetPlan} (h : candidate ∈
      (planAnchoredUndervoltDescent curve targetMhz startMv limits maxSteps).candidates) :
    candidate.targetMhz = targetMhz.toNat := by
  have hgreedy : (planAnchoredUndervoltDescent curve targetMhz startMv limits maxSteps).candidates =
      Chain.greedy (planAfter curve targetMhz limits) offsetOf 0 maxSteps
        (eligibleBins curve targetMhz startMv) := descend_candidates 0 maxSteps _
  rw [hgreedy] at h
  obtain ⟨prev, bin, -, hplan⟩ := (Chain.greedy_accepted 0 maxSteps _).exists_of_mem h
  exact planBoundedAnchored_target hplan

theorem boundary_mem {targetMhz middle : UInt32} {historicalBoundaryMv : Option UInt32}
    {boundaries : List (UInt32 × UInt32)}
    (h : ((suggestionsOf targetMhz historicalBoundaryMv boundaries).insertionSort (· ≤ ·))[
      (suggestionsOf targetMhz historicalBoundaryMv boundaries).length / 2]? = some middle) :
    (historicalBoundaryMv <|> f2IsotonicTrendPrediction boundaries targetMhz).getD middle ∈
      suggestionsOf targetMhz historicalBoundaryMv boundaries := by
  cases hhistorical : historicalBoundaryMv with
  | some mv => exact List.reduceOption_mem_iff.mpr List.mem_cons_self
  | none =>
    cases htrend : f2IsotonicTrendPrediction boundaries targetMhz with
    | some mv =>
      refine List.reduceOption_mem_iff.mpr ?_
      rw [htrend]
      exact List.mem_cons_of_mem _ (List.mem_cons_of_mem _ List.mem_cons_self)
    | none =>
      rw [hhistorical] at h
      exact (List.mem_insertionSort _).mp (List.mem_of_getElem? h)

theorem predictedStart_of_some {curve : List VfBin} {limits : Word.Limits} {targetMhz : UInt32}
    {historicalBoundaryMv : Option UInt32} {boundaries : List (UInt32 × UInt32)}
    {prediction : F2FrontierPrediction}
    (h : f2PredictFrontierStart curve limits targetMhz historicalBoundaryMv boundaries =
      some prediction) :
    PredictedStart curve limits targetMhz
      (suggestionsOf targetMhz historicalBoundaryMv boundaries) prediction := by
  unfold f2PredictFrontierStart at h
  dsimp only at h
  obtain ⟨low, hlow, h⟩ := Option.bind_eq_some_iff.mp h
  obtain ⟨high, hhigh, h⟩ := Option.bind_eq_some_iff.mp h
  split at h
  case isTrue => cases h
  case isFalse hagree =>
    obtain ⟨middle, hmiddle, h⟩ := Option.bind_eq_some_iff.mp h
    obtain ⟨startMv, hstart, h⟩ := Option.bind_eq_some_iff.mp h
    cases h
    obtain ⟨hlowmem, hlowle⟩ := List.min?_eq_some_iff.mp hlow
    obtain ⟨hhighmem, hlehigh⟩ := List.max?_eq_some_iff.mp hhigh
    obtain ⟨hmem, hle⟩ := List.min?_eq_some_iff.mp hstart
    obtain ⟨hplanned, habove⟩ := List.mem_filter.mp hmem
    obtain ⟨candidate, hcandidate, hmv⟩ := List.mem_map.mp hplanned
    constructor
    case agreeing =>
      intro a ha b hb
      have hhigh := hlehigh a.toNat (List.mem_map_of_mem ha)
      have hlow := hlowle b.toNat (List.mem_map_of_mem hb)
      omega
    case boundary => exact boundary_mem hmiddle
    case planned =>
      exact ⟨candidate, hcandidate, Word.target_of_mem_candidates hcandidate, hmv⟩
    case above => exact of_decide_eq_true habove
    case lowest =>
      intro other hother hlt
      exact hle _ (List.mem_filter.mpr ⟨List.mem_map_of_mem hother, decide_eq_true hlt⟩)

/-- The voltages of the list in blocks, each at its mean. -/
def InBlocks (xs ps : List ℚ) : Prop :=
  ∃ blocks : List (List ℚ), blocks.flatten = xs ∧ [] ∉ blocks ∧ ps = levels blocks

theorem inBlocks_project (xs : List ℚ) : InBlocks xs (project xs) := by
  have h := pooled_pool xs
  exact ⟨(pool xs).reverse, h.content,
    fun hnil => h.nonempty [] (List.mem_reverse.mp hnil) rfl, rfl⟩

/-- The projection is the closest non-increasing sequence, a predicted voltage is the last one of it
less the median slope for each megahertz below, and a start is the lowest bin planned above. -/
theorem frontier_prediction (boundaries : List (UInt32 × UInt32)) :
    (IsProjection (voltagesOf (recentOf boundaries)) (projectionOf boundaries) ∧
      InBlocks (voltagesOf (recentOf boundaries)) (projectionOf boundaries)) ∧
    (∀ slope ∈ slopesOf boundaries, 0 ≤ slope) ∧
    (∀ targetMhz predictedMv,
      f2IsotonicTrendPrediction boundaries targetMhz = some predictedMv →
        ∃ slope lastVoltage lastClock, TrendBase boundaries slope lastVoltage lastClock ∧
          (predictedMv.toNat : ℤ) = extrapolated slope lastVoltage lastClock targetMhz ∧
          (predictedMv.toNat : ℤ) ≤ round lastVoltage) ∧
    (∀ targetMhz predictedMv,
      f2IsotonicTrendPrediction boundaries targetMhz = some predictedMv →
        ∀ lowerMhz, lowerMhz ≤ targetMhz →
          ∃ lowerMv, f2IsotonicTrendPrediction boundaries lowerMhz = some lowerMv ∧
            lowerMv ≤ predictedMv) ∧
    ∀ curve limits targetMhz historicalBoundaryMv prediction,
      f2PredictFrontierStart curve limits targetMhz historicalBoundaryMv boundaries =
        some prediction →
      PredictedStart curve limits targetMhz
        (suggestionsOf targetMhz historicalBoundaryMv boundaries) prediction := by
  refine ⟨?_, slopesMvPerMhz_nonneg _ _, ?_, ?_, fun _ _ _ _ _ => predictedStart_of_some⟩
  · rw [projectionOf, projectedVoltages_eq]
    exact ⟨project_isProjection _, inBlocks_project _⟩
  · intro targetMhz predictedMv hpredicted
    rcases f2IsotonicTrendPrediction_cases boundaries with hnone | ⟨slope, v, clock, hbase, hsome⟩
    · rw [hnone] at hpredicted
      cases hpredicted
    · obtain ⟨mv, hmv, hvalue⟩ := hsome targetMhz
      cases hmv.symm.trans hpredicted
      exact ⟨slope, v, clock, hbase, hvalue, hvalue ▸ extrapolated_le hbase⟩
  · intro targetMhz predictedMv hpredicted lowerMhz hlower
    rcases f2IsotonicTrendPrediction_cases boundaries with hnone | ⟨slope, v, clock, hbase, hsome⟩
    · rw [hnone] at hpredicted
      cases hpredicted
    · obtain ⟨mv, hmv, hvalue⟩ := hsome targetMhz
      cases hmv.symm.trans hpredicted
      obtain ⟨lowerMv, hlowerMv, hlowerValue⟩ := hsome lowerMhz
      have hmono := @extrapolated_mono slope v clock _ _ hbase.nonneg hlower
      refine ⟨lowerMv, hlowerMv, UInt32.le_iff_toNat_le.mpr ?_⟩
      omega

/-- From the boundaries of four clocks 1845 MHz is predicted at or below the 899 mV of 1860 MHz. -/
theorem frontier_prediction_recent :
    ∃ lowerMv, f2IsotonicTrendPrediction
        [(1920, 925), (1905, 918), (1890, 906), (1875, 906)] 1845 = some lowerMv ∧
      lowerMv ≤ 899 :=
  (frontier_prediction [(1920, 925), (1905, 918), (1890, 906), (1875, 906)]).2.2.2.1 1860 899
    (by decide +kernel) 1845 (by decide)

end Nidavellir

import Nidavellir.ForgeSynthesis
import Mathlib.Tactic.Linarith

namespace Nidavellir

open Extremes

/-- The points that pass the confidence gate. -/
def confidentPool (frontier : Classified) (policy : ForgePolicy) : Classified :=
  trustedPool (workingFrontier frontier) policy

/-- The points that pass all three gates. -/
def gatedPool (frontier : Classified) (policy : ForgePolicy) (powerLimitW : ℚ) : Classified :=
  offCapPool (confidentPool frontier policy) powerLimitW

section Gates

variable {frontier : Classified} {policy : ForgePolicy} {powerLimitW : ℚ}
  {entry : PowerSweepPoint × ℚ}

theorem mem_usefulFrontierPoints : entry ∈ usefulFrontierPoints frontier ↔
    entry ∈ frontier ∧ isPowerBoundPoint entry.1 = false := by
  rw [usefulFrontierPoints, List.mem_filter, Bool.not_eq_true']

/-- Power-bound points stay only where fewer than two others are left. -/
theorem mem_workingFrontier_iff : entry ∈ workingFrontier frontier ↔ entry ∈ frontier ∧
    (2 ≤ (usefulFrontierPoints frontier).length → isPowerBoundPoint entry.1 = false) := by
  have hle : (usefulFrontierPoints frontier).length ≤ frontier.length :=
    List.length_filter_le _ _
  unfold workingFrontier
  split
  next hnone =>
    -- Nothing was filtered out, so nothing is power-bound.
    have hlength : (usefulFrontierPoints frontier).length = frontier.length := by omega
    have hall : usefulFrontierPoints frontier = frontier :=
      List.filter_sublist.eq_of_length hlength
    constructor
    · intro h
      have huseful : entry ∈ usefulFrontierPoints frontier := by rwa [hall]
      exact ⟨h, fun _ => (mem_usefulFrontierPoints.mp huseful).2⟩
    · exact And.left
  next hsome =>
    have hbound : ∃ e ∈ frontier, isPowerBoundPoint e.1 = true := by
      by_contra hfree
      push Not at hfree
      have hall : usefulFrontierPoints frontier = frontier :=
        List.filter_eq_self.mpr fun e he => by simpa using hfree e he
      rw [hall] at hsome
      omega
    obtain ⟨e, he, hpower⟩ := hbound
    have hcollapse : frontierPowerBoundCollapse frontier = true ↔
        (usefulFrontierPoints frontier).length < 2 := by
      have hany : (frontier.any fun entry => isPowerBoundPoint entry.1) = true :=
        List.any_eq_true.mpr ⟨e, he, hpower⟩
      have hne : frontier.isEmpty = false := by
        cases frontier with
        | nil => cases he
        | cons => rfl
      rw [frontierPowerBoundCollapse, hany, hne]
      exact decide_eq_true_iff
    split
    next h =>
      have hfew := hcollapse.mp h
      exact ⟨fun hmem => ⟨hmem, fun htwo => absurd htwo (by omega)⟩, And.left⟩
    next h =>
      have hmany : 2 ≤ (usefulFrontierPoints frontier).length :=
        not_lt.mp (hcollapse.not.mp h)
      rw [mem_usefulFrontierPoints]
      exact ⟨fun hmem => ⟨hmem.1, fun _ => hmem.2⟩, fun hmem => ⟨hmem.1, hmem.2 hmany⟩⟩

/-- Points below the threshold stay only where no remaining one reaches it. -/
theorem mem_confidentPool_iff : entry ∈ confidentPool frontier policy ↔
    entry ∈ workingFrontier frontier ∧
      ((∃ e ∈ workingFrontier frontier, policy.confidenceThreshold ≤ e.2) →
        policy.confidenceThreshold ≤ entry.2) := by
  unfold confidentPool trustedPool
  simp only
  split
  next hempty =>
    rw [List.isEmpty_iff, List.filter_eq_nil_iff] at hempty
    refine ⟨fun hmem => ⟨hmem, ?_⟩, And.left⟩
    rintro ⟨e, he, hconfident⟩
    exact absurd (decide_eq_true hconfident) (hempty e he)
  next hsome =>
    rw [List.isEmpty_iff] at hsome
    obtain ⟨e, he⟩ := List.exists_mem_of_ne_nil _ hsome
    rw [List.mem_filter, decide_eq_true_eq] at he
    rw [List.mem_filter, decide_eq_true_eq]
    exact ⟨fun hmem => ⟨hmem.1, fun _ => hmem.2⟩, fun hmem => ⟨hmem.1, hmem.2 ⟨e, he⟩⟩⟩

theorem mem_gatedPool_iff : entry ∈ gatedPool frontier policy powerLimitW ↔
    entry ∈ confidentPool frontier policy ∧
      (0 < powerLimitW → isOffCapSafe entry.1 powerLimitW = true) := by
  unfold gatedPool offCapPool
  split
  next hlimit =>
    rw [List.mem_filter]
    exact ⟨fun hmem => ⟨hmem.1, fun _ => hmem.2⟩, fun hmem => ⟨hmem.1, hmem.2 hlimit⟩⟩
  next hlimit => exact ⟨fun hmem => ⟨hmem, fun h => absurd h hlimit⟩, And.left⟩

theorem workingFrontier_eq_nil_iff : workingFrontier frontier = [] ↔ frontier = [] := by
  constructor
  · intro h
    by_contra hne
    have hnone : ∀ entry ∈ frontier, isPowerBoundPoint entry.1 = true ∧
        2 ≤ (usefulFrontierPoints frontier).length := by
      intro entry hentry
      have hout : entry ∉ workingFrontier frontier := by simp [h]
      rw [mem_workingFrontier_iff] at hout
      push Not at hout
      have hbound := hout hentry
      exact ⟨by simpa using hbound.2, hbound.1⟩
    obtain ⟨entry, hentry⟩ := List.exists_mem_of_ne_nil _ hne
    have huseful : usefulFrontierPoints frontier = [] :=
      List.filter_eq_nil_iff.mpr fun e he => by simp [(hnone e he).1]
    have htwo := (hnone entry hentry).2
    rw [huseful] at htwo
    simp at htwo
  · rintro rfl
    rfl

theorem confidentPool_eq_nil_iff : confidentPool frontier policy = [] ↔ frontier = [] := by
  refine Iff.trans ?_ workingFrontier_eq_nil_iff
  unfold confidentPool trustedPool
  simp only
  split
  next => rfl
  next hsome =>
    rw [List.isEmpty_iff] at hsome
    refine iff_of_false hsome fun hnil => hsome ?_
    rw [hnil]
    rfl

end Gates

/-- A profile: a point of the frontier that every gate lets through. -/
structure GatedPoint (frontier : Classified) (policy : ForgePolicy) (powerLimitW : ℚ)
    (point : PowerSweepPoint) (confidence : ℚ) : Prop where
  member : (point, confidence) ∈ frontier
  notPowerBound : 2 ≤ (usefulFrontierPoints frontier).length → isPowerBoundPoint point = false
  confident : (∃ e ∈ workingFrontier frontier, policy.confidenceThreshold ≤ e.2) →
    policy.confidenceThreshold ≤ confidence
  offCap : 0 < powerLimitW → isOffCapSafe point powerLimitW = true

theorem gatedPoint_of_mem {frontier : Classified} {policy : ForgePolicy} {powerLimitW : ℚ}
    {entry : PowerSweepPoint × ℚ} (h : entry ∈ gatedPool frontier policy powerLimitW) :
    GatedPoint frontier policy powerLimitW entry.1 entry.2 := by
  obtain ⟨hconfident, hoff⟩ := mem_gatedPool_iff.mp h
  obtain ⟨hworking, hthreshold⟩ := mem_confidentPool_iff.mp hconfident
  obtain ⟨hmem, hbound⟩ := mem_workingFrontier_iff.mp hworking
  exact ⟨hmem, hbound, hthreshold, hoff⟩

/-- A real trade against Godforge within Brokkr's clock floor. -/
structure IsTrade (policy : ForgePolicy) (godforge point : PowerSweepPoint) : Prop where
  floor : godforge.sustained * policy.brokkrsMinClockFrac ≤ (point.sustained : ℚ)
  slower : point.sustained < godforge.sustained
  cheaper : point.selectionPower < godforge.selectionPower

/-- What synthesis promises of its three profiles, against the gated pool. -/
structure IsSynthesis (pool : Classified) (policy : ForgePolicy)
    (godforge brokkrs deepCalm : PowerSweepPoint) : Prop where
  fastest : ∀ entry ∈ pool, entry.1.sustained ≤ godforge.sustained
  cheapest : ∀ entry ∈ pool, entry.1.sustained = godforge.sustained →
    godforge.selectionPower ≤ entry.1.selectionPower
  brokkrsFloor : godforge.sustained * policy.brokkrsMinClockFrac ≤ (brokkrs.sustained : ℚ)
  deepCalmFloor : godforge.sustained * policy.deepCalmMinClockFrac ≤ (deepCalm.sustained : ℚ)
  trade : (brokkrs = godforge ∧ ∀ entry ∈ pool, ¬ IsTrade policy godforge entry.1) ∨
    IsTrade policy godforge brokkrs ∧ ∀ entry ∈ pool, IsTrade policy godforge entry.1 →
      benefit godforge entry.1 ≤ benefit godforge brokkrs
  mostEfficient : ∀ entry ∈ pool,
    godforge.sustained * policy.deepCalmMinClockFrac ≤ (entry.1.sustained : ℚ) →
      efficiency entry.1 ≤ efficiency deepCalm

section Selection

variable {pool : Classified} {policy : ForgePolicy} {godforge : PowerSweepPoint × ℚ}

theorem selectGodforge_spec (h : selectGodforge pool = some godforge) :
    (∀ entry ∈ pool, entry.1.sustained ≤ godforge.1.sustained) ∧
      ∀ entry ∈ pool, entry.1.sustained = godforge.1.sustained →
        godforge.1.selectionPower ≤ entry.1.selectionPower := by
  have hbest : ∀ entry ∈ pool, entry.1.sustained < godforge.1.sustained ∨
      entry.1.sustained = godforge.1.sustained ∧
        -entry.1.selectionPower ≤ -godforge.1.selectionPower := by
    intro entry hentry
    exact Prod.Lex.toLex_le_toLex.mp (le_of_maxByKey h hentry)
  constructor
  · intro entry hentry
    rcases hbest entry hentry with hlt | ⟨heq, -⟩
    · exact hlt.le
    · exact heq.le
  · intro entry hentry hsame
    rcases hbest entry hentry with hlt | ⟨-, hpower⟩
    · exact absurd hsame hlt.ne
    · exact neg_le_neg_iff.mp hpower

/-- A share of at most one keeps Godforge above its own floor. -/
theorem floor_le_sustained {frac : ℚ} (hfrac : frac ≤ 1) (point : PowerSweepPoint) :
    point.sustained * frac ≤ (point.sustained : ℚ) := by
  have hclock : (0 : ℚ) ≤ point.sustained := Nat.cast_nonneg _
  exact mul_le_of_le_one_right hclock hfrac

theorem selectDeepCalm_spec (hfrac : policy.deepCalmMinClockFrac ≤ 1) (hmem : godforge ∈ pool) :
    ∃ deepCalm ∈ pool, selectDeepCalm pool policy godforge.1 = some deepCalm ∧
      godforge.1.sustained * policy.deepCalmMinClockFrac ≤ (deepCalm.1.sustained : ℚ) ∧
      ∀ entry ∈ pool,
        godforge.1.sustained * policy.deepCalmMinClockFrac ≤ (entry.1.sustained : ℚ) →
          efficiency entry.1 ≤ efficiency deepCalm.1 := by
  unfold selectDeepCalm
  cases h : maxByKey (fun entry => efficiency entry.1) (pool.filter fun entry =>
      decide (godforge.1.sustained * policy.deepCalmMinClockFrac ≤ (entry.1.sustained : ℚ))) with
  | none =>
    have hempty := List.filter_eq_nil_iff.mp (maxByKey_eq_none.mp h) godforge hmem
    exact absurd (decide_eq_true (floor_le_sustained hfrac godforge.1)) hempty
  | some deepCalm =>
    have hchosen := List.mem_filter.mp (maxByKey_mem h)
    refine ⟨deepCalm, hchosen.1, rfl, of_decide_eq_true hchosen.2, fun entry hentry hfloor => ?_⟩
    have hbest := le_of_maxByKey h (List.mem_filter.mpr ⟨hentry, decide_eq_true hfloor⟩)
    exact hbest

theorem isTrade_iff {point : PowerSweepPoint} :
    (decide (godforge.1.sustained * policy.brokkrsMinClockFrac ≤ (point.sustained : ℚ)) &&
      decide (point.sustained < godforge.1.sustained) &&
      decide (point.selectionPower < godforge.1.selectionPower)) = true ↔
      IsTrade policy godforge.1 point := by
  simp only [Bool.and_eq_true, decide_eq_true_eq]
  exact ⟨fun ⟨⟨hfloor, hslow⟩, hcheap⟩ => ⟨hfloor, hslow, hcheap⟩,
    fun h => ⟨⟨h.floor, h.slower⟩, h.cheaper⟩⟩

variable (pool policy godforge) in
theorem selectBrokkrs_spec :
    (selectBrokkrs pool policy godforge.1 = none ∧
      ∀ entry ∈ pool, ¬ IsTrade policy godforge.1 entry.1) ∨
    ∃ brokkrs ∈ pool, selectBrokkrs pool policy godforge.1 = some brokkrs ∧
      IsTrade policy godforge.1 brokkrs.1 ∧ ∀ entry ∈ pool, IsTrade policy godforge.1 entry.1 →
        benefit godforge.1 entry.1 ≤ benefit godforge.1 brokkrs.1 := by
  unfold selectBrokkrs
  cases h : maxByKey (fun entry => benefit godforge.1 entry.1) (pool.filter fun entry =>
    decide (godforge.1.sustained * policy.brokkrsMinClockFrac ≤ (entry.1.sustained : ℚ)) &&
      decide (entry.1.sustained < godforge.1.sustained) &&
      decide (entry.1.selectionPower < godforge.1.selectionPower)) with
  | none =>
    refine .inl ⟨rfl, fun entry hentry htrade => ?_⟩
    exact List.filter_eq_nil_iff.mp (maxByKey_eq_none.mp h) entry hentry (isTrade_iff.mpr htrade)
  | some brokkrs =>
    obtain ⟨hmem, htrade⟩ := List.mem_filter.mp (maxByKey_mem h)
    refine .inr ⟨brokkrs, hmem, rfl, isTrade_iff.mp htrade, fun entry hentry hother => ?_⟩
    have hbest := le_of_maxByKey h (List.mem_filter.mpr ⟨hentry, isTrade_iff.mpr hother⟩)
    exact hbest

end Selection

section Synthesis

variable {frontier : Classified} {policy : ForgePolicy} {powerLimitW : ℚ}

/-- Nothing passes the gates of an empty frontier, nor where a known limit refuses every confident
point. -/
theorem gatedPool_eq_nil_iff : gatedPool frontier policy powerLimitW = [] ↔
    frontier = [] ∨ 0 < powerLimitW ∧ ∀ entry ∈ confidentPool frontier policy,
      isOffCapSafe entry.1 powerLimitW = false := by
  unfold gatedPool offCapPool
  split
  next hlimit =>
    rw [List.filter_eq_nil_iff]
    constructor
    · intro h
      exact .inr ⟨hlimit, fun entry hentry => Bool.eq_false_iff.mpr (h entry hentry)⟩
    · rintro (rfl | ⟨-, h⟩) entry hentry
      · cases hentry
      · exact Bool.eq_false_iff.mp (h entry hentry)
  next hlimit =>
    rw [confidentPool_eq_nil_iff]
    constructor
    · exact .inl
    · rintro (h | ⟨h, -⟩)
      · exact h
      · exact absurd h hlimit

theorem selectGodforge_eq_none_iff {pool : Classified} :
    selectGodforge pool = none ↔ pool = [] := maxByKey_eq_none

/-- The synthesis where some point passes the gates. -/
theorem synthesizeForgeProfilesCapped_some (hbrokkrs : policy.brokkrsMinClockFrac ≤ 1)
    (hdeep : policy.deepCalmMinClockFrac ≤ 1)
    (hpool : gatedPool frontier policy powerLimitW ≠ []) :
    ∃ godforge brokkrs deepCalm : PowerSweepPoint × ℚ,
      godforge ∈ gatedPool frontier policy powerLimitW ∧
      brokkrs ∈ gatedPool frontier policy powerLimitW ∧
      deepCalm ∈ gatedPool frontier policy powerLimitW ∧
      (synthesizeForgeProfilesCapped frontier policy powerLimitW).all =
        [some godforge.1, some brokkrs.1, some deepCalm.1] ∧
      IsSynthesis (gatedPool frontier policy powerLimitW) policy godforge.1 brokkrs.1
        deepCalm.1 := by
  have hgated : offCapPool (trustedPool (workingFrontier frontier) policy) powerLimitW =
      gatedPool frontier policy powerLimitW := rfl
  unfold synthesizeForgeProfilesCapped
  simp only [hgated]
  generalize gatedPool frontier policy powerLimitW = pool at hpool ⊢
  cases hgod : selectGodforge pool with
  | none => exact absurd (selectGodforge_eq_none_iff.mp hgod) hpool
  | some godforge =>
    have hmem := mem_selectGodforge hgod
    obtain ⟨hfast, hcheap⟩ := selectGodforge_spec hgod
    obtain ⟨deepCalm, hdeepMem, hdeepSome, hdeepFloor, hefficient⟩ :=
      selectDeepCalm_spec hdeep hmem
    rcases selectBrokkrs_spec pool policy godforge with
      ⟨hnone, hall⟩ | ⟨brokkrs, hbrokkrsMem, hsome, htrade, hbest⟩
    · refine ⟨godforge, godforge, deepCalm, hmem, hmem, hdeepMem, ?_, hfast, hcheap,
        floor_le_sustained hbrokkrs _, hdeepFloor, .inl ⟨rfl, hall⟩, hefficient⟩
      simp [ForgeProfiles.all, hdeepSome, hnone]
    · refine ⟨godforge, brokkrs, deepCalm, hmem, hbrokkrsMem, hdeepMem, ?_, hfast, hcheap,
        htrade.floor, hdeepFloor, .inr ⟨htrade, hbest⟩, hefficient⟩
      simp [ForgeProfiles.all, hdeepSome, hsome]

/-- Deep Calm's floor is the lowest, so Deep Calm is chosen among the other two as well. -/
theorem IsSynthesis.efficiency_le {pool : Classified}
    {godforge brokkrs deepCalm : PowerSweepPoint × ℚ}
    (h : IsSynthesis pool policy godforge.1 brokkrs.1 deepCalm.1) (hgodforge : godforge ∈ pool)
    (hbrokkrs : brokkrs ∈ pool) (hdeep : policy.deepCalmMinClockFrac ≤ 1)
    (hfrac : policy.deepCalmMinClockFrac ≤ policy.brokkrsMinClockFrac) :
    efficiency godforge.1 ≤ efficiency deepCalm.1 ∧
      efficiency brokkrs.1 ≤ efficiency deepCalm.1 := by
  refine ⟨h.mostEfficient godforge hgodforge (floor_le_sustained hdeep _),
    h.mostEfficient brokkrs hbrokkrs ?_⟩
  have hclock : (0 : ℚ) ≤ godforge.1.sustained := Nat.cast_nonneg _
  calc (godforge.1.sustained : ℚ) * policy.deepCalmMinClockFrac
      ≤ godforge.1.sustained * policy.brokkrsMinClockFrac :=
        mul_le_mul_of_nonneg_left hfrac hclock
    _ ≤ brokkrs.1.sustained := h.brokkrsFloor

theorem synthesizeForgeProfilesCapped_none (hpool : gatedPool frontier policy powerLimitW = []) :
    (synthesizeForgeProfilesCapped frontier policy powerLimitW).all = [none, none, none] := by
  have hgated : offCapPool (trustedPool (workingFrontier frontier) policy) powerLimitW = [] :=
    hpool
  unfold synthesizeForgeProfilesCapped
  simp only [hgated, selectGodforge_eq_none_iff.mpr]
  rfl

/-- Synthesis gives no profile exactly where nothing passes the gates; else it gives three, and
each is the best of the gated pool in its role. -/
theorem synthesizeForgeProfilesCapped_optimal (frontier : Classified) (policy : ForgePolicy)
    (powerLimitW : ℚ) (hbrokkrs : policy.brokkrsMinClockFrac ≤ 1)
    (hdeep : policy.deepCalmMinClockFrac ≤ 1) :
    ((synthesizeForgeProfilesCapped frontier policy powerLimitW).all = [none, none, none] ↔
      frontier = [] ∨ 0 < powerLimitW ∧ ∀ entry ∈ confidentPool frontier policy,
        isOffCapSafe entry.1 powerLimitW = false) ∧
    ((synthesizeForgeProfilesCapped frontier policy powerLimitW).all = [none, none, none] ∨
      ∃ godforge brokkrs deepCalm : PowerSweepPoint,
        (synthesizeForgeProfilesCapped frontier policy powerLimitW).all =
          [some godforge, some brokkrs, some deepCalm] ∧
        (∀ point ∈ [godforge, brokkrs, deepCalm],
          ∃ confidence, GatedPoint frontier policy powerLimitW point confidence) ∧
        IsSynthesis (gatedPool frontier policy powerLimitW) policy godforge brokkrs deepCalm ∧
        (policy.deepCalmMinClockFrac ≤ policy.brokkrsMinClockFrac →
          efficiency godforge ≤ efficiency deepCalm ∧
            efficiency brokkrs ≤ efficiency deepCalm)) := by
  rw [← gatedPool_eq_nil_iff]
  by_cases hpool : gatedPool frontier policy powerLimitW = []
  · have hnone := synthesizeForgeProfilesCapped_none hpool
    exact ⟨iff_of_true hnone hpool, .inl hnone⟩
  · obtain ⟨godforge, brokkrs, deepCalm, hgodforge, hbrokkrsMem, hdeepCalm, hall, hbest⟩ :=
      synthesizeForgeProfilesCapped_some hbrokkrs hdeep hpool
    refine ⟨iff_of_false (by simp [hall]) hpool, .inr ⟨godforge.1, brokkrs.1, deepCalm.1, hall, ?_,
      hbest, hbest.efficiency_le hgodforge hbrokkrsMem hdeep⟩⟩
    intro point hpoint
    simp only [List.mem_cons, List.not_mem_nil, or_false] at hpoint
    rcases hpoint with rfl | rfl | rfl
    · exact ⟨godforge.2, gatedPoint_of_mem hgodforge⟩
    · exact ⟨brokkrs.2, gatedPoint_of_mem hbrokkrsMem⟩
    · exact ⟨deepCalm.2, gatedPoint_of_mem hdeepCalm⟩

end Synthesis

/-- A fast point and one that gives up three percent of the clock for a tenth of the power. -/
def tradePair : Classified :=
  [({ clockMhz := 2000, offsetMhz := 0, powerW := 150, maxPowerW := 160, vfTableVoltageMv := none },
      9 / 10),
   ({ clockMhz := 1940, offsetMhz := 0, powerW := 135, maxPowerW := 150, vfTableVoltageMv := none },
      9 / 10)]

theorem synthesizeForgeProfilesCapped_optimal_tradePair :
    ∃ godforge brokkrs deepCalm : PowerSweepPoint,
      (synthesizeForgeProfilesCapped tradePair .balanced 200).all =
        [some godforge, some brokkrs, some deepCalm] ∧
      efficiency godforge ≤ efficiency deepCalm ∧ efficiency brokkrs ≤ efficiency deepCalm := by
  obtain ⟨-, hnone | ⟨godforge, brokkrs, deepCalm, hall, -, -, hdeepest⟩⟩ :=
    synthesizeForgeProfilesCapped_optimal tradePair .balanced 200
      (by norm_num [ForgePolicy.balanced]) (by norm_num [ForgePolicy.balanced])
  · exact absurd hnone (by decide +kernel)
  · exact ⟨godforge, brokkrs, deepCalm, hall, hdeepest (by norm_num [ForgePolicy.balanced])⟩

end Nidavellir

import Nidavellir.WarmStart

namespace Nidavellir

open Descent

variable {S : Type} {probe : Nat → Nat → S → ProbeSample × S} {maxPerTarget : Option Nat}
  {bindSeeking : Bool} {descent : FrontierDescent} {target startBin : Nat}

/-- A verified floor is one of the bins that were walked, and it is never lost again. -/
theorem descendBins_lowestVerified (walk : List Nat) (bracket : TargetBracket)
    (deepestPoint : Option DescentPoint) (s : S) :
    let result := (descendBins probe maxPerTarget bindSeeking target startBin walk bracket
      deepestPoint s).1.1
    (∀ lv, result.lowestVerifiedMv = some lv →
      lv ∈ walk ∨ bracket.lowestVerifiedMv = some lv) ∧
      (bracket.lowestVerifiedMv.isSome = true → result.lowestVerifiedMv.isSome = true) := by
  induction walk generalizing bracket deepestPoint s with
  | nil => exact ⟨fun lv hlv => .inr hlv, id⟩
  | cons v walk ih =>
    unfold descendBins
    simp only
    split
    next => exact ⟨fun lv hlv => .inr hlv, id⟩
    next =>
      split
      next => exact ⟨fun lv hlv => .inr hlv, id⟩
      next =>
        split
        next =>
          refine ⟨fun lv hlv => ?_, fun _ => rfl⟩
          obtain rfl := Option.some.inj hlv
          exact .inl List.mem_cons_self
        next =>
          obtain ⟨hmem, hkept⟩ := ih
            { bracket with probesUsed := bracket.probesUsed + 1, lowestVerifiedMv := some v }
            (some (probeToPoint target v (probe target v s).1, (probe target v s).1.confidence))
            (probe target v s).2
          refine ⟨fun lv hlv => ?_, fun _ => hkept rfl⟩
          rcases hmem lv hlv with hwalk | hv
          · exact .inl (List.mem_cons_of_mem _ hwalk)
          · obtain rfl := Option.some.inj hv
            exact .inl List.mem_cons_self

/-- A descent that stopped unverified without a floor made one probe, at its start. -/
theorem descendBins_unverified {v : Nat} {walk : List Nat} {bracket : TargetBracket}
    {deepestPoint : Option DescentPoint} {s : S} :
    let result := descendBins probe maxPerTarget bindSeeking target startBin (v :: walk) bracket
      deepestPoint s
    result.1.1.lowestVerifiedMv = none → result.1.1.stopReason = .softUnverified →
      (probe target v s).1.failure = some .softUnverified ∧ result.2 = (probe target v s).2 := by
  unfold descendBins
  simp only
  split
  next => exact fun _ hstop => by cases hstop
  next =>
    split
    next stop hfailure =>
      intro _ hstop
      exact ⟨hfailure.trans (congrArg some hstop), rfl⟩
    next =>
      split
      next => exact fun hnone => by cases hnone
      next =>
        intro hnone
        have hkept : (descendBins probe maxPerTarget bindSeeking target startBin walk
            { bracket with probesUsed := bracket.probesUsed + 1, lowestVerifiedMv := some v }
            (some (probeToPoint target v (probe target v s).1, (probe target v s).1.confidence))
            (probe target v s).2).1.1.lowestVerifiedMv.isSome = true :=
          (descendBins_lowestVerified walk _ _ _).2 rfl
        rw [hnone] at hkept
        cases hkept

theorem ProbeSample.unverified_of_failure {sample : ProbeSample}
    (h : sample.failure = some .softUnverified) :
    sample.curveVerified = false ∧ sample.crashed = false ∧ sample.aborted = false ∧
      sample.budgetDrained = false := by
  unfold ProbeSample.failure at h
  split at h
  next => cases h
  next hcrashed =>
    split at h
    next => cases h
    next haborted =>
      split at h
      next => cases h
      next hdrained =>
        split at h
        next hverified =>
          simp only [Bool.not_eq_true', Bool.not_eq_true] at hverified hcrashed haborted hdrained
          exact ⟨hverified, hcrashed, haborted, hdrained⟩
        next =>
          split at h
          next => cases h
          next => cases h

theorem descendTarget_carried (startMv : Nat) (s : S) :
    CarriedIn descent (some (descendTarget probe maxPerTarget bindSeeking target descent startMv
      s).1.1) := by
  intro bracket hbracket lv hlv
  obtain rfl := Option.some.inj hbracket
  unfold descendTarget at hlv
  simp only at hlv
  split at hlv
  next => cases hlv
  next b =>
    rcases (descendBins_lowestVerified _ _ _ _).1 lv hlv with hwalk | hfresh
    · exact List.mem_of_mem_filter hwalk
    · cases hfresh

/-- What the carry may do to one target, behind the run of the previous one. -/
structure CarryRule (probe : Nat → Nat → S → ProbeSample × S) (maxPerTarget : Option Nat)
    (bindSeeking : Bool) (descent : FrontierDescent) (previous : Option (TargetRun S))
    (run : TargetRun S) : Prop where
  prev : run.prev = previous.map TargetRun.bracket
  cold : run.decision.warmStarted = false → run.decision.startMv = descent.safeStartMv
  warm : run.decision.warmStarted = true → ∃ bracket lv b, run.prev = some bracket ∧
    bracket.isHardFailed = false ∧ bracket.lowestVerifiedMv = some lv ∧ lv ∈ descent.binsDesc ∧
    descent.startBin run.decision.startMv = some b ∧ lv ≤ b ∧
    (descent.binsDesc.filter (· ≤ b)).head? = some b
  first : run.first = descendTarget probe maxPerTarget bindSeeking run.target descent
    run.decision.startMv run.entry
  kept : run.fallback = none → run.point = run.first.1.2 ∧ run.exit = run.first.2
  fallback : ∀ fb, run.fallback = some fb → run.decision.warmStarted = true ∧
    (∃ b, descent.startBin run.decision.startMv = some b ∧
      (probe run.target b run.entry).1.curveVerified = false ∧
      (probe run.target b run.entry).1.crashed = false ∧
      (probe run.target b run.entry).1.aborted = false ∧
      (probe run.target b run.entry).1.budgetDrained = false ∧
      run.first.2 = (probe run.target b run.entry).2) ∧
    fb = descendTarget probe maxPerTarget bindSeeking run.target descent descent.safeStartMv
      run.first.2 ∧
    run.point = fb.1.2 ∧ run.exit = fb.2 ∧
    run.bracket = { fb.1.1 with
      bracketSourceTarget := run.decision.sourceTarget
      fellBackToCap := true
      probesUsed := saturatingAdd fb.1.1.probesUsed run.first.1.1.probesUsed }

/-- Each target of a run follows the rule, behind the target before it. -/
def Follows (rule : Option (TargetRun S) → TargetRun S → Prop) :
    Option (TargetRun S) → List (TargetRun S) → Prop
  | _, [] => True
  | previous, run :: runs => rule previous run ∧ Follows rule (some run) runs

theorem carriedDescent_rule (hd : descent.Domain) (enabled : Bool) (marginSteps : Nat)
    {previous : Option (TargetRun S)}
    (hprev : CarriedIn descent (previous.map TargetRun.bracket)) (target : Nat) (s : S) :
    let run := carriedDescent probe maxPerTarget bindSeeking descent
      (.fromDescent descent enabled marginSteps) (previous.map TargetRun.bracket) target s
    CarryRule probe maxPerTarget bindSeeking descent previous run ∧
      CarriedIn descent (some run.bracket) := by
  have hcases := warmStartMv_cases hd hprev enabled marginSteps
  simp only at hcases
  unfold carriedDescent
  simp only
  generalize warmStartMv (previous.map TargetRun.bracket)
    (.fromDescent descent enabled marginSteps) = decision at hcases ⊢
  have hcold : decision.warmStarted = false → decision.startMv = descent.safeStartMv := by
    intro hnot
    rcases hcases with ⟨-, hcap⟩ | ⟨hwarm, -⟩
    · exact hcap
    · rw [hnot] at hwarm
      cases hwarm
  have hwarm : decision.warmStarted = true → ∃ bracket lv b,
      previous.map TargetRun.bracket = some bracket ∧ bracket.isHardFailed = false ∧
      bracket.lowestVerifiedMv = some lv ∧ lv ∈ descent.binsDesc ∧
      descent.startBin decision.startMv = some b ∧ lv ≤ b ∧
      (descent.binsDesc.filter (· ≤ b)).head? = some b := by
    intro hwarm
    rcases hcases with ⟨hnot, -⟩ | ⟨-, bracket, lv, hbracket, hsound, hlv, hmem, hle, hlt⟩
    · rw [hnot] at hwarm
      cases hwarm
    · obtain ⟨b, hb, hbin, hstart⟩ := hd.startBin_eq hmem hlt.le
      obtain ⟨rest, hwalk⟩ := filter_le_eq_cons hd.sorted hbin
      exact ⟨bracket, lv, b, hbracket, hsound, hlv, hmem, hb, by omega, by rw [hwalk]; rfl⟩
  have hfirst : CarriedIn descent (some (descendTarget probe maxPerTarget bindSeeking target
      descent decision.startMv s).1.1) := descendTarget_carried decision.startMv s
  split
  next hfell =>
    simp only [Bool.and_eq_true, beq_iff_eq, Option.isNone_iff_eq_none] at hfell
    obtain ⟨⟨hstarted, hnone⟩, hstop⟩ := hfell
    obtain ⟨bracket, lv, b, hbracket, hsound, hlv, hmem, hb, hle, hhead⟩ := hwarm hstarted
    refine ⟨⟨rfl, hcold, hwarm, rfl, fun hno => (Option.some_ne_none _ hno).elim,
      fun fb hfb => ?_⟩, ?_⟩
    · obtain rfl := Option.some.inj hfb
      refine ⟨hstarted, ⟨b, hb, ?_⟩, rfl, rfl, rfl, rfl⟩
      obtain ⟨rest, hwalk⟩ : ∃ rest, descent.binsDesc.filter (· ≤ b) = b :: rest := by
        cases hlist : descent.binsDesc.filter (· ≤ b) with
        | nil => simp [hlist] at hhead
        | cons c rest =>
          rw [hlist] at hhead
          exact ⟨rest, by rw [Option.some.inj hhead]⟩
      unfold descendTarget at hnone hstop ⊢
      simp only [hb, hwalk] at hnone hstop ⊢
      obtain ⟨hfailure, hstate⟩ := descendBins_unverified hnone hstop
      obtain ⟨hverified, hcrashed, haborted, hdrained⟩ :=
        ProbeSample.unverified_of_failure hfailure
      exact ⟨hverified, hcrashed, haborted, hdrained, hstate⟩
    · intro bracket' hbracket' lv' hlv'
      obtain rfl := Option.some.inj hbracket'
      exact descendTarget_carried descent.safeStartMv _ _ rfl lv' hlv'
  next =>
    refine ⟨⟨rfl, hcold, hwarm, rfl, fun _ => ⟨rfl, rfl⟩, fun fb hfb => by cases hfb⟩, ?_⟩
    intro bracket' hbracket' lv' hlv'
    obtain rfl := Option.some.inj hbracket'
    exact hfirst _ rfl lv' hlv'

theorem targetRuns_follow (hd : descent.Domain) (enabled : Bool) (marginSteps : Nat)
    (clocks : List Nat) (previous : Option (TargetRun S))
    (hprev : CarriedIn descent (previous.map TargetRun.bracket)) (s : S) :
    Follows (CarryRule probe maxPerTarget bindSeeking descent) previous
      (targetRuns probe maxPerTarget bindSeeking descent
        (.fromDescent descent enabled marginSteps) (previous.map TargetRun.bracket) clocks s) := by
  induction clocks generalizing previous s with
  | nil => trivial
  | cons target clocks ih =>
    obtain ⟨hrule, hcarried⟩ := carriedDescent_rule hd enabled marginSteps hprev target s
    exact ⟨hrule, ih (some _) hcarried _⟩

/-- A steady probe gets the same points with the bracket carry as without it; and whatever the
probe, each target of a run keeps the carry rule. -/
theorem runTargetDescents_carry (coreBinsMv : List Nat) (capMv stepMv marginSteps : Nat) :
    (∀ (sample : Nat → Nat → ProbeSample) (clocks : List Nat),
      SteadyProbe sample (deriveDescent coreBinsMv capMv stepMv).binsDesc →
      clocks.Pairwise (· ≥ ·) →
      runTargetDescents (pureProbe sample) none false (deriveDescent coreBinsMv capMv stepMv)
          (.fromDescent (deriveDescent coreBinsMv capMv stepMv) true marginSteps) clocks () =
        runTargetDescents (pureProbe sample) none false (deriveDescent coreBinsMv capMv stepMv)
          (.fromDescent (deriveDescent coreBinsMv capMv stepMv) false marginSteps) clocks ()) ∧
    ∀ (S : Type) (probe : Nat → Nat → S → ProbeSample × S) (maxPerTarget : Option Nat)
      (bindSeeking enabled : Bool) (clocks : List Nat) (s : S),
      Follows (CarryRule probe maxPerTarget bindSeeking (deriveDescent coreBinsMv capMv stepMv))
        none (targetRuns probe maxPerTarget bindSeeking (deriveDescent coreBinsMv capMv stepMv)
          (.fromDescent (deriveDescent coreBinsMv capMv stepMv) enabled marginSteps) none clocks
          s) := by
  have hd := domain_deriveDescent coreBinsMv capMv stepMv
  refine ⟨fun sample clocks hsteady hdesc => ?_, fun S probe maxPerTarget bindSeeking enabled
    clocks s => ?_⟩
  · have hnone : ∀ target ∈ clocks, Carries sample (deriveDescent coreBinsMv capMv stepMv) none
        target := fun _ _ _ hnone => by cases hnone
    exact (hsteady.points_eq hd true marginSteps hdesc hnone ()).trans
      (hsteady.points_eq hd false marginSteps hdesc hnone ()).symm
  · exact targetRuns_follow hd enabled marginSteps clocks none (fun _ hnone => by cases hnone) s

/-- Stable from half the clock upwards. -/
def thresholdSample (target v : Nat) : ProbeSample where
  outcome := if target ≤ 2 * v then .stable else .unstable
  avgClockMhz := target

theorem thresholdSample_steady (bins : List Nat) : SteadyProbe thresholdSample bins := by
  refine ⟨fun _ _ => rfl, fun _ _ => rfl, fun _ _ => rfl, fun _ _ => rfl, ?_⟩
  intro c v c' v' _ _ hc hv hstable
  simp only [thresholdSample] at hstable ⊢
  split at hstable
  next hle => rw [if_pos (by omega)]
  next => cases hstable

def ladderDescent : FrontierDescent := deriveDescent [850, 900, 875, 975, 950, 925] 975 25

/-- With a margin of one bin the second and the third clock start a bin above the bracket before
them, 50 mV and 75 mV below the cap, and end where they end without the carry. -/
theorem runTargetDescents_carry_threshold :
    ((targetRuns (pureProbe thresholdSample) none false ladderDescent
        (.fromDescent ladderDescent true 1) none [1800, 1740, 1700] ()).map fun r =>
          (r.decision.warmStarted, r.first.1.1.highestStartMv, r.bracket.lowestVerifiedMv)) =
      [(false, 975, some 900), (true, 925, some 875), (true, 900, some 850)] ∧
    runTargetDescents (pureProbe thresholdSample) none false ladderDescent
        (.fromDescent ladderDescent true 1) [1800, 1740, 1700] () =
      runTargetDescents (pureProbe thresholdSample) none false ladderDescent
        (.fromDescent ladderDescent false 1) [1800, 1740, 1700] () :=
  ⟨by decide, (runTargetDescents_carry [850, 900, 875, 975, 950, 925] 975 25 1).1 thresholdSample
    [1800, 1740, 1700] (thresholdSample_steady _) (by decide)⟩

end Nidavellir

import Nidavellir.ForgePoint
import Nidavellir.Lib.Descent
import Nidavellir.SafeLoop

namespace Nidavellir

open Descent Extremes

inductive ProbeOutcome
  | stable
  | unstable
deriving DecidableEq

/-- What one probe of a clock at a bin returns, as far as the descent and its points use it. -/
structure ProbeSample where
  outcome : ProbeOutcome
  curveVerified : Bool := true
  avgClockMhz : Nat := 0
  p5ClockMhz : Option Nat := none
  powerW : ℚ := 0
  maxPowerW : ℚ := 0
  powerCappedFrac : ℚ := 1
  vfBinMv : Option Nat := none
  confidence : ℚ := 0
  budgetDrained : Bool := false
  aborted : Bool := false
  crashed : Bool := false

structure FrontierDescent where
  binsDesc : List Nat
  safeStartMv : Nat
  voltageStepMv : Nat
  lowestSafeMv : Nat

def deriveDescent (coreBinsMv : List Nat) (capMv stepMv : Nat) : FrontierDescent :=
  let bins := dedup ((coreBinsMv.filter (· ≤ capMv)).insertionSort (· ≤ ·))
  { binsDesc := bins.reverse
    safeStartMv := bins.getLast?.getD capMv
    voltageStepMv := max stepMv 1
    lowestSafeMv := bins.head?.getD capMv }

inductive BracketStop
  | cleanFloor
  | perTargetCap
  | leftPowerRegime
  | kneeTailComplete
  | softUnstable
  | softUnverified
  | hardFailure
  | budgetExhausted
  | aborted
deriving DecidableEq

structure TargetBracket where
  targetMhz : Nat
  highestStartMv : Nat
  lowestVerifiedMv : Option Nat := none
  firstFailedBelowVerifiedMv : Option Nat := none
  stopReason : BracketStop := .cleanFloor
  bracketSourceTarget : Option Nat := none
  bracketReuseStartMv : Option Nat := none
  bracketReuseMarginMv : Nat := 0
  warmStarted : Bool := false
  fellBackToCap : Bool := false
  probesUsed : Nat := 0
deriving DecidableEq

def TargetBracket.isHardFailed (self : TargetBracket) : Bool :=
  self.stopReason == .hardFailure || self.stopReason == .aborted

structure BracketCarryConfig where
  enabled : Bool
  safeStartCapMv : Nat
  floorMv : Nat
  stepMv : Nat
  marginSteps : Nat

def BracketCarryConfig.fromDescent (d : FrontierDescent) (enabled : Bool) (marginSteps : Nat) :
    BracketCarryConfig where
  enabled := enabled
  safeStartCapMv := d.safeStartMv
  floorMv := d.lowestSafeMv
  stepMv := d.voltageStepMv
  marginSteps := marginSteps

def BracketCarryConfig.marginMv (self : BracketCarryConfig) : Nat :=
  min (self.marginSteps * self.stepMv) u32Max

inductive WarmStartReason
  | disabled
  | firstTarget
  | noBracket
  | hardFailure
  | carried
deriving DecidableEq

structure WarmStartDecision where
  startMv : Nat
  warmStarted : Bool
  sourceTarget : Option Nat
  reason : WarmStartReason

/-- The clamp of the start, whose bounds are in order for a bracket of the same descent. -/
def warmStartMv (prev : Option TargetBracket) (cfg : BracketCarryConfig) : WarmStartDecision :=
  let cap := cfg.safeStartCapMv
  let atCap (reason : WarmStartReason) : WarmStartDecision := ⟨cap, false, none, reason⟩
  if !cfg.enabled then atCap .disabled
  else
    match prev with
    | none => atCap .firstTarget
    | some prev =>
      if prev.isHardFailed then atCap .hardFailure
      else
        match prev.lowestVerifiedMv with
        | none => atCap .noBracket
        | some lv =>
          let lower := max lv cfg.floorMv
          let start := max lower (min (saturatingAdd lv cfg.marginMv) cap)
          let warmStarted := decide (start < cap)
          ⟨start, warmStarted, some prev.targetMhz, if warmStarted then .carried else .noBracket⟩

def bindCapFrac : ℚ := 1 / 2

def validCapFrac (f : ℚ) : Option ℚ := if 0 ≤ f ∧ f ≤ 1 then some f else none

/-- Never the bin a descent starts with. -/
def bindEligible (probesBefore curBinMv startBinMv : Nat) : Bool :=
  decide (1 ≤ probesBefore) && curBinMv != startBinMv

def ProbeSample.sampleBindable (s : ProbeSample) : Bool :=
  s.curveVerified && s.outcome == .stable && !s.crashed && !s.aborted && !s.budgetDrained

/-- Whether the probe binds: the card has left the power-limited regime. -/
def classifyBinding (s : ProbeSample) (eligible : Bool) : Bool :=
  eligible && s.sampleBindable && (validCapFrac s.powerCappedFrac).any (· ≤ bindCapFrac)

def probeToPoint (targetMhz vbin : Nat) (s : ProbeSample) : PowerSweepPoint where
  clockMhz := s.avgClockMhz
  offsetMhz := 0
  powerW := s.powerW
  maxPowerW := s.maxPowerW
  powerCappedFrac := s.powerCappedFrac
  perfPerWatt := if 0 < s.powerW then s.avgClockMhz / s.powerW else 0
  vfTableVoltageMv := s.vfBinMv.or (some vbin)
  p5ClockMhz := s.p5ClockMhz
  targetClockMhz := some targetMhz

/-- Why a sample ends a descent: the drains and the crash stand before the verdicts. -/
def ProbeSample.failure (s : ProbeSample) : Option BracketStop :=
  if s.crashed then some .hardFailure
  else if s.aborted then some .aborted
  else if s.budgetDrained then some .budgetExhausted
  else if !s.curveVerified then some .softUnverified
  else
    match s.outcome with
    | .stable => none
    | .unstable => some .softUnstable

def BracketStop.isVerdict : BracketStop → Bool
  | softUnverified | softUnstable => true
  | _ => false

/-- The lowest bin at or above the requested start, else the top bin. -/
def FrontierDescent.startBin (descent : FrontierDescent) (startMv : Nat) : Option Nat :=
  (descent.binsDesc.filter (startMv ≤ ·)).min?.or descent.binsDesc.head?

/-- A point and its confidence. -/
abbrev DescentPoint := PowerSweepPoint × ℚ

section Descent

variable {S : Type*} (probe : Nat → Nat → S → ProbeSample × S) (maxPerTarget : Option Nat)
  (bindSeeking : Bool) (target startBin : Nat)

def descendBins : List Nat → TargetBracket → Option DescentPoint → S →
    (TargetBracket × Option DescentPoint) × S
  | [], bracket, deepest, s => ((bracket, deepest), s)
  | v :: bins, bracket, deepest, s =>
    if maxPerTarget.any (· ≤ bracket.probesUsed) then
      (({ bracket with stopReason := .perTargetCap }, deepest), s)
    else
      let (sample, s) := probe target v s
      let bracket := { bracket with probesUsed := bracket.probesUsed + 1 }
      match sample.failure with
      | some stop =>
        (({ bracket with
          stopReason := stop
          firstFailedBelowVerifiedMv :=
            if stop.isVerdict then some v else bracket.firstFailedBelowVerifiedMv }, deepest), s)
      | none =>
        let deepest := some (probeToPoint target v sample, sample.confidence)
        let bracket := { bracket with lowestVerifiedMv := some v }
        if bindSeeking && classifyBinding sample
            (bindEligible (bracket.probesUsed - 1) v startBin) then
          (({ bracket with stopReason := .leftPowerRegime }, deepest), s)
        else descendBins bins bracket deepest s

/-- One target's descent from `startMv`; without a bin there is nothing to probe. -/
def descendTarget (descent : FrontierDescent) (startMv : Nat) (s : S) :
    (TargetBracket × Option DescentPoint) × S :=
  let bracket : TargetBracket := { targetMhz := target, highestStartMv := startMv }
  match descent.startBin startMv with
  | none => ((bracket, none), s)
  | some startBin =>
    descendBins probe maxPerTarget bindSeeking target startBin
      (descent.binsDesc.filter (· ≤ startBin)) bracket none s

end Descent

/-- One target of a run: the bracket carried to it, its descent, and the one from the cap where
the run fell back. -/
structure TargetRun (S : Type*) where
  target : Nat
  prev : Option TargetBracket
  decision : WarmStartDecision
  entry : S
  first : (TargetBracket × Option DescentPoint) × S
  fallback : Option ((TargetBracket × Option DescentPoint) × S)
  bracket : TargetBracket
  point : Option DescentPoint
  exit : S

section Run

variable {S : Type*} (probe : Nat → Nat → S → ProbeSample × S) (maxPerTarget : Option Nat)
  (bindSeeking : Bool) (descent : FrontierDescent) (carry : BracketCarryConfig)

/-- The body of the loop over the targets. -/
def carriedDescent (prev : Option TargetBracket) (target : Nat) (s : S) : TargetRun S :=
  let decision := warmStartMv prev carry
  let first := descendTarget probe maxPerTarget bindSeeking target descent decision.startMv s
  let bracket : TargetBracket := { first.1.1 with
    warmStarted := decision.warmStarted
    bracketSourceTarget := decision.sourceTarget
    bracketReuseStartMv := if decision.warmStarted then some decision.startMv else none
    bracketReuseMarginMv := if decision.warmStarted then carry.marginMv else 0 }
  if decision.warmStarted && bracket.lowestVerifiedMv.isNone &&
      bracket.stopReason == .softUnverified then
    let fb := descendTarget probe maxPerTarget bindSeeking target descent carry.safeStartCapMv
      first.2
    { target, prev, decision, entry := s, first, fallback := some fb
      bracket := { fb.1.1 with
        bracketSourceTarget := decision.sourceTarget
        fellBackToCap := true
        probesUsed := saturatingAdd fb.1.1.probesUsed bracket.probesUsed }
      point := fb.1.2
      exit := fb.2 }
  else
    { target, prev, decision, entry := s, first, fallback := none, bracket, point := first.1.2
      exit := first.2 }

def targetRuns : Option TargetBracket → List Nat → S → List (TargetRun S)
  | _, [], _ => []
  | prev, target :: clocks, s =>
    let run := carriedDescent probe maxPerTarget bindSeeking descent carry prev target s
    run :: targetRuns (some run.bracket) clocks run.exit

/-- The points of the targets; the log lines are left out. -/
def runTargetDescents (clocks : List Nat) (s : S) : List DescentPoint :=
  (targetRuns probe maxPerTarget bindSeeking descent carry none clocks s).filterMap
    TargetRun.point

end Run

/-- The bins of a descent, from the start down to the floor. -/
structure FrontierDescent.Domain (d : FrontierDescent) : Prop where
  sorted : d.binsDesc.Pairwise (· > ·)
  start : d.binsDesc ≠ [] → d.safeStartMv ∈ d.binsDesc
  le_start : ∀ v ∈ d.binsDesc, v ≤ d.safeStartMv
  floor_le : ∀ v ∈ d.binsDesc, d.lowestSafeMv ≤ v

theorem domain_deriveDescent (coreBinsMv : List Nat) (capMv stepMv : Nat) :
    (deriveDescent coreBinsMv capMv stepMv).Domain := by
  unfold deriveDescent
  have hsorted : (dedup ((coreBinsMv.filter (· ≤ capMv)).insertionSort (· ≤ ·))).Pairwise
      (· < ·) := by
    have hle := (List.pairwise_insertionSort (· ≤ ·) (coreBinsMv.filter (· ≤ capMv)))
    have hsub := hle.sublist (List.destutter_sublist (· ≠ ·) _)
    have hnodup : (dedup _).Nodup := nodup_dedup hle
    exact (hsub.and hnodup).imp fun h => lt_of_le_of_ne h.1 h.2
  generalize dedup ((coreBinsMv.filter (· ≤ capMv)).insertionSort (· ≤ ·)) = bins at hsorted
  refine ⟨List.pairwise_reverse.mpr hsorted, fun hne => ?_, fun v hv => ?_, ?_⟩
  · rcases List.eq_nil_or_concat' bins with rfl | ⟨init, last, rfl⟩
    · exact (hne rfl).elim
    · simp
  · have hmem : v ∈ bins := List.mem_reverse.mp hv
    rcases List.eq_nil_or_concat' bins with rfl | ⟨init, last, rfl⟩
    · cases hmem
    · show v ≤ (init ++ [last]).getLast?.getD capMv
      rw [List.getLast?_concat, Option.getD_some]
      rcases List.mem_append.mp hmem with hinit | hlast
      · exact ((List.pairwise_append.mp hsorted).2.2 v hinit last (by simp)).le
      · exact (List.mem_singleton.mp hlast).le
  · intro v hv
    have hmem : v ∈ bins := List.mem_reverse.mp hv
    cases bins with
    | nil => cases hmem
    | cons first rest =>
      rcases List.mem_cons.mp hmem with rfl | hrest
      · exact le_rfl
      · exact ((List.pairwise_cons.mp hsorted).1 v hrest).le

namespace FrontierDescent.Domain

variable {d : FrontierDescent} {startMv lv : Nat}

/-- A start between a bin and the cap snaps up to a bin. -/
theorem startBin_eq (hd : d.Domain) (hlv : lv ∈ d.binsDesc) (hstart : startMv ≤ d.safeStartMv) :
    ∃ b, d.startBin startMv = some b ∧ b ∈ d.binsDesc ∧ startMv ≤ b := by
  have hcap : d.safeStartMv ∈ d.binsDesc.filter (startMv ≤ ·) :=
    List.mem_filter.mpr ⟨hd.start (List.ne_nil_of_mem hlv), by simpa using hstart⟩
  cases hmin : (d.binsDesc.filter (startMv ≤ ·)).min? with
  | none =>
    rw [List.min?_eq_none_iff] at hmin
    rw [hmin] at hcap
    cases hcap
  | some b =>
    obtain ⟨hmem, -⟩ := List.min?_eq_some_iff.mp hmin
    obtain ⟨hbin, hle⟩ := List.mem_filter.mp hmem
    exact ⟨b, by simp [startBin, hmin], hbin, by simpa using hle⟩

theorem startBin_cap (hd : d.Domain) (hne : d.binsDesc ≠ []) :
    d.startBin d.safeStartMv = some d.safeStartMv := by
  obtain ⟨b, hb, hbin, hle⟩ := hd.startBin_eq (hd.start hne) le_rfl
  rw [hb, le_antisymm (hd.le_start b hbin) hle]

theorem filter_cap (hd : d.Domain) : d.binsDesc.filter (· ≤ d.safeStartMv) = d.binsDesc :=
  List.filter_eq_self.mpr fun v hv => by simpa using hd.le_start v hv

end FrontierDescent.Domain

/-- A probe that always verifies and completes, and whose stability a lower clock or a higher bin
never loses. -/
structure SteadyProbe (sample : Nat → Nat → ProbeSample) (bins : List Nat) : Prop where
  verified : ∀ c v, (sample c v).curveVerified = true
  crashed : ∀ c v, (sample c v).crashed = false
  aborted : ∀ c v, (sample c v).aborted = false
  budgetDrained : ∀ c v, (sample c v).budgetDrained = false
  mono : ∀ c v c' v', v ∈ bins → v' ∈ bins → c' ≤ c → v ≤ v' →
    (sample c v).outcome = .stable → (sample c' v').outcome = .stable

section Steady

variable {S : Type*} {sample : Nat → Nat → ProbeSample} {bins : List Nat}
  {descent : FrontierDescent} {target startBin : Nat}

def stableAt (sample : Nat → Nat → ProbeSample) (target v : Nat) : Bool :=
  (sample target v).outcome == .stable

def pointAt (sample : Nat → Nat → ProbeSample) (target v : Nat) : DescentPoint :=
  (probeToPoint target v (sample target v), (sample target v).confidence)

/-- A probe that answers from the pair alone. -/
def pureProbe (sample : Nat → Nat → ProbeSample) (target v : Nat) (s : S) : ProbeSample × S :=
  (sample target v, s)

theorem SteadyProbe.failure_eq (h : SteadyProbe sample bins) (target v : Nat) :
    (sample target v).failure =
      if stableAt sample target v then none else some .softUnstable := by
  unfold ProbeSample.failure stableAt
  rw [h.crashed, h.aborted, h.budgetDrained, h.verified]
  cases (sample target v).outcome <;> rfl

/-- A descent keeps the deepest stable bin and its point, and never stops unverified. -/
theorem SteadyProbe.descendBins_eq (h : SteadyProbe sample bins) (walk : List Nat)
    (bracket : TargetBracket) (deepestPoint : Option DescentPoint) (s : S) :
    let result := descendBins (pureProbe sample) none false target startBin walk bracket
      deepestPoint s
    result.1.2 = ((deepest (stableAt sample target) walk).map (pointAt sample target)).or
        deepestPoint ∧
      result.1.1.lowestVerifiedMv =
        (deepest (stableAt sample target) walk).or bracket.lowestVerifiedMv ∧
      (bracket.stopReason ≠ .softUnverified → result.1.1.stopReason ≠ .softUnverified) := by
  induction walk generalizing bracket deepestPoint with
  | nil => exact ⟨rfl, rfl, id⟩
  | cons v walk ih =>
    cases hstable : stableAt sample target v with
    | false =>
      rw [deepest_cons_of_neg hstable]
      have hfailure : (sample target v).failure = some .softUnstable := by
        rw [h.failure_eq, hstable]
        rfl
      have hstep : descendBins (pureProbe sample) none false target startBin (v :: walk) bracket
          deepestPoint s = (({ bracket with
            stopReason := .softUnstable
            firstFailedBelowVerifiedMv := some v
            probesUsed := bracket.probesUsed + 1 }, deepestPoint), s) := by
        simp [descendBins, pureProbe, hfailure, BracketStop.isVerdict]
      rw [hstep]
      exact ⟨rfl, rfl, fun _ => BracketStop.noConfusion⟩
    | true =>
      rw [deepest_cons_of_pos hstable]
      have hfailure : (sample target v).failure = none := by
        rw [h.failure_eq, hstable]
        rfl
      have hstep : descendBins (pureProbe sample) none false target startBin (v :: walk) bracket
          deepestPoint s = descendBins (pureProbe sample) none false target startBin walk
            { bracket with probesUsed := bracket.probesUsed + 1, lowestVerifiedMv := some v }
            (some (pointAt sample target v)) s := by
        simp [descendBins, pureProbe, hfailure, pointAt]
      rw [hstep]
      obtain ⟨hpoint, hverified, hstop⟩ := ih
        { bracket with probesUsed := bracket.probesUsed + 1, lowestVerifiedMv := some v }
        (some (pointAt sample target v))
      refine ⟨hpoint.trans ?_, hverified.trans ?_, hstop⟩
      · cases deepest (stableAt sample target) walk <;> rfl
      · cases deepest (stableAt sample target) walk <;> rfl

/-- The descent found the deepest stable bin of the whole domain. -/
structure Lands (sample : Nat → Nat → ProbeSample) (descent : FrontierDescent) (target : Nat)
    (result : (TargetBracket × Option DescentPoint) × S) : Prop where
  point : result.1.2 =
    (deepest (stableAt sample target) descent.binsDesc).map (pointAt sample target)
  lowestVerifiedMv : result.1.1.lowestVerifiedMv =
    deepest (stableAt sample target) descent.binsDesc
  stopReason : result.1.1.stopReason ≠ .softUnverified

theorem SteadyProbe.lands_cold (h : SteadyProbe sample descent.binsDesc) (hd : descent.Domain)
    (target : Nat) (s : S) :
    Lands sample descent target
      (descendTarget (pureProbe sample) none false target descent descent.safeStartMv s) := by
  unfold descendTarget
  by_cases hempty : descent.binsDesc = []
  · have hnone : descent.startBin descent.safeStartMv = none := by
      simp [FrontierDescent.startBin, hempty]
    rw [hnone]
    exact ⟨by rw [hempty]; rfl, by rw [hempty]; rfl, BracketStop.noConfusion⟩
  · rw [hd.startBin_cap hempty]
    simp only [hd.filter_cap]
    obtain ⟨hpoint, hverified, hstop⟩ := h.descendBins_eq descent.binsDesc
      { targetMhz := target, highestStartMv := descent.safeStartMv } none s
    exact ⟨by simpa using hpoint, by simpa using hverified, hstop BracketStop.noConfusion⟩

theorem SteadyProbe.lands_warm (h : SteadyProbe sample descent.binsDesc) (hd : descent.Domain)
    {target lv startMv : Nat} (hlv : lv ∈ descent.binsDesc)
    (hstable : ∀ v ∈ descent.binsDesc, lv ≤ v → stableAt sample target v = true)
    (hle : lv ≤ startMv) (hcap : startMv ≤ descent.safeStartMv) (s : S) :
    Lands sample descent target
      (descendTarget (pureProbe sample) none false target descent startMv s) := by
  obtain ⟨b, hb, hbin, hstart⟩ := hd.startBin_eq hlv hcap
  have hwalk : deepest (stableAt sample target) (descent.binsDesc.filter (· ≤ b)) =
      deepest (stableAt sample target) descent.binsDesc :=
    deepest_filter_le hd.sorted hbin fun v hv hbv => hstable v hv (by omega)
  unfold descendTarget
  rw [hb]
  obtain ⟨hpoint, hverified, hstop⟩ := h.descendBins_eq (descent.binsDesc.filter (· ≤ b))
    { targetMhz := target, highestStartMv := startMv } none s
  rw [hwalk] at hpoint hverified
  exact ⟨by simpa using hpoint, by simpa using hverified, hstop BracketStop.noConfusion⟩

end Steady

/-- The floor that a carried bracket names is a bin of the descent. -/
def CarriedIn (descent : FrontierDescent) (prev : Option TargetBracket) : Prop :=
  ∀ bracket, prev = some bracket → ∀ lv, bracket.lowestVerifiedMv = some lv →
    lv ∈ descent.binsDesc

/-- A descent starts at the cap, or at or above the floor of a bracket that did not hard-fail. -/
theorem warmStartMv_cases {descent : FrontierDescent} (hd : descent.Domain)
    {prev : Option TargetBracket} (hprev : CarriedIn descent prev) (enabled : Bool)
    (marginSteps : Nat) :
    let decision := warmStartMv prev (.fromDescent descent enabled marginSteps)
    (decision.warmStarted = false ∧ decision.startMv = descent.safeStartMv) ∨
      decision.warmStarted = true ∧ ∃ bracket lv, prev = some bracket ∧
        bracket.isHardFailed = false ∧ bracket.lowestVerifiedMv = some lv ∧
        lv ∈ descent.binsDesc ∧ lv ≤ decision.startMv ∧ decision.startMv < descent.safeStartMv := by
  unfold warmStartMv
  simp only
  split
  next => exact .inl ⟨rfl, rfl⟩
  next =>
    split
    next => exact .inl ⟨rfl, rfl⟩
    next bracket =>
      split
      next => exact .inl ⟨rfl, rfl⟩
      next hsound =>
        split
        next => exact .inl ⟨rfl, rfl⟩
        next lv hlv =>
          have hmem := hprev bracket rfl lv hlv
          have hcap := hd.le_start lv hmem
          have hfloor := hd.floor_le lv hmem
          simp only [BracketCarryConfig.fromDescent, max_eq_left hfloor]
          rcases lt_or_ge (max lv (min (saturatingAdd lv
              (BracketCarryConfig.fromDescent descent enabled marginSteps).marginMv)
              descent.safeStartMv)) descent.safeStartMv with hlt | hge
          · exact .inr ⟨decide_eq_true hlt, bracket, lv, rfl, by simpa using hsound, hlv, hmem,
              le_max_left _ _, hlt⟩
          · refine .inl ⟨decide_eq_false (not_lt.mpr hge), le_antisymm ?_ hge⟩
            exact max_le hcap (min_le_right _ _)

section SteadyRun

variable {S : Type*} {sample : Nat → Nat → ProbeSample} {descent : FrontierDescent}

/-- At and above the floor that is carried to a target, all its bins are stable. -/
def Carries (sample : Nat → Nat → ProbeSample) (descent : FrontierDescent)
    (prev : Option TargetBracket) (target : Nat) : Prop :=
  ∀ bracket, prev = some bracket → ∀ lv, bracket.lowestVerifiedMv = some lv →
    lv ∈ descent.binsDesc ∧ ∀ v ∈ descent.binsDesc, lv ≤ v → stableAt sample target v = true

theorem SteadyProbe.carriedDescent_eq (h : SteadyProbe sample descent.binsDesc)
    (hd : descent.Domain) (enabled : Bool) (marginSteps : Nat) {prev : Option TargetBracket}
    {target : Nat} (hprev : Carries sample descent prev target) (s : S) :
    let run := carriedDescent (pureProbe sample) none false descent
      (.fromDescent descent enabled marginSteps) prev target s
    run.point = (deepest (stableAt sample target) descent.binsDesc).map (pointAt sample target) ∧
      run.bracket.lowestVerifiedMv = deepest (stableAt sample target) descent.binsDesc := by
  have hcarried : CarriedIn descent prev := fun bracket hbracket lv hlv =>
    (hprev bracket hbracket lv hlv).1
  have hlands : Lands sample descent target (descendTarget (pureProbe sample) none false target
      descent (warmStartMv prev (.fromDescent descent enabled marginSteps)).startMv s) := by
    rcases warmStartMv_cases hd hcarried enabled marginSteps with
      ⟨-, hcap⟩ | ⟨-, bracket, lv, hbracket, -, hlv, hmem, hle, hlt⟩
    · rw [hcap]
      exact h.lands_cold hd target s
    · exact h.lands_warm hd hmem (hprev bracket hbracket lv hlv).2 hle hlt.le s
  have hstop : ((descendTarget (pureProbe sample) none false target descent
      (warmStartMv prev (.fromDescent descent enabled marginSteps)).startMv s).1.1.stopReason ==
        .softUnverified) = false := beq_false_of_ne hlands.stopReason
  simp only [carriedDescent, hstop, Bool.and_false, Bool.false_eq_true, if_false]
  exact ⟨hlands.point, hlands.lowestVerifiedMv⟩

/-- A harder target's floor carries to every easier one. -/
theorem SteadyProbe.carries (h : SteadyProbe sample descent.binsDesc) {bracket : TargetBracket}
    {target easier : Nat} (hle : easier ≤ target)
    (hlowest : bracket.lowestVerifiedMv = deepest (stableAt sample target) descent.binsDesc) :
    Carries sample descent (some bracket) easier := by
  intro bracket' hbracket lv hlv
  obtain rfl := Option.some.inj hbracket
  obtain ⟨hmem, hstable⟩ := mem_of_deepest (hlowest.symm.trans hlv)
  refine ⟨hmem, fun v hv hlvv => beq_iff_eq.mpr ?_⟩
  exact h.mono target lv easier v hmem hv hle hlvv (beq_iff_eq.mp hstable)

/-- With or without the carried bracket, each target gets its deepest stable bin. -/
theorem SteadyProbe.points_eq (h : SteadyProbe sample descent.binsDesc) (hd : descent.Domain)
    (enabled : Bool) (marginSteps : Nat) {clocks : List Nat} (hdesc : clocks.Pairwise (· ≥ ·))
    {prev : Option TargetBracket}
    (hprev : ∀ target ∈ clocks, Carries sample descent prev target) (s : S) :
    (targetRuns (pureProbe sample) none false descent
      (.fromDescent descent enabled marginSteps) prev clocks s).filterMap TargetRun.point =
      clocks.filterMap fun target =>
        (deepest (stableAt sample target) descent.binsDesc).map (pointAt sample target) := by
  induction clocks generalizing prev s with
  | nil => rfl
  | cons target clocks ih =>
    obtain ⟨hhead, htail⟩ := List.pairwise_cons.mp hdesc
    obtain ⟨hpoint, hlowest⟩ := h.carriedDescent_eq hd enabled marginSteps
      (hprev target List.mem_cons_self) s
    have hrest := ih htail (fun easier heasier => h.carries (hhead easier heasier) hlowest)
      (carriedDescent (pureProbe sample) none false descent
        (.fromDescent descent enabled marginSteps) prev target s).exit
    rw [targetRuns, List.filterMap_cons, List.filterMap_cons, hpoint, hrest]

end SteadyRun

end Nidavellir

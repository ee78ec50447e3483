import Nidavellir.FrontierCalls
import Nidavellir.FrontierPlan

namespace Nidavellir

open Calls Extremes

structure FrontierBuildResult where
  frontier : List PowerSweepPoint
  profiles : ForgeProfiles

section Builders

variable {S : Type*} (probe : Nat → Nat → S → ProbeSample × S) (maxPerTarget : Option Nat)
  (bindSeeking : Bool) (descent : FrontierDescent) (carry : BracketCarryConfig)

/-- The single pass, and the state it leaves; its log lines are left out. -/
def buildFrontier (policy : ForgePolicy) (clocks : List Nat) (s : S) : FrontierBuildResult × S :=
  let paired := runTargetDescents probe maxPerTarget bindSeeking descent carry clocks s
  ({ frontier := paired.map Prod.fst, profiles := synthesizeForgeProfiles paired policy },
    phaseAExit (targetRuns probe maxPerTarget bindSeeking descent carry none clocks s) s)

end Builders

/-- What answers a run: call by call of its probe, whether the stop flag is set, and what card and
disk say where the call reaches them; at its end, whether the reset and the clear work. -/
structure ForgeEnvironment where
  stop : Nat → Bool := fun _ => false
  answers : Nat → ProbeAnswers
  reset : Bool := true
  clear : FileResult := .done

/-- A call that reached `real_probe_step`. -/
structure ReachedProbe where
  target : Nat
  vbin : Nat
  run : ProbeRun

/-- What the closure of a run carries from call to call. -/
structure ClosureState where
  calls : Nat := 0
  probeCount : Nat := 0
  abort : Bool := false
  reached : List ReachedProbe := []

def drainedProbe : ProbeSample := { unverifiedProbe with budgetDrained := true }

section Closure

variable (env : ForgeEnvironment) (maxProbes : Option Nat) (descent : FrontierDescent)

def reachCard (target vbin : Nat) (s : ClosureState) : ProbeSample × ClosureState :=
  let run := realProbeStep (env.answers s.calls) s.abort descent target vbin
  (run.sample, { s with
    calls := s.calls + 1
    abort := run.abort
    reached := s.reached ++ [⟨target, vbin, run⟩] })

/-- The stop flag first, then the budget, whose counter wraps as a `u32` does. -/
def closureProbe (target vbin : Nat) (s : ClosureState) : ProbeSample × ClosureState :=
  if env.stop s.calls then (drainedProbe, { s with calls := s.calls + 1 })
  else
    match maxProbes with
    | none => reachCard env descent target vbin s
    | some mp =>
      let counted := { s with probeCount := (s.probeCount + 1) % 2 ^ 32 }
      if mp ≤ s.probeCount then (drainedProbe, { counted with calls := s.calls + 1 })
      else reachCard env descent target vbin counted

end Closure

structure MultiClockForgeResult where
  frontier : List PowerSweepPoint
  profiles : ForgeProfiles
  estWallS : Nat
  detectedClockMhz : Nat
  aborted : Bool

/-- A run: its setup, what it returns, and everything it did, in order. -/
structure MulticlockRun where
  setup : FrontierSetup
  result : MultiClockForgeResult
  reached : List ReachedProbe
  events : List ProbeEvent

/-- The supervised run; every run behind its guards ends with the reset and the clear. -/
def measureMulticlockForge (supported : Bool) (live : List VfBin) (snap : Option RegimeReading)
    (env : ForgeEnvironment) (limits : FrontierLimits) : Except String MulticlockRun :=
  match frontierSetup supported live snap limits with
  | .error e => .error e
  | .ok setup =>
    let policy := ForgePolicy.balanced
    let probe := closureProbe env limits.maxProbes setup.descent
    let carry := BracketCarryConfig.fromDescent setup.descent limits.warmStartBrackets
      frontierWarmStartMarginSteps
    let (built, s) : FrontierBuildResult × ClosureState :=
      if limits.powerBoundKneeSeeking then
        let (two, s) := buildFrontierTwoPhase probe limits.maxProbesPerTarget limits.bindSeeking
          setup.descent carry policy setup.targets
          (some (limits.phaseBProbes.getD frontierPhaseBProbes)) {}
        (⟨two.frontier, two.profiles⟩, s)
      else
        buildFrontier probe limits.maxProbesPerTarget limits.bindSeeking setup.descent carry
          policy setup.targets {}
    .ok
      { setup
        result :=
          { frontier := built.frontier
            profiles := built.profiles
            estWallS := setup.cappedDwells * (dwellMs + probeOverheadMs) / 1000
            detectedClockMhz := setup.seed.stockSustainedMhz
            aborted := s.abort }
        reached := s.reached
        events := s.reached.flatMap (fun r => r.run.events) ++
          [.reset env.reset, .clear env.clear] }

def ProbeEvent.isWrite : ProbeEvent → Bool
  | .write .. => true
  | _ => false

def ProbeEvent.isCrash : ProbeEvent → Bool
  | .dwell result => result == .crash
  | _ => false

def ProbeEvent.isDwell : ProbeEvent → Bool
  | .dwell _ => true
  | _ => false

/-- A probe writes once at most, and dwells only behind its write. -/
theorem realProbeStep_writes_le (answers : ProbeAnswers) (abort : Bool)
    (descent : FrontierDescent) (target vbin : Nat) :
    let events := (realProbeStep answers abort descent target vbin).events
    events.countP ProbeEvent.isWrite ≤ 1 ∧
      events.countP ProbeEvent.isDwell ≤ events.countP ProbeEvent.isWrite := by
  unfold realProbeStep
  split
  next => exact ⟨Nat.zero_le _, le_rfl⟩
  next =>
    split
    next => exact ⟨Nat.zero_le _, le_rfl⟩
    next =>
      split
      next => exact ⟨Nat.zero_le _, le_rfl⟩
      next =>
        simp only
        split
        next => exact ⟨le_rfl, Nat.zero_le _⟩
        next =>
          split
          next => exact ⟨le_rfl, le_rfl⟩
          next => exact ⟨le_rfl, le_rfl⟩

/-- A dwell that crashes is the last thing of its probe but the clear and the reset, and raises the
abort flag; nothing else does. -/
theorem realProbeStep_crash (answers : ProbeAnswers) (abort : Bool) (descent : FrontierDescent)
    (target vbin : Nat) :
    let run := realProbeStep answers abort descent target vbin
    (run.abort = abort ∧ run.events.any ProbeEvent.isCrash = false) ∨
      (abort = false ∧ run.abort = true ∧ ∃ before : List ProbeEvent,
        before.any ProbeEvent.isCrash = false ∧
        run.events = before ++ [.dwell .crash, .clear answers.clear, .reset answers.reset]) := by
  unfold realProbeStep
  simp only
  split
  next => exact .inl ⟨rfl, rfl⟩
  next habort =>
    split
    next => exact .inl ⟨rfl, rfl⟩
    next =>
      split
      next => exact .inl ⟨rfl, rfl⟩
      next ceilingMv _ =>
        split
        next => exact .inl ⟨rfl, rfl⟩
        next =>
          split
          next hcrash =>
            have hresult : answers.measured.result = .crash := by simpa using hcrash
            refine .inr ⟨Bool.eq_false_iff.mpr habort, rfl,
              [.arm ⟨pairIntent target ceilingMv, "f1b_frontier", answers.now⟩ answers.arm,
                .write ceilingMv target answers.write], rfl, ?_⟩
            rw [hresult]
            rfl
          next hcrash =>
            refine .inl ⟨rfl, ?_⟩
            simp only [List.cons_append, List.nil_append, List.any_cons, List.any_nil,
              ProbeEvent.isCrash, Bool.false_or, Bool.or_false]
            exact Bool.eq_false_iff.mpr hcrash

/-- Behind the abort flag a probe does nothing. -/
theorem realProbeStep_aborted (answers : ProbeAnswers) (descent : FrontierDescent)
    (target vbin : Nat) : (realProbeStep answers true descent target vbin).events = [] := rfl

/-- A sample that ends nothing is that of a verified ceiling and a stable dwell. -/
theorem realProbeStep_kept {answers : ProbeAnswers} {abort : Bool} {descent : FrontierDescent}
    {target vbin : Nat}
    (h : (realProbeStep answers abort descent target vbin).sample.failure = none) :
    ∃ idx ceilingMv flag, nearestVfBinAtOrAbove answers.live vbin = some (idx, ceilingMv) ∧
      (realProbeStep answers abort descent target vbin).events =
        [.arm flag answers.arm, .write ceilingMv target .accepted, .dwell .stable,
          .clear answers.clear] ∧
      answers.verified = true ∧
      (realProbeStep answers abort descent target vbin).sample.vfBinMv = some ceilingMv := by
  unfold realProbeStep at h ⊢
  split at h
  next => cases h
  next habort =>
    rw [if_neg habort]
    split at h
    next => cases h
    next hfloor =>
      rw [if_neg hfloor]
      split at h
      next => cases h
      next idx ceilingMv hbin =>
        simp only at h
        split at h
        next => cases h
        next hdwelt =>
          obtain ⟨hwrite, hverified⟩ : answers.write = .accepted ∧ answers.verified = true := by
            simpa using hdwelt
          split at h
          next => cases h
          next hcrash =>
            have hstable : answers.measured.result = .stable := by
              by_contra hunstable
              simp [ProbeSample.failure, measuredToProbe, StabilityResult.isStable,
                hunstable] at h
            simp only [hbin]
            rw [if_neg hdwelt, if_neg hcrash]
            exact ⟨idx, ceilingMv, _, rfl, by rw [hwrite, hstable]; rfl, hverified, rfl⟩

namespace ClosureState

def events (s : ClosureState) : List ProbeEvent := s.reached.flatMap fun r => r.run.events

/-- The counter counts, as long as it cannot have wrapped. -/
def Counts (maxProbes : Option Nat) (s : ClosureState) : Prop :=
  s.reached.length ≤ s.calls ∧
    (s.calls < 2 ^ 32 → s.probeCount ≤ s.calls ∧
      ∀ mp, maxProbes = some mp → s.reached.length ≤ s.probeCount ∧ s.reached.length ≤ mp)

/-- Nothing has crashed, or the crash is the last that happened. -/
def Drained (s : ClosureState) : Prop :=
  (s.abort = false ∧ s.events.any ProbeEvent.isCrash = false) ∨
    (s.abort = true ∧ ∃ (before : List ProbeEvent) (clear : FileResult) (reset : Bool),
      before.any ProbeEvent.isCrash = false ∧
      s.events = before ++ [.dwell .crash, .clear clear, .reset reset])

/-- Every probe that was reached is one of the pairs, asked as the code asks it. -/
def Within (env : ForgeEnvironment) (descent : FrontierDescent) (pair : Nat × Nat → Prop)
    (s : ClosureState) : Prop :=
  ∀ r ∈ s.reached, pair (r.target, r.vbin) ∧
    ∃ k abort, r.run = realProbeStep (env.answers k) abort descent r.target r.vbin

end ClosureState

section Steps

variable {env : ForgeEnvironment} {maxProbes : Option Nat} {descent : FrontierDescent}
  {target vbin : Nat} {s : ClosureState}

/-- A call drains and reaches nothing, or the card answers it; a drained one ends its descent. -/
theorem closureProbe_cases (env : ForgeEnvironment) (maxProbes : Option Nat)
    (descent : FrontierDescent) (target vbin : Nat) (s : ClosureState) :
    ∃ counted : ClosureState, counted.calls = s.calls ∧ counted.abort = s.abort ∧
      counted.reached = s.reached ∧
      ((closureProbe env maxProbes descent target vbin s =
          (drainedProbe, { counted with calls := s.calls + 1 }) ∧
        (counted.probeCount = s.probeCount ∨
          counted.probeCount = (s.probeCount + 1) % 2 ^ 32)) ∨
        (closureProbe env maxProbes descent target vbin s =
            reachCard env descent target vbin counted ∧
          env.stop s.calls = false ∧
          ((maxProbes = none ∧ counted.probeCount = s.probeCount) ∨
            ∃ mp, maxProbes = some mp ∧ s.probeCount < mp ∧
              counted.probeCount = (s.probeCount + 1) % 2 ^ 32))) := by
  unfold closureProbe
  split
  next => exact ⟨s, rfl, rfl, rfl, .inl ⟨rfl, .inl rfl⟩⟩
  next hstop =>
    have hstop' : env.stop s.calls = false := Bool.eq_false_iff.mpr hstop
    cases maxProbes with
    | none => exact ⟨s, rfl, rfl, rfl, .inr ⟨rfl, hstop', .inl ⟨rfl, rfl⟩⟩⟩
    | some mp =>
      refine ⟨{ s with probeCount := (s.probeCount + 1) % 2 ^ 32 }, rfl, rfl, rfl, ?_⟩
      by_cases hspent : mp ≤ s.probeCount
      · exact .inl ⟨if_pos hspent, .inr rfl⟩
      · exact .inr ⟨if_neg hspent, hstop', .inr ⟨mp, rfl, by omega, rfl⟩⟩

theorem counts_step (h : s.Counts maxProbes) :
    (closureProbe env maxProbes descent target vbin s).2.Counts maxProbes := by
  obtain ⟨hreached, hcount⟩ := h
  obtain ⟨counted, hcalls, -, hsame, ⟨heq, hmoved⟩ | ⟨heq, -, hmoved⟩⟩ :=
    closureProbe_cases env maxProbes descent target vbin s
  · rw [heq]
    refine ⟨by simp only [hsame]; omega, fun hfits => ?_⟩
    simp only [hsame] at hfits ⊢
    obtain ⟨hle, hbudget⟩ := hcount (by omega)
    have hword : (s.probeCount + 1) % 2 ^ 32 = s.probeCount + 1 := Nat.mod_eq_of_lt (by omega)
    refine ⟨by omega, fun mp hmp => ?_⟩
    have := hbudget mp hmp
    omega
  · rw [heq]
    unfold ClosureState.Counts reachCard
    simp only [hcalls, hsame, List.length_append, List.length_singleton]
    refine ⟨by omega, fun hfits => ?_⟩
    obtain ⟨hle, hbudget⟩ := hcount (by omega)
    have hword : (s.probeCount + 1) % 2 ^ 32 = s.probeCount + 1 := Nat.mod_eq_of_lt (by omega)
    rcases hmoved with ⟨hnone, hkept⟩ | ⟨mp, hmp, hroom, hcounted⟩
    · refine ⟨by omega, fun mp hmp => ?_⟩
      rw [hnone] at hmp
      cases hmp
    · refine ⟨by omega, fun mp' hmp' => ?_⟩
      obtain rfl := Option.some.inj (hmp.symm.trans hmp')
      have := hbudget mp hmp
      omega

variable (env descent target vbin) in
theorem events_reachCard (s : ClosureState) :
    (reachCard env descent target vbin s).2.events =
      s.events ++ (realProbeStep (env.answers s.calls) s.abort descent target vbin).events := by
  unfold ClosureState.events reachCard
  simp [List.flatMap_append]

theorem drained_step (h : s.Drained) :
    (closureProbe env maxProbes descent target vbin s).2.Drained := by
  obtain ⟨counted, hcalls, habort, hsame, ⟨heq, -⟩ | ⟨heq, -, -⟩⟩ :=
    closureProbe_cases env maxProbes descent target vbin s
  · rw [heq]
    unfold ClosureState.Drained ClosureState.events
    simp only [habort, hsame]
    exact h
  · rw [heq]
    have hevents := events_reachCard env descent target vbin counted
    have hcounted : counted.events = s.events := by
      unfold ClosureState.events
      rw [hsame]
    rw [hcounted, hcalls, habort] at hevents
    have hflag : (reachCard env descent target vbin counted).2.abort =
        (realProbeStep (env.answers s.calls) s.abort descent target vbin).abort := by
      unfold reachCard
      rw [hcalls, habort]
    unfold ClosureState.Drained
    rw [hevents, hflag]
    rcases h with ⟨hclear, hquiet⟩ | ⟨hset, before, clear, reset, hquiet, hlast⟩
    · rw [hclear]
      rcases realProbeStep_crash (env.answers s.calls) false descent target vbin with
        ⟨hkept, hnone⟩ | ⟨-, hraised, before, hbefore, hcrash⟩
      · exact .inl ⟨hkept, by rw [List.any_append, hquiet, hnone]; rfl⟩
      · refine .inr ⟨hraised, s.events ++ before, (env.answers s.calls).clear,
          (env.answers s.calls).reset, ?_, ?_⟩
        · rw [List.any_append, hquiet, hbefore]
          rfl
        · rw [hcrash, List.append_assoc]
    · rw [hset, realProbeStep_aborted, List.append_nil]
      exact .inr ⟨rfl, before, clear, reset, hquiet, hlast⟩

theorem within_step {pair : Nat × Nat → Prop} (hpair : pair (target, vbin))
    (h : s.Within env descent pair) :
    (closureProbe env maxProbes descent target vbin s).2.Within env descent pair := by
  obtain ⟨counted, -, -, hsame, ⟨heq, -⟩ | ⟨heq, -, -⟩⟩ :=
    closureProbe_cases env maxProbes descent target vbin s
  · rw [heq]
    unfold ClosureState.Within
    simp only [hsame]
    exact h
  · rw [heq]
    unfold reachCard ClosureState.Within
    simp only [hsame]
    intro r hr
    rcases List.mem_append.mp hr with hr | hr
    · exact h r hr
    · obtain rfl := List.mem_singleton.mp hr
      exact ⟨hpair, _, _, rfl⟩

theorem calls_step : (closureProbe env maxProbes descent target vbin s).2.calls = s.calls + 1 := by
  obtain ⟨counted, hcalls, -, -, ⟨heq, -⟩ | ⟨heq, -, -⟩⟩ :=
    closureProbe_cases env maxProbes descent target vbin s
  · rw [heq]
  · rw [heq]
    unfold reachCard
    rw [hcalls]

theorem reached_prefix_step :
    s.reached <+: (closureProbe env maxProbes descent target vbin s).2.reached := by
  obtain ⟨counted, -, -, hsame, ⟨heq, -⟩ | ⟨heq, -, -⟩⟩ :=
    closureProbe_cases env maxProbes descent target vbin s
  · rw [heq]
    exact ⟨[], by rw [List.append_nil, ← hsame]⟩
  · rw [heq]
    unfold reachCard
    exact ⟨_, by rw [hsame]⟩

/-- A sample that ends nothing came from the card: its probe is the last one reached. -/
theorem reached_of_kept
    (h : (closureProbe env maxProbes descent target vbin s).1.failure = none) :
    ∃ r ∈ (closureProbe env maxProbes descent target vbin s).2.reached,
      r.target = target ∧ r.vbin = vbin ∧
      r.run.sample = (closureProbe env maxProbes descent target vbin s).1 := by
  obtain ⟨counted, -, -, -, ⟨heq, -⟩ | ⟨heq, -, -⟩⟩ :=
    closureProbe_cases env maxProbes descent target vbin s
  · rw [heq] at h
    cases h
  · rw [heq]
    exact ⟨_, List.mem_append_right _ List.mem_cons_self, rfl, rfl, rfl⟩

end Steps

section Run

variable {env : ForgeEnvironment} {maxProbes : Option Nat} {descent : FrontierDescent}
  {calls : List (Nat × Nat)} {s : ClosureState}

theorem calls_after : (after (probeAt (closureProbe env maxProbes descent)) calls s).calls =
    s.calls + calls.length := by
  induction calls generalizing s with
  | nil => rfl
  | cons c calls ih =>
    have hstep : (probeAt (closureProbe env maxProbes descent) c s).2.calls = s.calls + 1 :=
      calls_step
    rw [after_cons, ih, hstep, List.length_cons]
    omega

theorem reached_prefix_after :
    s.reached <+: (after (probeAt (closureProbe env maxProbes descent)) calls s).reached := by
  induction calls generalizing s with
  | nil => exact List.prefix_rfl
  | cons c calls ih => exact reached_prefix_step.trans ih

/-- A point that was kept is that of a probe the run reached. -/
theorem reached_of_keptFrom {p : DescentPoint}
    (h : KeptFrom (closureProbe env maxProbes descent) s calls p) :
    ∃ r ∈ (after (probeAt (closureProbe env maxProbes descent)) calls s).reached,
      r.run.sample.failure = none ∧ p.1 = probeToPoint r.target r.vbin r.run.sample := by
  obtain ⟨e, he, hkept, rfl⟩ := h
  obtain ⟨before, later, rfl, hanswer⟩ := mem_answers.mp he
  rw [hanswer] at hkept ⊢
  obtain ⟨r, hr, htarget, hvbin, hsample⟩ := reached_of_kept hkept
  refine ⟨r, ?_, ?_, ?_⟩
  · rw [after_append, after_cons]
    exact reached_prefix_after.subset hr
  · rw [hsample]
    exact hkept
  · rw [htarget, hvbin, hsample]
    rfl

end Run

namespace MulticlockRun

def writes (run : MulticlockRun) : Nat := run.events.countP ProbeEvent.isWrite

def dwells (run : MulticlockRun) : Nat := run.events.countP ProbeEvent.isDwell

end MulticlockRun

/-- The probes that a deep descent adds at most. -/
def phaseBBound (limits : FrontierLimits) (descent : FrontierDescent) : Nat :=
  if limits.powerBoundKneeSeeking then
    min (limits.phaseBProbes.getD frontierPhaseBProbes) descent.binsDesc.length
  else 0

/-- The calls that a run makes at most. -/
def callBound (limits : FrontierLimits) (setup : FrontierSetup) : Nat :=
  setup.targets.length * ((if limits.warmStartBrackets then 2 else 1) *
    binsPerTarget setup.descent limits.maxProbesPerTarget) + phaseBBound limits setup.descent

/-- A run is a setup, a driven closure, and the two operations at the end. -/
theorem measureMulticlockForge_drives {supported : Bool} {live : List VfBin}
    {snap : Option RegimeReading} {env : ForgeEnvironment} {limits : FrontierLimits}
    {run : MulticlockRun}
    (h : measureMulticlockForge supported live snap env limits = .ok run) :
    frontierSetup supported live snap limits = .ok run.setup ∧
      ∃ (points : List DescentPoint) (s : ClosureState),
        Drives (closureProbe env limits.maxProbes run.setup.descent) run.setup.descent
          run.setup.targets (callBound limits run.setup) {} points s ∧
        run.result.frontier = points.map Prod.fst ∧ run.result.aborted = s.abort ∧
        run.reached = s.reached ∧
        run.events = s.events ++ [.reset env.reset, .clear env.clear] := by
  unfold measureMulticlockForge at h
  split at h
  next => cases h
  next setup hsetup =>
    simp only at h
    have hA := targetRuns_drives (closureProbe env limits.maxProbes setup.descent)
      limits.maxProbesPerTarget limits.bindSeeking setup.descent
      (.fromDescent setup.descent limits.warmStartBrackets frontierWarmStartMarginSteps)
      none setup.targets {}
    simp only [descentsPerTarget, BracketCarryConfig.fromDescent] at hA
    by_cases hknee : limits.powerBoundKneeSeeking = true
    · simp only [if_pos hknee] at h
      unfold buildFrontierTwoPhase at h
      simp only at h
      split at h
      next =>
        obtain rfl := Except.ok.inj h
        refine ⟨hsetup, _, _, hA.mono (fun _ h => h) ?_ fun _ h => h, rfl, rfl, rfl, rfl⟩
        exact Nat.le_add_right _ _
      next phaseB hphaseB =>
        obtain rfl := Except.ok.inj h
        obtain ⟨budget, hbudget, hB⟩ := phaseBRun_drives hphaseB
        refine ⟨hsetup, _, _, (hA.append hB).mono (fun _ h => h) ?_ fun _ h => h, rfl, rfl, rfl,
          rfl⟩
        obtain rfl := Option.some.inj hbudget
        simp only [callBound, phaseBBound, if_pos hknee]
        exact le_rfl
    · simp only [if_neg hknee] at h
      obtain rfl := Except.ok.inj h
      refine ⟨hsetup, _, _, hA.mono (fun _ h => h) ?_ fun _ h => h, rfl, rfl, rfl, rfl⟩
      exact Nat.le_add_right _ _

theorem sane_mv_le {p : VfBin} (h : isSaneBin p = true) : p.mv ≤ coreVfHardMaxMv := by
  unfold isSaneBin isSaneCorePoint at h
  simp only [Bool.and_eq_true, decide_eq_true_eq] at h
  exact h.2

/-- The core domain has few bins. -/
theorem FrontierSetup.ReadOff.bins_length {setup : FrontierSetup} {live : List VfBin}
    {limits : FrontierLimits} (h : setup.ReadOff live limits) :
    setup.descent.binsDesc.length ≤ coreVfHardMaxMv + 1 := by
  have hnodup : setup.descent.binsDesc.Nodup := h.domain.sorted.imp fun hlt => hlt.ne'
  have hsub : setup.descent.binsDesc ⊆ List.range (coreVfHardMaxMv + 1) := by
    intro v hv
    obtain ⟨p, -, rfl, hsane⟩ := h.bins v hv
    have := sane_mv_le hsane
    exact List.mem_range.mpr (by omega)
  have hle := (hnodup.subperm hsub).length_le
  rwa [List.length_range] at hle

theorem binsPerTarget_le (descent : FrontierDescent) (maxPerTarget : Option Nat) :
    binsPerTarget descent maxPerTarget ≤ descent.binsDesc.length := by
  cases maxPerTarget with
  | none => exact le_rfl
  | some m => exact min_le_left _ _

/-- No run makes enough calls for its counter to wrap. -/
theorem FrontierSetup.ReadOff.callBound_lt {setup : FrontierSetup} {live : List VfBin}
    {limits : FrontierLimits} (h : setup.ReadOff live limits) :
    callBound limits setup < 2 ^ 32 := by
  have hbins := h.bins_length
  have hper := (binsPerTarget_le setup.descent limits.maxProbesPerTarget).trans hbins
  have htargets : setup.targets.length ≤ coreFreqHardMaxMhz + 1 :=
    h.few.trans (Nat.succ_le_succ (stockSustained_le h.seed))
  have hdescents : (if limits.warmStartBrackets then 2 else 1) *
      binsPerTarget setup.descent limits.maxProbesPerTarget ≤ 2 * (coreVfHardMaxMv + 1) :=
    Nat.mul_le_mul (by split <;> omega) hper
  have hphaseB : phaseBBound limits setup.descent ≤ coreVfHardMaxMv + 1 := by
    unfold phaseBBound
    split
    next => exact (min_le_right _ _).trans hbins
    next => exact Nat.zero_le _
  have hA := Nat.mul_le_mul htargets hdescents
  unfold callBound
  simp only [coreFreqHardMaxMhz, coreVfHardMaxMv] at hA hphaseB
  omega

theorem writes_flatMap_le {reached : List ReachedProbe} {descent : FrontierDescent}
    (h : ∀ r ∈ reached, ∃ answers abort,
      r.run = realProbeStep answers abort descent r.target r.vbin) :
    (reached.flatMap fun r => r.run.events).countP ProbeEvent.isWrite ≤ reached.length := by
  induction reached with
  | nil => exact le_rfl
  | cons r rest ih =>
    obtain ⟨answers, abort, hrun⟩ := h r List.mem_cons_self
    obtain ⟨hone, -⟩ := realProbeStep_writes_le answers abort descent r.target r.vbin
    have hrest := ih fun r' hr' => h r' (List.mem_cons_of_mem _ hr')
    rw [List.flatMap_cons, List.countP_append, List.length_cons, hrun]
    omega

theorem dwells_flatMap_le {reached : List ReachedProbe} {descent : FrontierDescent}
    (h : ∀ r ∈ reached, ∃ answers abort,
      r.run = realProbeStep answers abort descent r.target r.vbin) :
    (reached.flatMap fun r => r.run.events).countP ProbeEvent.isDwell ≤
      (reached.flatMap fun r => r.run.events).countP ProbeEvent.isWrite := by
  induction reached with
  | nil => exact le_rfl
  | cons r rest ih =>
    obtain ⟨answers, abort, hrun⟩ := h r List.mem_cons_self
    obtain ⟨-, hhead⟩ := realProbeStep_writes_le answers abort descent r.target r.vbin
    have hrest := ih fun r' hr' => h r' (List.mem_cons_of_mem _ hr')
    rw [List.flatMap_cons, List.countP_append, List.countP_append, hrun]
    omega

section Facts

variable {supported : Bool} {live : List VfBin} {snap : Option RegimeReading}
  {env : ForgeEnvironment} {limits : FrontierLimits} {run : MulticlockRun}

/-- The closure behind a run. -/
structure MulticlockRun.Closed (run : MulticlockRun) (live : List VfBin) (env : ForgeEnvironment)
    (limits : FrontierLimits) (s : ClosureState) : Prop where
  setup : run.setup.ReadOff live limits
  reached : run.reached = s.reached
  events : run.events = s.events ++ [.reset env.reset, .clear env.clear]
  aborted : run.result.aborted = s.abort
  counts : s.Counts limits.maxProbes
  drained : s.Drained
  within : s.Within env run.setup.descent fun pair =>
    pair.1 ∈ run.setup.targets ∧ pair.2 ∈ run.setup.descent.binsDesc
  bounded : s.calls ≤ callBound limits run.setup
  kept : ∀ p ∈ run.result.frontier, ∃ r ∈ s.reached, r.run.sample.failure = none ∧
    p = probeToPoint r.target r.vbin r.run.sample

theorem measureMulticlockForge_closed
    (h : measureMulticlockForge supported live snap env limits = .ok run) :
    ∃ s, run.Closed live env limits s := by
  obtain ⟨hsetup, points, s, ⟨calls, hlength, hin, rfl, hkept⟩, hfrontier, haborted, hreached,
    hevents⟩ := measureMulticlockForge_drives h
  let probe := closureProbe env limits.maxProbes run.setup.descent
  refine ⟨_, frontierSetup_readOff hsetup, hreached, hevents, haborted, ?_, ?_, ?_, ?_, ?_⟩
  · exact after_invariant (probeAt probe) (fun _ => True) (fun c s _ => counts_step)
      (fun _ _ => trivial) ⟨le_rfl, fun _ => ⟨le_rfl, fun _ _ => ⟨le_rfl, Nat.zero_le _⟩⟩⟩
  · exact after_invariant (probeAt probe) (fun _ => True) (fun c s _ => drained_step)
      (fun _ _ => trivial) (.inl ⟨rfl, rfl⟩)
  · exact after_invariant (probeAt probe) _ (fun c s hc hs => within_step hc hs) hin
      fun r hr => absurd hr List.not_mem_nil
  · rw [calls_after]
    simpa using hlength
  · intro p hp
    rw [hfrontier] at hp
    obtain ⟨point, hpoint, rfl⟩ := List.mem_map.mp hp
    exact reached_of_keptFrom (hkept point hpoint)

end Facts

/-- The budget of a run. It writes no more ceilings than its probe cap, and none twice as often as
the printed worst case but for the deep descent; without a warm start and a deep descent it keeps
to what the plan prints. -/
theorem measureMulticlockForge_writes_le {supported : Bool} {live : List VfBin}
    {snap : Option RegimeReading} {env : ForgeEnvironment} {limits : FrontierLimits}
    {run : MulticlockRun}
    (h : measureMulticlockForge supported live snap env limits = .ok run) :
    run.dwells ≤ run.writes ∧
      (∀ mp, limits.maxProbes = some mp → run.writes ≤ mp) ∧
      run.writes ≤ (if limits.warmStartBrackets then 2 else 1) * run.setup.plan.estDwellCount +
        phaseBBound limits run.setup.descent ∧
      (limits.warmStartBrackets = false → limits.powerBoundKneeSeeking = false →
        run.writes ≤ run.setup.cappedDwells) := by
  obtain ⟨s, hclosed⟩ := measureMulticlockForge_closed h
  obtain ⟨hreached, hcount⟩ := hclosed.counts
  obtain ⟨hprobes, hbudget⟩ :=
    hcount (hclosed.bounded.trans_lt hclosed.setup.callBound_lt)
  have hrun : ∀ r ∈ s.reached, ∃ answers abort,
      r.run = realProbeStep answers abort run.setup.descent r.target r.vbin := by
    intro r hr
    obtain ⟨-, k, abort, heq⟩ := hclosed.within r hr
    exact ⟨_, _, heq⟩
  have hwrites : run.writes ≤ s.reached.length := by
    unfold MulticlockRun.writes
    rw [hclosed.events, List.countP_append]
    exact writes_flatMap_le hrun
  have hdwells : run.dwells ≤ run.writes := by
    unfold MulticlockRun.dwells MulticlockRun.writes
    rw [hclosed.events, List.countP_append, List.countP_append]
    exact Nat.add_le_add_right (dwells_flatMap_le hrun) _
  have hplan : run.setup.plan.estDwellCount = run.setup.targets.length *
      binsPerTarget run.setup.descent limits.maxProbesPerTarget := by
    rw [hclosed.setup.plan]
    rfl
  have hworst : run.writes ≤ (if limits.warmStartBrackets then 2 else 1) *
      run.setup.plan.estDwellCount + phaseBBound limits run.setup.descent := by
    have hcalls := hclosed.bounded
    unfold callBound at hcalls
    rw [Nat.mul_left_comm, ← hplan] at hcalls
    omega
  refine ⟨hdwells, fun mp hmp => hwrites.trans (hbudget mp hmp).2, hworst, fun hcold hshallow => ?_⟩
  have hphaseB : phaseBBound limits run.setup.descent = 0 := if_neg (by simp [hshallow])
  have hplanned : run.writes ≤ run.setup.plan.estDwellCount := by
    rw [if_neg (by simp [hcold]), hphaseB] at hworst
    omega
  rw [hclosed.setup.capped]
  cases hmax : limits.maxProbes with
  | none => exact hplanned
  | some mp => exact le_min hplanned (hwrites.trans (hbudget mp hmax).2)

/-- The ceiling of a write: the bin that was asked for where the card still has it, and a lower one
only where the card has none as high. -/
def CeilingFor (live : List VfBin) (vbin mv : Nat) : Prop :=
  (∃ p ∈ live, p.mv = mv) ∧ ((∃ p ∈ live, p.mv = vbin) → mv = vbin) ∧
    (mv < vbin → ∀ p ∈ live, p.mv < vbin)

theorem ceilingFor_nearest {live : List VfBin} {vbin idx mv : Nat}
    (h : nearestVfBinAtOrAbove live vbin = some (idx, mv)) : CeilingFor live vbin mv := by
  obtain ⟨bin, hbin, heq⟩ := Option.map_eq_some_iff.mp h
  obtain ⟨-, rfl⟩ := Prod.mk.inj heq
  rcases Option.or_eq_some_iff.mp hbin with hmin | ⟨hnone, hmax⟩
  · obtain ⟨hmem, hge⟩ := List.mem_filter.mp (minByKey_mem hmin)
    have hge' : vbin ≤ bin.mv := by simpa using hge
    refine ⟨⟨bin, hmem, rfl⟩, ?_, fun hlt => absurd hge' (Nat.not_le.mpr hlt)⟩
    rintro ⟨p, hp, rfl⟩
    have hle := le_of_minByKey hmin (List.mem_filter.mpr ⟨hp, by simp⟩)
    omega
  · have hbelow : ∀ p ∈ live, p.mv < vbin := by
      intro p hp
      have hempty := minByKey_eq_none.mp hnone
      by_contra hge
      have hin : p ∈ live.filter fun bin => decide (vbin ≤ bin.mv) :=
        List.mem_filter.mpr ⟨hp, by simpa using hge⟩
      rw [hempty] at hin
      cases hin
    refine ⟨⟨bin, maxByKey_mem hmax, rfl⟩, ?_, fun _ => hbelow⟩
    rintro ⟨p, hp, rfl⟩
    exact absurd (hbelow p hp) (lt_irrefl _)

/-- What a supervised run does to the card, and what it keeps. -/
structure MulticlockRun.Supervised (run : MulticlockRun) (env : ForgeEnvironment) : Prop where
  writes : ∀ mv mhz outcome, .write mv mhz outcome ∈ run.events →
    mhz ∈ run.setup.targets ∧ mhz ≤ run.setup.seed.stockSustainedMhz ∧
      ∃ k, ∃ vbin ∈ run.setup.descent.binsDesc, CeilingFor (env.answers k).live vbin mv
  crash : ∀ before after, run.events = before ++ .dwell .crash :: after →
    run.result.aborted = true ∧ ∃ clear reset,
      after = [.clear clear, .reset reset, .reset env.reset, .clear env.clear]
  abort : run.result.aborted = true → .dwell .crash ∈ run.events
  restored : ∃ probes, run.events = probes ++ [.reset env.reset, .clear env.clear]
  kept : ∀ p ∈ run.result.frontier, ∃ r ∈ run.reached, ∃ flag arm clear mv,
    r.run.events = [.arm flag arm, .write mv r.target .accepted, .dwell .stable, .clear clear] ∧
      p.targetClockMhz = some r.target ∧ p.vfTableVoltageMv = some mv

theorem isWrite_mem {answers : ProbeAnswers} {abort : Bool} {descent : FrontierDescent}
    {target vbin mv mhz : Nat} {outcome : CeilingWrite}
    (h : .write mv mhz outcome ∈ (realProbeStep answers abort descent target vbin).events) :
    mhz = target ∧ CeilingFor answers.live vbin mv := by
  unfold realProbeStep at h
  split at h
  next => cases h
  next =>
    split at h
    next => cases h
    next =>
      split at h
      next => cases h
      next idx ceilingMv hbin =>
        have hpair : mv = ceilingMv ∧ mhz = target ∧ outcome = answers.write := by
          simp only at h
          split at h
          next => simpa using h
          next =>
            split at h
            next => simpa using h
            next => simpa using h
        obtain ⟨rfl, rfl, -⟩ := hpair
        exact ⟨rfl, ceilingFor_nearest hbin⟩

/-- The split of a list at an element that it has once. -/
theorem eq_of_split_once {α : Type*} {x : α} {before after first rest : List α}
    (h : before ++ x :: after = first ++ x :: rest) (hfirst : x ∉ first) (hrest : x ∉ rest) :
    after = rest := by
  rcases List.append_eq_append_iff.mp h with ⟨c, rfl, hc⟩ | ⟨c, rfl, hc⟩
  · cases c with
    | nil => exact (List.cons.inj hc).2
    | cons y c =>
      obtain ⟨rfl, -⟩ := List.cons.inj hc
      exact absurd (List.mem_append_right before List.mem_cons_self) hfirst
  · cases c with
    | nil => exact (List.cons.inj hc).2.symm
    | cons y c =>
      obtain ⟨-, rfl⟩ := List.cons.inj hc
      exact absurd (List.mem_append_right c List.mem_cons_self) hrest

theorem isCrash_iff {events : List ProbeEvent} :
    events.any ProbeEvent.isCrash = true ↔ .dwell .crash ∈ events := by
  rw [List.any_eq_true]
  constructor
  · rintro ⟨event, hmem, hcrash⟩
    cases event with
    | dwell result =>
      have hresult : result = .crash := by simpa [ProbeEvent.isCrash] using hcrash
      exact hresult ▸ hmem
    | _ => cases hcrash
  · intro hmem
    exact ⟨_, hmem, rfl⟩

/-- A supervised run writes no clock above stock and no bin outside its descent, does nothing behind
a crash but clear and reset, always ends with the reset, and keeps a point only of a ceiling that
was verified and a dwell that stayed stable. -/
theorem measureMulticlockForge_supervised {supported : Bool} {live : List VfBin}
    {snap : Option RegimeReading} {env : ForgeEnvironment} {limits : FrontierLimits}
    {run : MulticlockRun}
    (h : measureMulticlockForge supported live snap env limits = .ok run) :
    run.Supervised env := by
  obtain ⟨s, hclosed⟩ := measureMulticlockForge_closed h
  have hends : ∀ event, event ∈ run.events → event.isWrite = true ∨ event.isDwell = true →
      event ∈ s.events := by
    intro event hevent hkind
    rw [hclosed.events] at hevent
    rcases List.mem_append.mp hevent with hin | hend
    · exact hin
    · have hcases : event = .reset env.reset ∨ event = .clear env.clear := by simpa using hend
      rcases hcases with rfl | rfl <;> simp [ProbeEvent.isWrite, ProbeEvent.isDwell] at hkind
  refine ⟨fun mv mhz outcome hwrite => ?_, fun before after hsplit => ?_, fun haborted => ?_,
    ⟨s.events, hclosed.events⟩, fun p hp => ?_⟩
  · obtain ⟨r, hr, hevent⟩ := List.mem_flatMap.mp (hends _ hwrite (.inl rfl))
    obtain ⟨⟨htarget, hbin⟩, k, abort, hrun⟩ := hclosed.within r hr
    rw [hrun] at hevent
    obtain ⟨rfl, hceiling⟩ := isWrite_mem hevent
    exact ⟨htarget, (hclosed.setup.clocks _ htarget).2, k, r.vbin, hbin, hceiling⟩
  · have hmem : .dwell .crash ∈ run.events := by simp [hsplit]
    have hcrash := isCrash_iff.mpr (hends _ hmem (.inr rfl))
    rcases hclosed.drained with ⟨-, hquiet⟩ | ⟨hset, first, clear, reset, hquiet, hlast⟩
    · rw [hquiet] at hcrash
      cases hcrash
    · refine ⟨hclosed.aborted.trans hset, clear, reset, ?_⟩
      have hwhole : before ++ .dwell .crash :: after = first ++ .dwell .crash ::
          [.clear clear, .reset reset, .reset env.reset, .clear env.clear] := by
        rw [← hsplit, hclosed.events, hlast]
        simp
      have hfirst : .dwell .crash ∉ first := fun hin => by
        rw [isCrash_iff.mpr hin] at hquiet
        cases hquiet
      have htail : .dwell .crash ∉ ([.clear clear, .reset reset, .reset env.reset,
          .clear env.clear] : List ProbeEvent) := by simp
      exact eq_of_split_once hwhole hfirst htail
  · rcases hclosed.drained with ⟨hclear, -⟩ | ⟨-, first, clear, reset, -, hlast⟩
    · rw [hclosed.aborted, hclear] at haborted
      cases haborted
    · rw [hclosed.events, hlast]
      simp
  · obtain ⟨r, hr, hfailure, rfl⟩ := hclosed.kept p hp
    obtain ⟨-, k, abort, hrun⟩ := hclosed.within r hr
    rw [hrun] at hfailure
    obtain ⟨idx, mv, flag, -, hevents, -, hbin⟩ := realProbeStep_kept hfailure
    rw [← hrun] at hevents hbin
    refine ⟨r, hclosed.reached ▸ hr, flag, _, _, mv, hevents, rfl, ?_⟩
    unfold probeToPoint
    rw [hbin]
    rfl

/-- Eight bins of one core cluster; 875 mV and 1750 MHz is its top. -/
def eightBins : List VfBin := (List.range 8).map fun i => (i, 700 + 25 * i, 1400 + 50 * i)

/-- Two stable probes, then one that crashes. -/
def crashingCard : ForgeEnvironment where
  answers k := { live := eightBins, measured := { result := if k < 2 then .stable else .crash } }

theorem exists_run (env : ForgeEnvironment) (limits : FrontierLimits)
    (h : (frontierSetup true eightBins none limits).isOk = true) :
    ∃ run, measureMulticlockForge true eightBins none env limits = .ok run := by
  unfold measureMulticlockForge
  cases hsetup : frontierSetup true eightBins none limits with
  | ok setup => exact ⟨_, rfl⟩
  | error e =>
    rw [hsetup] at h
    cases h

theorem measureMulticlockForge_writes_le_three :
    ∃ run, measureMulticlockForge true eightBins none crashingCard { maxProbes := some 3 } =
      .ok run ∧ run.writes ≤ 3 := by
  obtain ⟨run, hrun⟩ := exists_run crashingCard { maxProbes := some 3 } (by decide +kernel)
  exact ⟨run, hrun, (measureMulticlockForge_writes_le hrun).2.1 3 rfl⟩

theorem measureMulticlockForge_supervised_crash :
    ∃ run, measureMulticlockForge true eightBins none crashingCard {} = .ok run ∧
      run.Supervised crashingCard := by
  obtain ⟨run, hrun⟩ := exists_run crashingCard {} (by decide +kernel)
  exact ⟨run, hrun, measureMulticlockForge_supervised hrun⟩

end Nidavellir

import Nidavellir.FrontierPrediction
import Nidavellir.StartRecovery

namespace Nidavellir

open Narrowing (Flow traverse)

/-- What the clock loop asks for; every operation may answer anything. -/
class ClockLoopOps (W : Type*) where
  stopRequested : W → Bool × W
  historicalBoundary : (targetMhz : Nat) → W → Option UInt32 × W
  discover : (targetMhz : Nat) → (startMv : Option Nat) → W → F2ClockDiscoverySummary × W

open ClockLoopOps

structure ClockAttempt where
  targetMhz : Nat
  startsMv : List (Option Nat)
  summary : F2ClockDiscoverySummary

inductive ClockLoopEnd
  | belowFloor
  | stopped
  | aborted
  | incomplete
deriving DecidableEq, Repr

/-- The variables of the loop. The source has no `attempts` and no `ended`. -/
structure ClockLoopState where
  cmax : Option Nat := none
  forgeComplete : Bool := false
  forgeAborted : Bool := false
  retainBootFlag : Bool := false
  nextClockStartMv : Option Nat := none
  conservativeStartMv : Option Nat := none
  recentBoundaries : List (UInt32 × UInt32) := []
  attempts : List ClockAttempt := []
  ended : Option ClockLoopEnd := none

section Loop

variable {W : Type*} [ClockLoopOps W] (curve : List VfBin) (limits : Word.Limits)

def climbClock (targetMhz : Nat) : (left : Nat) → (lastAttemptedStartMv : Option Nat) →
    F2ClockDiscoverySummary → W → List (Option Nat) × F2ClockDiscoverySummary × W
  | 0, _, summary, w => ([], summary, w)
  | left + 1, lastAttemptedStartMv, summary, w =>
    if summary.climbs then
      let (stop, w) := stopRequested w
      if stop then ([], summary, w)
      else
        match lastAttemptedStartMv.bind (f2NextBinAbove curve) with
        | none => ([], summary, w)
        | some nextStart =>
          let (summary, w) := discover targetMhz (some nextStart) w
          let (starts, summary, w) := climbClock targetMhz left (some nextStart) summary w
          (some nextStart :: starts, summary, w)
    else ([], summary, w)

/-- The conservative fallback, and the start that the recovery climbs from. -/
def fallbackClock (targetMhz : Nat) (startMv conservativeStartMv : Option Nat)
    (summary : F2ClockDiscoverySummary) (w : W) :
    List (Option Nat) × Option Nat × F2ClockDiscoverySummary × W :=
  match startMv with
  | none => ([], none, summary, w)
  | some warm =>
    if summary.warmStartRejected &&
        conservativeStartMv.all (fun fallback => decide (warm < fallback)) then
      let (summary, w) := discover targetMhz conservativeStartMv w
      ([conservativeStartMv], conservativeStartMv, summary, w)
    else ([], some warm, summary, w)

def attemptClock (targetMhz : Nat) (startMv conservativeStartMv : Option Nat) (w : W) :
    ClockAttempt × W :=
  let (summary, w) := discover targetMhz startMv w
  let (fallbacks, lastAttemptedStartMv, summary, w) :=
    fallbackClock targetMhz startMv conservativeStartMv summary w
  let (climbs, summary, w) :=
    climbClock curve targetMhz f2StartRecoveryMaxClimbs lastAttemptedStartMv summary w
  (⟨targetMhz, startMv :: (fallbacks ++ climbs), summary⟩, w)

/-- Where the search of a target begins: a prediction goes before the start that the target above
left. -/
def startOf (targetMhz : Nat) (historicalBoundaryMv : Option UInt32) (s : ClockLoopState) :
    Option Nat :=
  match f2PredictFrontierStart curve limits (UInt32.ofNat targetMhz) historicalBoundaryMv
      s.recentBoundaries with
  | some prediction => some prediction.startMv
  | none => s.nextClockStartMv

/-- The variables after a target that was completed; `rest` are the targets below it. -/
def ClockLoopState.completed (s : ClockLoopState) (targetMhz : Nat) (rest : List Nat)
    (summary : F2ClockDiscoverySummary) : ClockLoopState :=
  let cmax := if summary.sustainable && s.cmax.isNone then some targetMhz else s.cmax
  let boundary := if summary.sustainable then summary.lastGoodMv else none
  { s with
    cmax
    recentBoundaries := s.recentBoundaries ++
      boundary.toList.map fun mv => (UInt32.ofNat targetMhz, UInt32.ofNat mv)
    forgeComplete := s.forgeComplete || (rest.isEmpty && cmax.isSome) }

def clockIteration (targetMhz : Nat) (rest : List Nat) :
    ClockLoopState × W → Flow (ClockLoopState × W)
  | (s, w) =>
    if s.cmax.any fun max => !f2ClockWithinCmaxFloor targetMhz max then
      .stop ({ s with forgeComplete := true, ended := some .belowFloor }, w)
    else
      let (stop, w) := stopRequested w
      if stop then .stop ({ s with ended := some .stopped }, w)
      else
        let (historicalBoundaryMv, w) := historicalBoundary targetMhz w
        let startMv := startOf curve limits targetMhz historicalBoundaryMv s
        let (attempt, w) := attemptClock curve targetMhz startMv s.conservativeStartMv w
        let s := { s with
          attempts := s.attempts ++ [attempt]
          nextClockStartMv := attempt.summary.nextClockStartMv
          conservativeStartMv := attempt.summary.conservativeStartMv }
        if attempt.summary.aborted then
          .stop ({ s with
            forgeAborted := true
            retainBootFlag := s.retainBootFlag || attempt.summary.retainBootFlag
            ended := some .aborted }, w)
        else if !attempt.summary.completed then .stop ({ s with ended := some .incomplete }, w)
        else .next (s.completed targetMhz rest attempt.summary, w)

/-- The clock loop of `measure_multiclock_undervolt_forge`. -/
def clockLoop (targets : List Nat) (w : W) : ClockLoopState × W :=
  (traverse (clockIteration curve limits) targets ({}, w)).state

variable {curve} {targetMhz : Nat} {startMv conservativeStartMv : Option Nat} {w : W}

theorem climbClock_length_le (left : Nat) (lastAttemptedStartMv : Option Nat)
    (summary : F2ClockDiscoverySummary) (w : W) :
    (climbClock curve targetMhz left lastAttemptedStartMv summary w).1.length ≤ left := by
  induction left generalizing lastAttemptedStartMv summary w with
  | zero => exact Nat.le_refl 0
  | succ left ih =>
    unfold climbClock
    split
    next =>
      dsimp only
      split
      next => exact Nat.zero_le _
      next =>
        split
        next => exact Nat.zero_le _
        next => exact Nat.succ_le_succ (ih ..)
    next => exact Nat.zero_le _

theorem fallbackClock_length_le (summary : F2ClockDiscoverySummary) (w : W) :
    (fallbackClock targetMhz startMv conservativeStartMv summary w).1.length ≤ 1 := by
  unfold fallbackClock
  split
  next => exact Nat.zero_le _
  next =>
    split
    next => exact Nat.le_refl 1
    next => exact Nat.zero_le _

@[simp] theorem attemptClock_targetMhz :
    (attemptClock curve targetMhz startMv conservativeStartMv w).1.targetMhz = targetMhz := rfl

/-- One target is searched from its start, from one fallback and from each climb. -/
theorem attemptClock_length_le :
    (attemptClock curve targetMhz startMv conservativeStartMv w).1.startsMv.length ≤
      f2StartRecoveryMaxClimbs + 2 := by
  unfold attemptClock
  dsimp only
  generalize hfirst : discover targetMhz startMv w = first
  have hfallback := @fallbackClock_length_le W _ targetMhz startMv
    conservativeStartMv first.1 first.2
  generalize fallbackClock targetMhz startMv conservativeStartMv first.1 first.2 = fallback
    at hfallback
  have hclimb := @climbClock_length_le W _ curve targetMhz
    f2StartRecoveryMaxClimbs fallback.2.1 fallback.2.2.1 fallback.2.2.2
  rw [List.length_cons, List.length_append]
  have hsum := Nat.add_le_add hfallback hclimb
  rw [Nat.add_comm 1] at hsum
  exact Nat.succ_le_succ hsum

end Loop

def ClockLoopState.synthesisCmax (s : ClockLoopState) : Option Nat :=
  if s.forgeComplete && !s.forgeAborted then s.cmax else none

section Confirmed

variable {W : Type*} [F2World W] [BuildEnv]

/-- What the loop keeps from one target to the next: the arguments that all its calls share, the
log and the world. -/
structure ForgeWorld (W : Type*) where
  call : F2ClockCall
  log : List F2Observation
  world : W

def ForgeWorld.onClock (self : ForgeWorld W) (targetMhz : Nat) (startMv : Option Nat) :
    F2ClockCall :=
  { self.call with targetMhz, startMv }

def ForgeWorld.after (self : ForgeWorld W) (run : F2ClockCallRun W) : ForgeWorld W :=
  { self with log := run.log, world := run.world }

instance : ClockLoopOps (ForgeWorld W) where
  stopRequested w :=
    ((F2World.stopRequested w.world).1, { w with world := (F2World.stopRequested w.world).2 })
  historicalBoundary targetMhz w :=
    ((lastDiscoveryGoodForTarget (queryByTargetForGpu w.log targetMhz w.call.gpuKey)
      targetMhz).map fun observation => UInt32.ofNat observation.anchorMv, w)
  discover targetMhz startMv w :=
    let run := runConfirmedF2ClockDiscovery (w.onClock targetMhz startMv) w.log w.world
    (run.summary, w.after run)

def ForgeWorld.seen (self : ForgeWorld W) (calls : List F2CallRecord × F2ClockCallRun W) :
    List (Option Nat) × F2ClockDiscoverySummary × ForgeWorld W :=
  (calls.1.map F2CallRecord.startMv, calls.2.summary, self.after calls.2)

variable (w : ForgeWorld W) (targetMhz : Nat) (startMv conservativeStartMv : Option Nat)

theorem climbClock_eq_climb (left : Nat) (lastAttemptedStartMv : Option Nat)
    (last : F2ClockCallRun W) :
    climbClock w.call.sane targetMhz left lastAttemptedStartMv last.summary (w.after last) =
      w.seen ((w.onClock targetMhz startMv).climb left lastAttemptedStartMv last) := by
  induction left generalizing lastAttemptedStartMv last with
  | zero => rfl
  | succ left ih =>
    unfold climbClock F2ClockCall.climb
    by_cases hclimbs : last.summary.climbs
    · rw [if_pos hclimbs, if_pos hclimbs]
      by_cases hstop : (F2World.stopRequested last.world).1
      · simp [stopRequested, ForgeWorld.after, ForgeWorld.seen, hstop]
      · cases hnext : lastAttemptedStartMv.bind (f2NextBinAbove w.call.sane) with
        | none =>
          simp [stopRequested, ForgeWorld.after, ForgeWorld.seen, ForgeWorld.onClock, hstop, hnext]
        | some nextStart =>
          have hrest := ih (some nextStart) ((w.onClock targetMhz startMv).attempt
            (some nextStart) { last with world := (F2World.stopRequested last.world).2 }).2
          simp only [stopRequested, ForgeWorld.after, ForgeWorld.onClock, ForgeWorld.seen, hstop,
            discover, F2ClockCall.attempt] at hrest ⊢
          simp [hrest, hnext, F2CallRecord.startMv]
    · rw [if_neg hclimbs, if_neg hclimbs]
      rfl

theorem fallbackClock_eq_fallback (first : F2ClockCallRun W) :
    fallbackClock targetMhz startMv conservativeStartMv first.summary (w.after first) =
      let calls := (w.onClock targetMhz startMv).fallback conservativeStartMv first
      (calls.1.map F2CallRecord.startMv, calls.2.1, calls.2.2.summary, w.after calls.2.2) := by
  unfold fallbackClock F2ClockCall.fallback ForgeWorld.onClock
  cases startMv with
  | none => rfl
  | some warm =>
    dsimp only
    split
    next => rfl
    next => rfl

def F2TargetRun.clockAttempt (self : F2TargetRun W) : ClockAttempt :=
  ⟨self.first.call.targetMhz, self.first.startMv :: self.recovery.map F2CallRecord.startMv,
    self.last.summary⟩

/-- Over the confirmed discovery a target goes as the calls on it do. -/
theorem attemptClock_eq_runTarget :
    attemptClock w.call.sane targetMhz startMv conservativeStartMv w =
      let run := (w.onClock targetMhz startMv).runTarget conservativeStartMv w.log w.world
      (run.clockAttempt, w.after run.last) := by
  unfold attemptClock F2ClockCall.runTarget
  dsimp only [discover]
  rw [fallbackClock_eq_fallback]
  dsimp only
  rw [climbClock_eq_climb w targetMhz startMv]
  simp [ForgeWorld.seen, F2TargetRun.clockAttempt, ForgeWorld.onClock, F2CallRecord.startMv]

end Confirmed

end Nidavellir

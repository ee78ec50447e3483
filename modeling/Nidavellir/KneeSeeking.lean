import Nidavellir.ForgeSynthesis
import Nidavellir.WarmStart

namespace Nidavellir

open Extremes

def synthesizeForgeProfiles (frontier : Classified) (policy : ForgePolicy) : ForgeProfiles :=
  synthesizeForgeProfilesCapped frontier policy 0

def minPlateauPoints : Nat := 2

/-- The median sustained clock of the power-bound points. -/
def detectPlateauClock (frontier : Classified) : Option Nat :=
  let clocks := ((frontier.filter fun entry => isPowerBoundPoint entry.1).map
    fun entry => entry.1.sustained).filter (0 < ·)
  if clocks.length < minPlateauPoints then none
  else (clocks.insertionSort (· ≤ ·))[clocks.length / 2]?

/-- The lowest candidate at or above the plateau, else the one nearest to it. -/
def selectPhaseBTarget (candidates : List Nat) (plateauClock : Nat) : Option Nat :=
  (candidates.filter (plateauClock ≤ ·)).min?.or
    (minByKey (fun c => ((c : Int) - plateauClock).natAbs) candidates)

inductive KneeTransition
  | aboveKnee
  | kneeCrossed
  | belowKneeTail
deriving DecidableEq

def classifyKneeTransition (prevPcf : Option ℚ) (curPcf : ℚ) : KneeTransition :=
  let curBound := isPowerBoundFrac curPcf
  let prevBound := (prevPcf.map isPowerBoundFrac).getD true
  if curBound then .aboveKnee
  else if prevBound then .kneeCrossed
  else .belowKneeTail

/-- The first point of a trajectory that leaves the power cap. -/
def detectPowerBoundKnee (trajectory : Classified) : Option Nat := go none 0 trajectory
where
  go (prevPcf : Option ℚ) (i : Nat) : Classified → Option Nat
    | [] => none
    | entry :: rest =>
      if classifyKneeTransition prevPcf entry.1.powerCappedFrac = .kneeCrossed then some i
      else go (some entry.1.powerCappedFrac) (i + 1) rest

/-- The deepest bin that Phase A kept a point of the target at. -/
def phaseADeepestBin (frontier : Classified) (target : Nat) : Option Nat :=
  ((frontier.filter fun entry => entry.1.targetClockMhz == some target).filterMap
    fun entry => entry.1.vfTableVoltageMv).min?

def phaseBStartBelow (descent : FrontierDescent) (phaseAFloorMv : Nat) : Option Nat :=
  (descent.binsDesc.filter (· < phaseAFloorMv)).max?

def phaseBMinUsefulPoints : Nat := 4

def phaseBPostKneeTailBins : Nat := 5

structure PhaseBTrajectory where
  points : Classified := []
  stopReason : BracketStop := .cleanFloor
  probesUsed : Nat := 0

/-- What the descent counts of its tail: the off-cap points, the bin of the first of them, and
the stable bins from it on. -/
structure KneeTail where
  usefulOffcap : Nat := 0
  kneeBin : Option Nat := none
  tailBins : Nat := 0

def KneeTail.capture (self : KneeTail) (offCap : Bool) (v : Nat) : KneeTail :=
  let kneeBin := if offCap then self.kneeBin.or (some v) else self.kneeBin
  { usefulOffcap := if offCap then self.usefulOffcap + 1 else self.usefulOffcap
    kneeBin
    tailBins := if kneeBin.isSome then self.tailBins + 1 else self.tailBins }

def KneeTail.complete (self : KneeTail) : Bool :=
  self.kneeBin.isSome && (decide (phaseBMinUsefulPoints ≤ self.usefulOffcap) ||
    decide (phaseBPostKneeTailBins ≤ self.tailBins))

section PhaseB

variable {S : Type*} (probe : Nat → Nat → S → ProbeSample × S) (target budget : Nat)

def phaseBBins : List Nat → PhaseBTrajectory → KneeTail → S → PhaseBTrajectory × S
  | [], traj, _, s => (traj, s)
  | v :: bins, traj, tail, s =>
    if budget ≤ traj.probesUsed then ({ traj with stopReason := .perTargetCap }, s)
    else
      let (sample, s) := probe target v s
      let traj := { traj with probesUsed := traj.probesUsed + 1 }
      match sample.failure with
      | some stop => ({ traj with stopReason := stop }, s)
      | none =>
        let pt := probeToPoint target v sample
        let traj := { traj with points := traj.points ++ [(pt, sample.confidence)] }
        let tail := tail.capture (!isPowerBoundPoint pt) v
        if tail.complete then ({ traj with stopReason := .kneeTailComplete }, s)
        else phaseBBins bins traj tail s

/-- The deep descent of one target, which keeps every point on its way. -/
def descendPhaseB (descent : FrontierDescent) (startMv : Nat) (s : S) : PhaseBTrajectory × S :=
  match descent.startBin startMv with
  | none => ({ stopReason := .softUnverified }, s)
  | some startBin => phaseBBins probe target budget (descent.binsDesc.filter (· ≤ startBin)) {} {} s

end PhaseB

/-- One Phase B: its target, where it was told to start, and its descent. -/
structure PhaseBRun (S : Type*) where
  plateauClock : Nat
  focusTarget : Nat
  startMv : Nat
  descent : PhaseBTrajectory × S

structure TwoPhaseFrontier where
  frontier : List PowerSweepPoint
  profiles : ForgeProfiles
  phaseBRan : Bool := false
  plateauClock : Option Nat := none
  focusTarget : Option Nat := none
  kneeIndex : Option Nat := none
  phaseBPoints : Nat := 0
  phaseBProbesUsed : Nat := 0
deriving DecidableEq

section TwoPhase

variable {S : Type*} (probe : Nat → Nat → S → ProbeSample × S) (maxPerTarget : Option Nat)
  (bindSeeking : Bool) (descent : FrontierDescent) (carry : BracketCarryConfig)

/-- Below the deepest bin of Phase A, or the cap when it kept none; nothing below the floor. -/
def phaseBStartMv (pairedA : Classified) (focusTarget : Nat) : Option Nat :=
  match phaseADeepestBin pairedA focusTarget with
  | some floor => phaseBStartBelow descent floor
  | none => some carry.safeStartCapMv

/-- Phase B, when it is asked for and Phase A collapsed on the power cap. -/
def phaseBRun (policy : ForgePolicy) (clocks : List Nat) (phaseBBudget : Option Nat)
    (pairedA : Classified) (s : S) : Option (PhaseBRun S) :=
  phaseBBudget.bind fun budget =>
    if !(synthesizeForgeProfiles pairedA policy).powerBoundCollapse then none
    else
      (detectPlateauClock pairedA).bind fun plateauClock =>
        (selectPhaseBTarget clocks plateauClock).bind fun focusTarget =>
          (phaseBStartMv descent carry pairedA focusTarget).map fun startMv =>
            { plateauClock, focusTarget, startMv
              descent := descendPhaseB probe focusTarget budget descent startMv s }

def phaseAExit (runs : List (TargetRun S)) (s : S) : S := (runs.getLast?.map TargetRun.exit).getD s

/-- The build and the state it leaves; its log lines are left out. -/
def buildFrontierTwoPhase (policy : ForgePolicy) (clocks : List Nat) (phaseBBudget : Option Nat)
    (s : S) : TwoPhaseFrontier × S :=
  let pairedA := runTargetDescents probe maxPerTarget bindSeeking descent carry clocks s
  let profilesA := synthesizeForgeProfiles pairedA policy
  let s := phaseAExit (targetRuns probe maxPerTarget bindSeeking descent carry none clocks s) s
  match phaseBRun probe descent carry policy clocks phaseBBudget pairedA s with
  | none => ({ frontier := pairedA.map Prod.fst, profiles := profilesA }, s)
  | some phaseB =>
    let traj := phaseB.descent.1
    let merged := pairedA ++ traj.points
    ({ frontier := merged.map Prod.fst
       profiles := synthesizeForgeProfiles merged policy
       phaseBRan := true
       plateauClock := some phaseB.plateauClock
       focusTarget := some phaseB.focusTarget
       kneeIndex := detectPowerBoundKnee traj.points
       phaseBPoints := traj.points.length
       phaseBProbesUsed := traj.probesUsed }, phaseB.descent.2)

end TwoPhase


def boundAt (entry : PowerSweepPoint × ℚ) : Bool := isPowerBoundPoint entry.1

theorem detectPowerBoundKnee_go {prevPcf : Option ℚ} {i k : Nat} {trajectory : Classified}
    (hprev : (prevPcf.map isPowerBoundFrac).getD true = true)
    (h : detectPowerBoundKnee.go prevPcf i trajectory = some k) :
    i ≤ k ∧ trajectory.drop (k - i) = trajectory.dropWhile boundAt := by
  induction trajectory generalizing prevPcf i with
  | nil => cases h
  | cons entry rest ih =>
    unfold detectPowerBoundKnee.go classifyKneeTransition at h
    simp only [hprev] at h
    cases hbound : isPowerBoundFrac entry.1.powerCappedFrac with
    | true =>
      simp only [hbound, if_true, reduceCtorEq, if_false] at h
      obtain ⟨hle, hdrop⟩ := ih (by simpa using hbound) h
      have hstep : k - i = (k - (i + 1)) + 1 := by omega
      refine ⟨by omega, ?_⟩
      rw [hstep, List.drop_succ_cons, hdrop]
      exact (List.dropWhile_cons_of_pos (p := boundAt) hbound).symm
    | false =>
      simp only [hbound, Bool.false_eq_true, if_false, if_true] at h
      obtain rfl := Option.some.inj h
      have hoff : ¬ boundAt entry = true := by
        unfold boundAt isPowerBoundPoint
        simp [hbound]
      exact ⟨le_rfl, by rw [Nat.sub_self, List.drop_zero, List.dropWhile_cons_of_neg hoff]⟩

/-- From the knee on, a trajectory has the points behind its power-bound stretch. -/
theorem detectPowerBoundKnee_drop {k : Nat} {trajectory : Classified}
    (h : detectPowerBoundKnee trajectory = some k) :
    trajectory.drop k = trajectory.dropWhile boundAt :=
  (detectPowerBoundKnee_go rfl h).2

/-- The tail counts the points from the knee on. -/
structure KneeTail.Counts (points : Classified) (tail : KneeTail) : Prop where
  tailBins : (points.dropWhile boundAt).length = tail.tailBins
  kneeBin : tail.kneeBin.isSome = !(points.dropWhile boundAt).isEmpty

theorem KneeTail.Counts.capture {points : Classified} {tail : KneeTail}
    (h : KneeTail.Counts points tail) (pt : PowerSweepPoint) (confidence : ℚ) (v : Nat) :
    KneeTail.Counts (points ++ [(pt, confidence)]) (tail.capture (!isPowerBoundPoint pt) v) := by
  obtain ⟨hbins, hknee⟩ := h
  cases hbin : tail.kneeBin with
  | none =>
    have hempty : points.dropWhile boundAt = [] := by simpa [hbin] using hknee
    rw [hempty] at hbins
    cases hbound : isPowerBoundPoint pt with
    | true =>
      have htail : (points ++ [(pt, confidence)]).dropWhile boundAt = [] := by
        simp [List.dropWhile_append, hempty, boundAt, hbound]
      exact ⟨by simp [htail, KneeTail.capture, hbin, ← hbins],
        by simp [htail, KneeTail.capture, hbin]⟩
    | false =>
      have htail : (points ++ [(pt, confidence)]).dropWhile boundAt = [(pt, confidence)] := by
        simp [List.dropWhile_append, hempty, boundAt, hbound]
      exact ⟨by simp [htail, KneeTail.capture, ← hbins],
        by simp [htail, KneeTail.capture, hbin]⟩
  | some b =>
    have hsome : (points.dropWhile boundAt).isEmpty = false := by simpa [hbin] using hknee
    have htail : (points ++ [(pt, confidence)]).dropWhile boundAt =
        points.dropWhile boundAt ++ [(pt, confidence)] := by
      simp [List.dropWhile_append, hsome]
    cases hbound : isPowerBoundPoint pt with
    | true => exact ⟨by simp [htail, KneeTail.capture, hbin, hbins],
        by simp [htail, KneeTail.capture, hbin]⟩
    | false => exact ⟨by simp [htail, KneeTail.capture, hbin, hbins],
        by simp [htail, KneeTail.capture, hbin]⟩

theorem KneeTail.tailBins_capture_le (tail : KneeTail) (offCap : Bool) (v : Nat) :
    (tail.capture offCap v).tailBins ≤ tail.tailBins + 1 := by
  unfold KneeTail.capture
  simp only
  split <;> split <;> omega

/-- A tail that is not complete has room for another bin. -/
theorem KneeTail.Counts.room {points : Classified} {tail : KneeTail}
    (h : KneeTail.Counts points tail) (hopen : tail.complete = false) :
    tail.tailBins < phaseBPostKneeTailBins := by
  obtain ⟨hbins, hknee⟩ := h
  cases hbin : tail.kneeBin with
  | none =>
    have hempty : points.dropWhile boundAt = [] := by simpa [hbin] using hknee
    rw [hempty] at hbins
    exact hbins ▸ Nat.succ_pos 4
  | some b =>
    simp only [KneeTail.complete, hbin, Option.isSome_some, Bool.true_and, Bool.or_eq_false_iff,
      decide_eq_false_iff_not, not_le] at hopen
    exact hopen.2

section PhaseB

variable {S : Type*} {probe : Nat → Nat → S → ProbeSample × S} {target budget : Nat}

/-- A descent stops before the points from the knee on outgrow the tail. -/
theorem phaseBBins_tail (walk : List Nat) {traj : PhaseBTrajectory} {tail : KneeTail} (s : S)
    (hcounts : KneeTail.Counts traj.points tail) (hroom : tail.tailBins < phaseBPostKneeTailBins) :
    ((phaseBBins probe target budget walk traj tail s).1.points.dropWhile boundAt).length ≤
      phaseBPostKneeTailBins := by
  have hkept : (traj.points.dropWhile boundAt).length ≤ phaseBPostKneeTailBins :=
    hcounts.tailBins.trans_le hroom.le
  induction walk generalizing traj tail s with
  | nil => exact hkept
  | cons v walk ih =>
    unfold phaseBBins
    simp only
    split
    next => exact hkept
    next =>
      split
      next => exact hkept
      next =>
        have hcounts' := hcounts.capture (probeToPoint target v (probe target v s).1)
          (probe target v s).1.confidence v
        split
        next =>
          have hstep := tail.tailBins_capture_le
            (!isPowerBoundPoint (probeToPoint target v (probe target v s).1)) v
          exact hcounts'.tailBins.trans_le (hstep.trans hroom)
        next hopen =>
          have hroom' := hcounts'.room (Bool.eq_false_iff.mpr hopen)
          exact ih _ hcounts' hroom' (hcounts'.tailBins.trans_le hroom'.le)

theorem descendPhaseB_tail (descent : FrontierDescent) (startMv : Nat) (s : S) :
    ((descendPhaseB probe target budget descent startMv s).1.points.dropWhile boundAt).length ≤
      phaseBPostKneeTailBins := by
  unfold descendPhaseB
  split
  next => exact Nat.zero_le _
  next => exact phaseBBins_tail _ s ⟨rfl, rfl⟩ (Nat.succ_pos 4)

end PhaseB

theorem phaseBStartBelow_spec {descent : FrontierDescent} {floor start : Nat}
    (h : phaseBStartBelow descent floor = some start) :
    start ∈ descent.binsDesc ∧ start < floor := by
  obtain ⟨hmem, -⟩ := List.max?_eq_some_iff.mp h
  simpa using List.mem_filter.mp hmem

end Nidavellir

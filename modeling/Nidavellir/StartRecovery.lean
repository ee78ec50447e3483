import Nidavellir.DiscoveryEvidence
import Nidavellir.Lib.Runs

namespace Nidavellir

open Runs

def f2StartRecoveryMaxClimbs : Nat := 4

/-- One call on a clock: its arguments, the log it began with and the candidates it tested. -/
structure F2CallRecord where
  call : F2ClockCall
  before : List F2Observation
  visits : List F2CandidateVisit

def F2CallRecord.startMv (self : F2CallRecord) : Option Nat := self.call.startMv

/-- Both starts are voltages, the later one higher. -/
def StartsBelow (earlier later : Option Nat) : Prop :=
  ∃ low high, earlier = some low ∧ later = some high ∧ low < high

theorem StartsBelow.trans {a b c : Option Nat} (h : StartsBelow a b) (h' : StartsBelow b c) :
    StartsBelow a c := by
  obtain ⟨low, mid, rfl, rfl, hlow⟩ := h
  obtain ⟨_, high, hmid, rfl, hhigh⟩ := h'
  obtain rfl := Option.some.inj hmid
  exact ⟨low, high, rfl, rfl, hlow.trans hhigh⟩

/-- The summary of a rejection at the start bin, which does not discard the clock. -/
def F2ClockDiscoverySummary.climbs (self : F2ClockDiscoverySummary) : Bool :=
  self.warmStartRejected && !self.aborted && self.stopReason.startsWith "QualificationRejected"

section Target

variable {W : Type*} [F2World W] [BuildEnv]

/-- The same clock again, from another start. -/
def F2ClockCall.attempt (call : F2ClockCall) (startMv : Option Nat) (last : F2ClockCallRun W) :
    F2CallRecord × F2ClockCallRun W :=
  let call := { call with startMv }
  let run := runConfirmedF2ClockDiscovery call last.log last.world
  (⟨call, last.log, run.visits⟩, run)

/-- The upward recovery: one physical bin higher while the start bin is rejected. -/
def F2ClockCall.climb (call : F2ClockCall) :
    (left : Nat) → (lastAttemptedStartMv : Option Nat) → F2ClockCallRun W →
      List F2CallRecord × F2ClockCallRun W
  | 0, _, last => ([], last)
  | left + 1, lastAttemptedStartMv, last =>
    if last.summary.climbs then
      let (stop, world) := F2World.stopRequested last.world
      let last := { last with world }
      if stop then ([], last)
      else
        match lastAttemptedStartMv.bind (f2NextBinAbove call.sane) with
        | none => ([], last)
        | some nextStart =>
          let (record, run) := call.attempt (some nextStart) last
          let (records, run) := climb call left (some nextStart) run
          (record :: records, run)
    else ([], last)

/-- The conservative fallback after a warm start that did not hold: its call, where it is made,
and the start that the recovery climbs from. -/
def F2ClockCall.fallback (call : F2ClockCall) (conservativeStartMv : Option Nat)
    (first : F2ClockCallRun W) : List F2CallRecord × Option Nat × F2ClockCallRun W :=
  match call.startMv with
  | none => ([], none, first)
  | some warm =>
    if first.summary.warmStartRejected &&
        conservativeStartMv.all (fun fallback => decide (warm < fallback)) then
      let (record, run) := call.attempt conservativeStartMv first
      ([record], conservativeStartMv, run)
    else ([], some warm, first)

/-- The calls on one target of the Forge. -/
structure F2TargetRun (W : Type*) where
  first : F2CallRecord
  recovery : List F2CallRecord
  last : F2ClockCallRun W

def F2ClockCall.runTarget (call : F2ClockCall) (conservativeStartMv : Option Nat)
    (log : List F2Observation) (w : W) : F2TargetRun W :=
  let first := runConfirmedF2ClockDiscovery call log w
  let (fallbacks, lastAttemptedStartMv, last) := call.fallback conservativeStartMv first
  let (climbs, last) := call.climb f2StartRecoveryMaxClimbs lastAttemptedStartMv last
  ⟨⟨call, log, first.visits⟩, fallbacks ++ climbs, last⟩

variable {call : F2ClockCall}

@[simp] theorem F2ClockCall.attempt_startMv (startMv : Option Nat) (last : F2ClockCallRun W) :
    (call.attempt startMv last).1.startMv = startMv := rfl

theorem F2ClockCall.climb_starts (left : Nat) (startMv : Option Nat) (last : F2ClockCallRun W) :
    (call.climb left startMv last).1.length ≤ left ∧
      (startMv :: (call.climb left startMv last).1.map F2CallRecord.startMv).Pairwise
        StartsBelow := by
  induction left generalizing startMv last with
  | zero => simp [climb]
  | succ left ih =>
    unfold climb
    split
    next =>
      dsimp only
      split
      next => simp
      next =>
        split
        next => simp
        next nextStart hnext =>
          obtain ⟨base, rfl, hbin⟩ := Option.bind_eq_some_iff.mp hnext
          obtain ⟨hlen, hstarts⟩ := ih (some nextStart) (call.attempt (some nextStart)
            { last with world := (F2World.stopRequested last.world).2 }).2
          have habove : StartsBelow (some base) (some nextStart) :=
            ⟨base, nextStart, rfl, rfl, (f2NextBinAbove_spec hbin).2.1⟩
          refine ⟨Nat.succ_le_succ hlen, ?_⟩
          refine List.pairwise_cons.mpr ⟨?_, hstarts⟩
          intro start hstart
          rcases List.mem_cons.mp hstart with rfl | hstart
          · exact habove
          · exact habove.trans ((List.pairwise_cons.mp hstarts).1 start hstart)
    next => simp

/-- The starts of the fallback and of the climbs of one target: at most five, each above the one
before. -/
theorem F2ClockCall.runTarget_starts (call : F2ClockCall) (conservativeStartMv : Option Nat)
    (log : List F2Observation) (w : W) :
    (call.runTarget conservativeStartMv log w).recovery.length ≤ f2StartRecoveryMaxClimbs + 1 ∧
      ((call.runTarget conservativeStartMv log w).recovery.map F2CallRecord.startMv).Pairwise
        StartsBelow := by
  unfold runTarget fallback
  dsimp only
  split
  next =>
    obtain ⟨hlen, hstarts⟩ := call.climb_starts f2StartRecoveryMaxClimbs none
      (runConfirmedF2ClockDiscovery call log w)
    exact ⟨by simpa using Nat.le_succ_of_le hlen, by simpa using (List.pairwise_cons.mp hstarts).2⟩
  next warm hwarm =>
    split
    next =>
      obtain ⟨hlen, hstarts⟩ := call.climb_starts f2StartRecoveryMaxClimbs conservativeStartMv
        (call.attempt conservativeStartMv (runConfirmedF2ClockDiscovery call log w)).2
      exact ⟨by simpa using hlen, by simpa using hstarts⟩
    next =>
      obtain ⟨hlen, hstarts⟩ := call.climb_starts f2StartRecoveryMaxClimbs (some warm)
        (runConfirmedF2ClockDiscovery call log w)
      exact ⟨by simpa using Nat.le_succ_of_le hlen,
        by simpa using (List.pairwise_cons.mp hstarts).2⟩

end Target

end Nidavellir

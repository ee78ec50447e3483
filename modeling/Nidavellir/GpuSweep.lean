import Mathlib.Data.Prod.Lex
import Nidavellir.GpuApply
import Nidavellir.Lib.Extremes
import Nidavellir.SafeLoop
import Nidavellir.VoltageBisection

namespace Nidavellir

open Extremes

structure TradeoffPoint where
  freqMhz : Nat
  vminMv : Nat
deriving DecidableEq, Repr

def TradeoffPoint.point (self : TradeoffPoint) : VfPoint := ⟨self.freqMhz, self.vminMv⟩

structure GpuProfile where
  name : String
  description : String
  point : VfPoint
deriving DecidableEq, Repr

structure GpuProfileSet where
  godforge : GpuProfile
  brokkrsBest : GpuProfile
  deepCalm : GpuProfile
deriving DecidableEq, Repr

def GpuProfileSet.profiles (self : GpuProfileSet) : List GpuProfile :=
  [self.godforge, self.brokkrsBest, self.deepCalm]

/-- The highest clock, the best ratio, and the lowest voltage that holds 95% of the baseline. -/
def synthesizeProfiles (baselineFreqMhz : Nat) (points : List TradeoffPoint) :
    Option GpuProfileSet := do
  let godforge ← maxByKey (fun p => toLex (p.freqMhz, OrderDual.toDual p.vminMv)) points
  let brokkrs ← maxByKey (fun p => p.freqMhz * 1000 / max p.vminMv 1) points
  let threshold := baselineFreqMhz * 95 / 100
  let deepCalm := (minByKey (fun p => toLex (p.vminMv, OrderDual.toDual p.freqMhz))
    (points.filter fun p => threshold ≤ p.freqMhz)).getD godforge
  some {
    godforge := {
      name := "Godforge"
      description := "Highest sustained clock at the lowest stable voltage."
      point := godforge.point }
    brokkrsBest := {
      name := "Brokkr's Best"
      description := "Perf/watt knee — every MHz still worth the watt."
      point := brokkrs.point }
    deepCalm := {
      name := "Deep Calm"
      description := "Lowest watts while holding >=95% of base clock — cool and quiet."
      point := deepCalm.point } }

inductive SweepPhase
  | idle
  | baseline
  | vramDiagnostic
  | voltageBisection
  | synthesis
  | done
  | aborted
deriving DecidableEq, Repr

structure GpuSweepConfig where
  targetFreqsMhz : List Nat := [1950, 1875, 1800, 1695]
  stockMv : Nat := 1050
  floorMv : Nat := 700
  descentStepMv : Nat := 25
  minStepMv : Nat := 5
  fixedMarginMv : Nat := 15
  tempCoeffMvPerC : Nat := 1
  tempHeadroomC : Nat := 15
deriving DecidableEq, Repr

def GpuSweepConfig.bisectionAt (self : GpuSweepConfig) (freqMhz : Nat) : VoltageBisection :=
  .new freqMhz self.stockMv self.floorMv self.descentStepMv self.minStepMv

def GpuSweepConfig.safe (self : GpuSweepConfig) (cliffMv : Nat) : Nat :=
  applySafetyMargin cliffMv self.fixedMarginMv self.tempCoeffMvPerC self.tempHeadroomC

inductive SweepCommand
  | applyAndTest (point : VfPoint)
  | finished
deriving DecidableEq, Repr

structure GpuSweepEngine where
  config : GpuSweepConfig
  baselineFreqMhz : Nat
  phase : SweepPhase
  freqIndex : Nat
  bisection : Option VoltageBisection
  tradeoffs : List TradeoffPoint
  profiles : Option GpuProfileSet
  simulated : Bool

namespace GpuSweepEngine

def new (config : GpuSweepConfig) (baselineFreqMhz : Nat) (simulated : Bool) :
    GpuSweepEngine where
  config := config
  baselineFreqMhz := baselineFreqMhz
  phase := .voltageBisection
  freqIndex := 0
  bisection := none
  tradeoffs := []
  profiles := none
  simulated := simulated

def halted (self : GpuSweepEngine) : Bool := self.phase == .done || self.phase == .aborted

/-- The running bisection, or the one `start_freq` sets up; `none` past the last target. -/
def started (self : GpuSweepEngine) : Option VoltageBisection :=
  self.bisection.or (self.config.targetFreqsMhz[self.freqIndex]?.map self.config.bisectionAt)

/-- Records the cliff with its margin and moves to the next target. -/
def advance (self : GpuSweepEngine) (bis : VoltageBisection) : GpuSweepEngine :=
  { self with
    tradeoffs := self.tradeoffs ++ [⟨bis.freqMhz, self.config.safe bis.minStableMv⟩]
    bisection := none
    freqIndex := self.freqIndex + 1 }

def finish (self : GpuSweepEngine) : GpuSweepEngine :=
  { self with
    profiles := synthesizeProfiles self.baselineFreqMhz self.tradeoffs
    phase := .done }

def remaining (self : GpuSweepEngine) : Nat :=
  self.config.targetFreqsMhz.length - self.freqIndex + self.bisection.isSome.toNat

theorem remaining_advance_lt {self : GpuSweepEngine} {bis bis' : VoltageBisection}
    (h : self.started = some bis) : (self.advance bis').remaining < self.remaining := by
  have hadvance : (self.advance bis').remaining =
      self.config.targetFreqsMhz.length - (self.freqIndex + 1) := rfl
  rw [hadvance, remaining]
  cases hb : self.bisection with
  | some b =>
    show _ < _ + 1
    omega
  | none =>
    rw [started, hb, Option.none_or] at h
    obtain ⟨freq, hfreq, -⟩ := Option.map_eq_some_iff.mp h
    obtain ⟨hlt, -⟩ := List.getElem?_eq_some_iff.mp hfreq
    omega

/-- The next action, advancing over the targets that need no further test. -/
def nextCommand (self : GpuSweepEngine) : GpuSweepEngine × SweepCommand :=
  if self.halted then (self, .finished)
  else
    match _h : self.started with
    | none => (self.finish, .finished)
    | some bis =>
      match bis.nextTest with
      | (bis, some mv) =>
        ({ self with bisection := some bis }, .applyAndTest ⟨bis.freqMhz, mv⟩)
      | (bis, none) => (self.advance bis).nextCommand
termination_by self.remaining
decreasing_by exact remaining_advance_lt _h

theorem nextCommand_of_halted {self : GpuSweepEngine} (h : self.halted = true) :
    self.nextCommand = (self, .finished) := by
  rw [nextCommand, if_pos h]

theorem nextCommand_of_no_target {self : GpuSweepEngine} (h : self.halted = false)
    (hs : self.started = none) : self.nextCommand = (self.finish, .finished) := by
  rw [nextCommand, if_neg (Bool.eq_false_iff.mp h)]
  split
  next => rfl
  next heq => simp [hs] at heq

theorem nextCommand_of_converged {self : GpuSweepEngine} {bis : VoltageBisection}
    (h : self.halted = false) (hs : self.started = some bis)
    (hc : bis.isConverged = true) :
    self.nextCommand = (self.advance bis).nextCommand := by
  have hcand := VoltageBisection.candidate_eq_none_iff.mpr hc
  rw [nextCommand, if_neg (Bool.eq_false_iff.mp h)]
  split
  next heq => simp [hs] at heq
  next bis' heq =>
    obtain rfl := Option.some.inj (hs.symm.trans heq)
    rw [VoltageBisection.nextTest, hcand]
    rfl

def record (self : GpuSweepEngine) (result : StabilityResult) : GpuSweepEngine :=
  { self with bisection := self.bisection.map (·.record result) }

def abort (self : GpuSweepEngine) : GpuSweepEngine :=
  { self with phase := .aborted, bisection := none }

/-- The driver loop over these results: `none` when it needs more of them or is done before. -/
def drive (self : GpuSweepEngine) : List StabilityResult → Option GpuSweepEngine
  | [] =>
    match self.nextCommand with
    | (self, .finished) => some self
    | (_, .applyAndTest _) => none
  | result :: results =>
    match self.nextCommand with
    | (_, .finished) => none
    | (self, .applyAndTest _) => (self.record result).drive results

end GpuSweepEngine

/-- What a sweep of the first generation does to the card and to the boot flag, in order. A write
says whether it succeeded; a load runs under whatever is then set. -/
inductive LegacyEvent
  | resetAll (ok : Bool)
  | armBootFlag (intent : TuningPoint) (phase : String) (ok : Bool)
  | clearBootFlag
  | setMemOffsetMhz (offsetMhz : Int) (ok : Bool)
  | setCoreOffsetMhz (offsetMhz : Int) (ok : Bool)
  | lockCoreVoltageMv (mv : Nat) (ok : Bool)
  | unlockCoreVoltage (ok : Bool)
  | applyCore (point : VfPoint) (ok : Bool)
  | load
  | applyAndPersist (label : String) (core : Option VfPoint) (memOffsetMhz : Option Int)
deriving DecidableEq

/-- A panic inside a load counts as a crash. -/
def caught (result : Option StabilityResult) : StabilityResult := result.getD .crash

/-- The lowest share of the peak bandwidth. -/
def bandwidthConsistency (peak minbw : ℚ) : ℚ := if 0 < peak then minbw / peak else 0

end Nidavellir

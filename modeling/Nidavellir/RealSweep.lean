import Nidavellir.GpuSweep

namespace Nidavellir

namespace RealSweep

/-- A preset of the sweep: a positive step of the clock, and voltages that differ. -/
structure Quality where
  passes : Nat
  stepMhz : Int
  marginMhz : Nat
  warmupS : Nat
  voltages : List Nat
  capMhz : Int
  step_pos : 0 < stepMhz
  distinct : voltages.Nodup

def Quality.fast : Quality where
  passes := 1
  stepMhz := 30
  marginMhz := 60
  warmupS := 5
  voltages := [925, 875]
  capMhz := 330
  step_pos := by decide
  distinct := by decide

def Quality.thorough : Quality where
  passes := 3
  stepMhz := 15
  marginMhz := 90
  warmupS := 12
  voltages := [950, 925, 900, 875]
  capMhz := 390
  step_pos := by decide
  distinct := by decide

def cliffApproachMhz : Nat := 75

def Quality.fineStep (q : Quality) : Int := max (q.stepMhz / 3) 5

structure GpuSweepProgress where
  phase : SweepPhase := .idle
  current : Option VfPoint := none
  freqIndex : Nat := 0
  totalFreqs : Nat := 0
  tradeoffs : List TradeoffPoint := []
  profiles : Option GpuProfileSet := none
  measuredMhz : Option Nat := none
  gpuTempC : Option ℚ := none
  lastResult : Option StabilityResult := none
  validationNote : Option String := none

structure StepAnswer where
  stop : Bool
  armed : Bool
  set : Bool
  res : Option StabilityResult
  peak : Nat
  temp : Option ℚ
  setZero : Bool
  unlocked : Bool
  recovered : Bool

/-- What one voltage meets, its steps counted from zero. -/
structure VoltAnswer where
  stop : Bool
  lock : Bool
  steps : Nat → StepAnswer
  zeroAfter : Bool

structure ValidateAnswer where
  armed : Bool
  lock : Bool
  set : Bool
  res : Option StabilityResult
  peak : Nat
  temp : Option ℚ

structure RealSweepAnswers where
  ctx : Except String Unit
  resetFirst : Bool
  vram : Option StabilityResult
  resetAbort : Bool
  warmups : Nat
  volts : Nat → VoltAnswer
  resetMid : Bool
  stopAfter : Bool
  validate : Nat → ValidateAnswer
  resetLast : Bool

structure SweepState where
  prog : GpuSweepProgress
  crashed : Bool := false
  topCandidate : Option (Nat × Int) := none
  minUnstableReal : Option Nat := none

/-- How the climb at one voltage ended: on to the next voltage with the best stable clock, or out of
the voltages. -/
inductive VoltEnd
  | next (bestStable : Option Nat)
  | out

def realIntent (v : Nat) (offset : Int) : TuningPoint :=
  .fromAxes [("gpu_voltage_mv", (v : Int)), ("gpu_offset_mhz", offset)]

def noteUnstable (known : Option Nat) (peak : Nat) : Option Nat :=
  some (known.elim peak fun u => min u peak)

/-- Near a known cliff the step shrinks. -/
def Quality.nextStep (q : Quality) (minUnstableReal : Option Nat) (peak : Nat) (step : Int) : Int :=
  if minUnstableReal.any fun u => decide (u ≤ peak + cliffApproachMhz) then q.fineStep else step

theorem Quality.nextStep_pos (q : Quality) (minUnstableReal : Option Nat) (peak : Nat) {step : Int}
    (h : 0 < step) : 0 < q.nextStep minUnstableReal peak step := by
  unfold nextStep fineStep
  split <;> omega

/-- The climb of the clock at one voltage. -/
def voltLoop (q : Quality) (vi v : Nat) (steps : Nat → StepAnswer) (n : Nat) (offset step : Int)
    (hstep : 0 < step) (bestStable : Option Nat) (s : SweepState) :
    VoltEnd × SweepState × List LegacyEvent :=
  let a := steps n
  if a.stop then (.out, s, [])
  else
    let arm := LegacyEvent.armBootFlag (realIntent v offset) "gpu_real_sweep" a.armed
    let set := LegacyEvent.setCoreOffsetMhz offset a.set
    if !a.set then (.next bestStable, s, [arm, set])
    else
      let result := caught a.res
      let s := { s with prog := { s.prog with
        current := some ⟨a.peak, v⟩
        measuredMhz := some a.peak
        gpuTempC := a.temp
        lastResult := some result } }
      match result with
      | .stable =>
        let s := { s with topCandidate := if vi = 0 then some (v, offset) else s.topCandidate }
        let next := q.nextStep s.minUnstableReal a.peak step
        if q.capMhz < offset + next then
          (.next (some a.peak), s, [arm, set, .load, .clearBootFlag])
        else
          let (ending, s, events) := voltLoop q vi v steps (n + 1) (offset + next) next
            (q.nextStep_pos s.minUnstableReal a.peak hstep) (some a.peak) s
          (ending, s, [arm, set, .load, .clearBootFlag] ++ events)
      | .silentError | .unstable =>
        (.next bestStable,
          { s with minUnstableReal := noteUnstable s.minUnstableReal a.peak }, [arm, set, .load])
      | .crash =>
        let s := { s with minUnstableReal := noteUnstable s.minUnstableReal a.peak }
        let events :=
          [arm, set, .load, .setCoreOffsetMhz 0 a.setZero, .unlockCoreVoltage a.unlocked]
        if a.recovered then (.next bestStable, s, events)
        else (.out, { s with crashed := true }, events)
termination_by (q.capMhz + 1 - offset).toNat
decreasing_by
  have hnext : 0 < next := q.nextStep_pos s.minUnstableReal a.peak hstep
  change (q.capMhz + 1 - (offset + next)).toNat < (q.capMhz + 1 - offset).toNat
  omega

/-- The point that a voltage gives, with the margin off its best clock. -/
def Quality.safePoint (q : Quality) (v : Nat) (bestStable : Option Nat) : List TradeoffPoint :=
  match bestStable with
  | some best => if 0 < best - q.marginMhz then [⟨best - q.marginMhz, v⟩] else []
  | none => []

def voltagesLoop (q : Quality) (volts : Nat → VoltAnswer) :
    List Nat → Nat → SweepState → SweepState × List LegacyEvent
  | [], _, s => (s, [])
  | v :: rest, vi, s =>
    let a := volts vi
    if a.stop then (s, [])
    else if !a.lock then (s, [.lockCoreVoltageMv v false])
    else
      let s := { s with prog := { s.prog with phase := .voltageBisection, freqIndex := vi } }
      match voltLoop q vi v a.steps 0 0 q.stepMhz q.step_pos none s with
      | (.out, s, events) => (s, .lockCoreVoltageMv v true :: events)
      | (.next bestStable, s, events) =>
        let s := { s with prog := { s.prog with
          tradeoffs := s.prog.tradeoffs ++ q.safePoint v bestStable } }
        let (s, later) := voltagesLoop q volts rest (vi + 1) s
        (s, .lockCoreVoltageMv v true :: events ++ .setCoreOffsetMhz 0 a.zeroAfter :: later)

/-- The long validation of the candidate of the top voltage, in two attempts. -/
def validateLoop (q : Quality) (validate : Nat → ValidateAnswer) (v0 : Nat) :
    List Nat → Int → String → SweepState → (String × SweepState) × List LegacyEvent
  | [], _, note, s => ((note, s), [])
  | attempt :: rest, valOff, note, s =>
    let a := validate attempt
    let arm := LegacyEvent.armBootFlag (realIntent v0 valOff) "gpu_real_validate" a.armed
    let lock := LegacyEvent.lockCoreVoltageMv v0 a.lock
    let set := LegacyEvent.setCoreOffsetMhz valOff a.set
    if !a.set then ((note, s), [arm, lock, set])
    else
      let res := caught a.res
      let s := { s with prog := { s.prog with
        measuredMhz := some a.peak, gpuTempC := a.temp, lastResult := some res } }
      if res.isStable then
        ((s!"Validado (Silver): {a.peak} MHz @ {v0} mV estável no soak longo — confirme em jogo",
          s), [arm, lock, set, .load, .clearBootFlag])
      else if res = .crash then
        (("Travou na validação longa — recue mais", { s with crashed := true }),
          [arm, lock, set, .load])
      else
        let (answer, later) := validateLoop q validate v0 rest (max (valOff - q.stepMhz * 2) 0)
          s!"Erro silencioso no soak — recuando (tentativa {attempt + 1})" s
        (answer, [arm, lock, set, .load] ++ later)

def runRealSweep (q : Quality) (a : RealSweepAnswers) : GpuSweepProgress × List LegacyEvent :=
  match a.ctx with
  | .error _ => ({}, [])
  | .ok () =>
    let prog : GpuSweepProgress := { phase := .vramDiagnostic, totalFreqs := q.voltages.length }
    let vram := caught a.vram
    if !vram.isStable then
      ({ prog with phase := .aborted, lastResult := some vram },
        [.resetAll a.resetFirst, .load, .resetAll a.resetAbort])
    else
      let warm := .resetAll a.resetFirst :: .load :: List.replicate a.warmups .load
      let (s, climbed) := voltagesLoop q a.volts q.voltages 0
        { prog := { prog with phase := .baseline } }
      let baseline := ((s.prog.tradeoffs.map TradeoffPoint.freqMhz).max?).getD 0
      let s := { s with prog := { s.prog with
        profiles := synthesizeProfiles baseline s.prog.tradeoffs, current := none } }
      let (s, validated) :=
        if s.crashed || a.stopAfter then (s, [])
        else
          match s.topCandidate with
          | none => (s, [])
          | some (v0, off0) =>
            let ((note, s), events) := validateLoop q a.validate v0 [0, 1]
              (max (off0 - q.marginMhz) 0) "Falhou na validação longa"
              { s with prog := { s.prog with phase := .synthesis } }
            ({ s with prog := { s.prog with validationNote := some note } }, events)
      ({ s.prog with
          current := none
          phase := if s.crashed then .aborted else .done
          freqIndex := s.prog.totalFreqs },
        warm ++ climbed ++ [.resetAll a.resetMid, .clearBootFlag] ++ validated ++
          [.resetAll a.resetLast, .clearBootFlag])

end RealSweep

end Nidavellir

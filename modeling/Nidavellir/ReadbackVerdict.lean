import Nidavellir.ReadbackCompare

namespace Nidavellir.GpuStress

/-- What a readback brings, `none` when the map fails, and whether the device-error flag goes up
with it. -/
structure Readback where
  mapped : Option UInt32
  raised : Bool
deriving DecidableEq, Repr

def readU32 (mapped : Option UInt32) : UInt32 := mapped.getD 0

/-- Every readback succeeded and showed no mismatch. -/
def Clean (readings : List (Option UInt32)) : Prop := ∀ mapped ∈ readings, mapped = some 0

instance (readings : List (Option UInt32)) : Decidable (Clean readings) :=
  inferInstanceAs (Decidable (∀ _ ∈ _, _))

theorem readU32_eq_zero_iff {mapped : Option UInt32} :
    readU32 mapped = 0 ↔ mapped = none ∨ mapped = some 0 := by
  cases mapped with
  | none => simp [readU32]
  | some count => simp [readU32]

/-- A verdict that is stable when no counter read as nonzero says that all readbacks were clean
exactly when a failed one is made up for by the flag, by a mismatch or by the pace. -/
theorem clean_of_stable_iff {readings : List (Option UInt32)} {stable flagged slow : Prop}
    (hstable : stable ↔ ¬ flagged ∧ (∀ mapped ∈ readings, readU32 mapped = 0) ∧ ¬ slow) :
    (stable → Clean readings) ↔
      (none ∈ readings → flagged ∨ (∃ count ≠ 0, some count ∈ readings) ∨ slow) := by
  rw [hstable]
  constructor
  · intro h hfailed
    by_contra hquiet
    push Not at hquiet
    obtain ⟨hflag, hcounts, hslow⟩ := hquiet
    have hread : ∀ mapped ∈ readings, readU32 mapped = 0 := by
      intro mapped hmapped
      cases mapped with
      | none => rfl
      | some count =>
        by_contra hcount
        exact hcounts count hcount hmapped
    have := h ⟨hflag, hread, hslow⟩ none hfailed
    cases this
  · rintro h ⟨hflag, hread, hslow⟩ mapped hmapped
    rcases readU32_eq_zero_iff.mp (hread mapped hmapped) with rfl | hzero
    · rcases h hmapped with hup | ⟨count, hcount, hmem⟩ | hpace
      · exact absurd hup hflag
      · exact absurd (hread _ hmem) hcount
      · exact absurd hpace hslow
    · exact hzero

def renderIntegrityResult (crashed diverged : Bool) : StabilityResult :=
  if crashed then .crash else if diverged then .silentError else .stable

/-- One turn of the render loop: whether a band or a slam of it stalled, whether the device-error
flag went up, and the readback of the mismatch counter when a check was due. -/
structure GoldenFrame where
  stalled : Bool
  raised : Bool
  check : Option Readback
deriving DecidableEq, Repr

/-- `readings` keeps what the checks read; the code does not. -/
structure GoldenState where
  crashed : Bool
  stalled : Bool
  diverged : Bool
  readings : List (Option UInt32)
deriving DecidableEq, Repr

namespace GoldenState

def init : GoldenState :=
  { crashed := false, stalled := false, diverged := false, readings := [] }

def checked (self : GoldenState) (readback : Readback) : GoldenState :=
  { self with
    crashed := self.crashed || readback.raised
    diverged := decide (readU32 readback.mapped > 0)
    readings := self.readings ++ [readback.mapped] }

/-- The divergence flag is what the readings say. -/
def Faithful (self : GoldenState) : Prop :=
  self.diverged = false ↔ ∀ mapped ∈ self.readings, readU32 mapped = 0

theorem faithful_checked {self : GoldenState} (h : self.Faithful) (hnot : self.diverged = false)
    (readback : Readback) : (self.checked readback).Faithful := by
  have hbefore := h.mp hnot
  unfold Faithful checked
  rw [decide_eq_false_iff_not, List.forall_mem_append, List.forall_mem_singleton]
  constructor
  · intro hzero
    exact ⟨hbefore, UInt32.le_zero_iff.mp (UInt32.not_lt.mp hzero)⟩
  · rintro ⟨-, hzero⟩
    rw [hzero]
    exact UInt32.lt_irrefl 0

end GoldenState

def goldenLoop : List GoldenFrame → GoldenState → GoldenState
  | [], s => s
  | frame :: rest, s =>
    let s :=
      { s with stalled := s.stalled || frame.stalled, crashed := s.crashed || frame.raised }
    if s.stalled || s.crashed then s
    else
      match frame.check with
      | none => goldenLoop rest s
      | some readback =>
        let s := s.checked readback
        if s.diverged then s else goldenLoop rest s

theorem faithful_goldenLoop (frames : List GoldenFrame) {s : GoldenState} (h : s.Faithful)
    (hnot : s.diverged = false) : (goldenLoop frames s).Faithful := by
  induction frames generalizing s with
  | nil => exact h
  | cons frame rest ih =>
    have hturned : GoldenState.Faithful
        { s with
          stalled := s.stalled || frame.stalled, crashed := s.crashed || frame.raised } := h
    rw [goldenLoop]
    dsimp only
    split
    next => exact h
    next =>
      cases frame.check with
      | none => exact ih hturned hnot
      | some readback =>
        have hchecked := GoldenState.faithful_checked hturned hnot readback
        dsimp only
        split
        next => exact hchecked
        next hgoing => exact ih hchecked (Bool.eq_false_iff.mpr hgoing)

/-- A dwell: the turns of its loop, the last readback, and the token and the flag as they stand at
the last check and at the verdict. -/
structure GoldenRun where
  frames : List GoldenFrame
  cancelled : Bool
  final : Readback
  raisedLate : Bool
  degraded : Bool
  cancelledLate : Bool
deriving DecidableEq, Repr

namespace GoldenRun

variable (run : GoldenRun)

def ended : GoldenState :=
  let s := goldenLoop run.frames .init
  if !s.diverged && !s.crashed && !run.cancelled then s.checked run.final else s

/-- The device-error flag at the verdict. -/
def flagged : Bool := run.ended.crashed || run.raisedLate

/-- Stalled or degraded, and not cancelled. -/
def slow : Bool := (run.ended.stalled || run.degraded) && !run.cancelledLate

def result : StabilityResult :=
  let result := renderIntegrityResult run.flagged run.ended.diverged
  if result = .stable && run.slow then .unstable else result

theorem faithful_ended : run.ended.Faithful := by
  have hinit : GoldenState.init.Faithful := by simp [GoldenState.Faithful, GoldenState.init]
  have hlooped := faithful_goldenLoop run.frames hinit rfl
  unfold ended
  dsimp only
  split
  next hfinal =>
    simp only [Bool.and_eq_true, Bool.not_eq_eq_eq_not, Bool.not_true] at hfinal
    exact GoldenState.faithful_checked hlooped hfinal.1.1 _
  next => exact hlooped

theorem result_stable_iff :
    run.result = .stable ↔ ¬ (run.flagged = true) ∧
      (∀ mapped ∈ run.ended.readings, readU32 mapped = 0) ∧ ¬ (run.slow = true) := by
  have hread : run.ended.diverged = false ↔
      ∀ mapped ∈ run.ended.readings, readU32 mapped = 0 := run.faithful_ended
  rw [← hread]
  unfold result renderIntegrityResult
  cases run.flagged <;> cases run.ended.diverged <;> cases run.slow <;> simp

end GoldenRun

/-- What the readback of each pass and pattern brings. -/
structure VramRun where
  passes : Nat
  readback : Nat → Nat → Readback
  raisedLate : Bool

structure VramState where
  totalMismatches : UInt32
  crashed : Bool
  readings : List (Option UInt32)
deriving DecidableEq, Repr

def vramLoop : List Readback → VramState → VramState
  | [], s => s
  | readback :: rest, s =>
    let s : VramState :=
      { totalMismatches := saturatingAdd s.totalMismatches (readU32 readback.mapped)
        crashed := s.crashed || readback.raised
        readings := s.readings ++ [readback.mapped] }
    if s.crashed then s else vramLoop rest s

theorem vramLoop_total (readbacks : List Readback) {s : VramState}
    (h : s.totalMismatches = 0 ↔ ∀ mapped ∈ s.readings, readU32 mapped = 0) :
    (vramLoop readbacks s).totalMismatches = 0 ↔
      ∀ mapped ∈ (vramLoop readbacks s).readings, readU32 mapped = 0 := by
  induction readbacks generalizing s with
  | nil => exact h
  | cons readback rest ih =>
    have hnext : saturatingAdd s.totalMismatches (readU32 readback.mapped) = 0 ↔
        ∀ mapped ∈ s.readings ++ [readback.mapped], readU32 mapped = 0 := by
      rw [saturatingAdd_eq_zero_iff, List.forall_mem_append, List.forall_mem_singleton, h]
    rw [vramLoop]
    dsimp only
    split
    next => exact hnext
    next => exact ih hnext

namespace VramRun

variable (run : VramRun)

def readbacks : List Readback :=
  (List.range (max run.passes 1)).flatMap fun pass => (List.range 5).map (run.readback pass)

def ended : VramState :=
  vramLoop run.readbacks { totalMismatches := 0, crashed := false, readings := [] }

/-- The device-error flag at the verdict. -/
def flagged : Bool := run.ended.crashed || run.raisedLate

def result : StabilityResult := verdict run.flagged run.ended.totalMismatches !run.ended.crashed

theorem result_stable_iff :
    run.result = .stable ↔ ¬ (run.flagged = true) ∧
      (∀ mapped ∈ run.ended.readings, readU32 mapped = 0) ∧ ¬ False := by
  have htotal : run.ended.totalMismatches = 0 ↔
      ∀ mapped ∈ run.ended.readings, readU32 mapped = 0 :=
    vramLoop_total run.readbacks (by simp)
  rw [← htotal]
  unfold result verdict flagged
  by_cases hzero : run.ended.totalMismatches = 0
  · cases run.ended.crashed <;> cases run.raisedLate <;> simp [hzero]
  · cases run.ended.crashed <;> cases run.raisedLate <;> simp [hzero]

end VramRun

/-- A run of a compute stage, with the size parameters of the stage and the buffers it read. -/
inductive ComputeStage
  | alu (name : String) (elements iters : UInt32) (run : Submission)
      (output : Option (List UInt32))
  | powerLoad (elements iters : UInt32) (run : Submission) (output : Option (List UInt32))
  | memory (name : String) (lanes gathers tableLen : UInt32) (run : Submission)
      (output : Option (List UInt32))
  | vramPressure (tables : Nat) (lanes gathers tableLen : UInt32) (run : Submission)
      (output : Option (List UInt32))
  | memChase (lanes steps len : UInt32) (run : Submission) (output : Option (List UInt32))
  | combined (fusedN fusedIters lanes steps mask : UInt32) (run : Submission)
      (fusedOutput chaseOutput : Option (List UInt32))

namespace ComputeStage

def report : ComputeStage → StageReport
  | alu name elements iters run output => runAlu name elements iters run output
  | powerLoad elements iters run output => runPowerLoad elements iters run output
  | memory name lanes gathers tableLen run output =>
    runMemory name lanes gathers tableLen run output
  | vramPressure tables lanes gathers tableLen run output =>
    runVramPressure tables lanes gathers tableLen run output
  | memChase lanes steps len run output => runMemChase lanes steps len run output
  | combined fusedN fusedIters lanes steps mask run fusedOutput chaseOutput =>
    runCombined fusedN fusedIters lanes steps mask run fusedOutput chaseOutput

/-- The device-error flag at the verdict. -/
def flagged : ComputeStage → Bool
  | alu _ _ _ run _ | powerLoad _ _ run _ | memory _ _ _ _ run _ | vramPressure _ _ _ _ run _
  | memChase _ _ _ run _ | combined _ _ _ _ _ run _ _ => run.crashed

/-- What the stage read and what it should have read; without a table it reads nothing. -/
def readings : ComputeStage → List (Option (List UInt32) × List UInt32)
  | alu _ elements iters run output => [(output, aluExpected elements iters run.k)]
  | powerLoad elements iters run output => [(output, powerExpected elements iters run.k)]
  | memory _ lanes gathers tableLen _ output => [(output, memExpected lanes gathers tableLen)]
  | vramPressure tables lanes gathers tableLen _ output =>
    if tables = 0 then [] else [(output, memExpected lanes gathers tableLen)]
  | memChase lanes steps len _ output => [(output, chaseExpected lanes steps (len - 1))]
  | combined fusedN fusedIters lanes steps mask run fusedOutput chaseOutput =>
    [(fusedOutput, aluExpected fusedN fusedIters run.k),
     (chaseOutput, chaseExpected lanes steps mask)]

/-- The map succeeded and the count of differing lanes, a word, came to zero. -/
def Counted (reading : Option (List UInt32) × List UInt32) : Prop :=
  ∃ output, reading.1 = some output ∧ 2 ^ 32 ∣ differing output reading.2

/-- The map succeeded and no lane differs. -/
def Matched (reading : Option (List UInt32) × List UInt32) : Prop :=
  ∃ output, reading.1 = some output ∧ differing output reading.2 = 0

theorem counted_iff {reading : Option (List UInt32) × List UInt32} :
    Counted reading ↔ readbackCompare reading.1 reading.2 = (0, true) := by
  unfold Counted readbackCompare
  cases reading.1 with
  | none => simp
  | some output => simp [countMismatches_eq_zero_iff]

theorem verdict_stable_iff_of_compare (crashed : Bool) (answer : UInt32 × Bool) :
    verdict crashed answer.1 answer.2 = .stable ↔ crashed = false ∧ answer = (0, true) := by
  obtain ⟨mismatches, mappedOk⟩ := answer
  by_cases hzero : mismatches = 0
  · cases crashed <;> cases mappedOk <;> simp [verdict, hzero]
  · cases crashed <;> cases mappedOk <;> simp [verdict, hzero]

theorem stageReport_stable_iff_counted (name : String) (expected : List UInt32)
    (run : Submission) (output : Option (List UInt32)) :
    (stageReport name expected run output).result = .stable ↔
      run.crashed = false ∧ Counted (output, expected) := by
  rw [counted_iff]
  exact verdict_stable_iff_of_compare _ _

theorem combined_stable_iff_counted (fusedN fusedIters lanes steps mask : UInt32)
    (run : Submission) (fusedOutput chaseOutput : Option (List UInt32)) :
    (runCombined fusedN fusedIters lanes steps mask run fusedOutput chaseOutput).result =
        .stable ↔
      run.crashed = false ∧ Counted (fusedOutput, aluExpected fusedN fusedIters run.k) ∧
        Counted (chaseOutput, chaseExpected lanes steps mask) := by
  have hboth : ∀ fused chase : UInt32 × Bool,
      (saturatingAdd fused.1 chase.1, fused.2 && chase.2) = ((0, true) : UInt32 × Bool) ↔
        fused = (0, true) ∧ chase = (0, true) := by
    rintro ⟨fusedCount, fusedOk⟩ ⟨chaseCount, chaseOk⟩
    simp only [Prod.mk.injEq, saturatingAdd_eq_zero_iff, Bool.and_eq_true]
    exact and_and_and_comm
  rw [counted_iff, counted_iff, ← hboth]
  exact verdict_stable_iff_of_compare run.crashed (saturatingAdd _ _, _ && _)

theorem report_stable_iff (stage : ComputeStage) (hreads : stage.readings ≠ []) :
    stage.report.result = .stable ↔
      stage.flagged = false ∧ ∀ reading ∈ stage.readings, Counted reading := by
  cases stage with
  | combined fusedN fusedIters lanes steps mask run fusedOutput chaseOutput =>
    refine (combined_stable_iff_counted ..).trans (and_congr_right fun _ => ?_)
    rw [readings, List.forall_mem_cons, List.forall_mem_singleton]
  | vramPressure tables lanes gathers tableLen run output =>
    have htables : tables ≠ 0 := fun h => hreads (if_pos h)
    rw [report, runVramPressure, readings, if_neg htables, if_neg htables,
      List.forall_mem_singleton]
    exact stageReport_stable_iff_counted ..
  | alu name elements iters run output =>
    rw [readings, List.forall_mem_singleton]
    exact stageReport_stable_iff_counted ..
  | powerLoad elements iters run output =>
    rw [readings, List.forall_mem_singleton]
    exact stageReport_stable_iff_counted ..
  | memory name lanes gathers tableLen run output =>
    rw [readings, List.forall_mem_singleton]
    exact stageReport_stable_iff_counted ..
  | memChase lanes steps len run output =>
    rw [readings, List.forall_mem_singleton]
    exact stageReport_stable_iff_counted ..

/-- The flag is down, every map succeeded, and as many lanes differ as make the count of a word
come to zero again. -/
structure CountWraps (stage : ComputeStage) : Prop where
  flagDown : stage.flagged = false
  counted : ∀ reading ∈ stage.readings, Counted reading
  differs : ∃ reading ∈ stage.readings, ¬ Matched reading

theorem matched_of_stable_iff (stage : ComputeStage) :
    (stage.report.result = .stable → ∀ reading ∈ stage.readings, Matched reading) ↔
      ¬ stage.CountWraps := by
  by_cases hreads : stage.readings = []
  · refine iff_of_true (fun _ reading hmem => ?_) fun h => ?_
    · rw [hreads] at hmem
      cases hmem
    · obtain ⟨reading, hmem, -⟩ := h.differs
      rw [hreads] at hmem
      cases hmem
  · rw [report_stable_iff stage hreads]
    constructor
    · intro h hwraps
      obtain ⟨reading, hmem, hdiffers⟩ := hwraps.differs
      exact hdiffers (h ⟨hwraps.flagDown, hwraps.counted⟩ reading hmem)
    · rintro h ⟨hflag, hcounted⟩ reading hmem
      by_contra hdiffers
      exact h ⟨hflag, hcounted, reading, hmem, hdiffers⟩

end ComputeStage

inductive IntegrityRun
  | golden (run : GoldenRun)
  | vram (run : VramRun)
  | compute (stage : ComputeStage)

namespace IntegrityRun

def result : IntegrityRun → StabilityResult
  | golden run => run.result
  | vram run => run.result
  | compute stage => stage.report.result

/-- Every integrity readback that was performed succeeded and showed no mismatch. -/
def ReadClean : IntegrityRun → Prop
  | golden run => Clean run.ended.readings
  | vram run => Clean run.ended.readings
  | compute stage => ∀ reading ∈ stage.readings, ComputeStage.Matched reading

/-- A readback that failed came with the device-error flag by the verdict, or beside another that
showed a mismatch, or in a dwell that is rejected for its pace; and no count of lanes wrapped. -/
def FailuresShow : IntegrityRun → Prop
  | golden run => none ∈ run.ended.readings →
      run.flagged = true ∨ (∃ count ≠ 0, some count ∈ run.ended.readings) ∨ run.slow = true
  | vram run => none ∈ run.ended.readings →
      run.flagged = true ∨ ∃ count ≠ 0, some count ∈ run.ended.readings
  | compute stage => ¬ stage.CountWraps

end IntegrityRun

/-- A stable verdict stands for clean readbacks exactly when the failed ones show otherwise. -/
theorem readClean_of_stable_iff (run : IntegrityRun) :
    (run.result = .stable → run.ReadClean) ↔ run.FailuresShow := by
  cases run with
  | golden run => exact clean_of_stable_iff run.result_stable_iff
  | vram run =>
    have h := clean_of_stable_iff run.result_stable_iff
    simp only [or_false] at h
    exact h
  | compute stage => exact stage.matched_of_stable_iff

/-- A dwell whose only readback fails without the device-error flag is stable. -/
theorem failed_readback_taken_for_clean :
    ∃ run : IntegrityRun, ¬ (run.result = .stable → run.ReadClean) := by
  refine ⟨.golden
    { frames := [{ stalled := false, raised := false, check := none }]
      cancelled := false
      final := { mapped := none, raised := false }
      raisedLate := false
      degraded := false
      cancelledLate := false }, fun h => ?_⟩
  have hclean := h (by decide) none (by decide)
  cases hclean

end Nidavellir.GpuStress

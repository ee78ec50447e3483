import Nidavellir.FieldGuard
import Nidavellir.ForgeSynthesis
import Nidavellir.StartupRecovery
import Nidavellir.VoltageBisection
import Nidavellir.WarmStart

namespace Nidavellir

open Extremes SafeLoopStore

/-- The lowest bin at or above the voltage, else the highest. -/
def nearestVfBinAtOrAbove (curve : List VfBin) (measuredMv : Nat) : Option (Nat × Nat) :=
  ((minByKey VfBin.mv (curve.filter fun bin => decide (measuredMv ≤ bin.mv))).or
    (maxByKey VfBin.mv curve)).map fun bin => (bin.1, bin.mv)

structure Measured where
  result : StabilityResult
  clockMhz : Nat := 0
  p5ClockMhz : Nat := 0
  powerW : ℚ := 0
  maxPowerW : ℚ := 0
  cappedFrac : ℚ := 0
  sampleCount : Nat := 0

def clockPowerTrusted (sampleCount : Nat) : Bool := decide (30 ≤ sampleCount)

def measuredToProbe (m : Measured) (curveVerified : Bool) (confidence : ℚ) : ProbeSample :=
  let p5ClockMhz := if 0 < m.p5ClockMhz then some m.p5ClockMhz else none
  let telemetryTrustworthy := clockPowerTrusted m.sampleCount && p5ClockMhz.isSome
  { outcome := if m.result.isStable && telemetryTrustworthy then .stable else .unstable
    curveVerified, p5ClockMhz, confidence
    avgClockMhz := m.clockMhz
    powerW := m.powerW
    maxPowerW := m.maxPowerW
    powerCappedFrac := m.cappedFrac }

def frontierProbeConfidence : ℚ := 21 / 100

def unverifiedProbe : ProbeSample where
  outcome := .unstable
  curveVerified := false
  powerCappedFrac := 0

/-- How the ceiling write ended; a failed one may have reached a part of the curve. -/
inductive CeilingWrite
  | accepted
  | failed (partly : Bool)
deriving DecidableEq

def CeilingWrite.touches : CeilingWrite → Bool
  | accepted => true
  | failed partly => partly

/-- What card and disk answer one probe; `reset` says that the ceiling is gone. -/
structure ProbeAnswers where
  live : List VfBin
  now : String := ""
  arm : FileResult := .done
  write : CeilingWrite := .accepted
  verified : Bool := true
  measured : Measured
  clear : FileResult := .done
  reset : Bool := true

/-- What the probe does, in order. -/
inductive ProbeEvent
  | arm (flag : BootFlag) (result : FileResult)
  | write (ceilingMv targetMhz : Nat) (outcome : CeilingWrite)
  | dwell (result : StabilityResult)
  | clear (result : FileResult)
  | reset (done : Bool)
deriving DecidableEq

def ProbeEvent.clears : ProbeEvent → Bool
  | .clear result => result.isDone
  | _ => false

structure ProbeRun where
  events : List ProbeEvent
  sample : ProbeSample
  abort : Bool

def realProbeStep (answers : ProbeAnswers) (abort : Bool) (descent : FrontierDescent)
    (target vbin : Nat) : ProbeRun :=
  if abort then ⟨[], { unverifiedProbe with aborted := true }, abort⟩
  else if vbin < descent.lowestSafeMv then ⟨[], unverifiedProbe, abort⟩
  else
    match nearestVfBinAtOrAbove answers.live vbin with
    | none => ⟨[], unverifiedProbe, abort⟩
    | some (_, ceilingMv) =>
      let flag : BootFlag := ⟨pairIntent target ceilingMv, "f1b_frontier", answers.now⟩
      let written : List ProbeEvent :=
        [.arm flag answers.arm, .write ceilingMv target answers.write]
      if answers.write != .accepted || !answers.verified then
        ⟨written ++ [.reset answers.reset, .clear answers.clear], unverifiedProbe, abort⟩
      else
        let dwelt := written ++ [.dwell answers.measured.result, .clear answers.clear]
        let sample := { measuredToProbe answers.measured true frontierProbeConfidence with
          vfBinMv := some ceilingMv }
        if answers.measured.result == .crash then
          ⟨dwelt ++ [.reset answers.reset], { sample with crashed := true }, true⟩
        else ⟨dwelt, sample, abort⟩

/-- The data directory, and whether the ceiling of this probe is on the card. -/
structure ProbeState where
  dir : DataDir
  ceiling : Bool

namespace ProbeState

def after (s : ProbeState) : ProbeEvent → ProbeState
  | .arm flag result => { s with dir := armBootFlag flag result s.dir }
  | .write _ _ outcome => { s with ceiling := s.ceiling || outcome.touches }
  | .dwell _ => s
  | .clear result => { s with dir := clearBootFlag result s.dir }
  | .reset done => { s with ceiling := s.ceiling && !done }

def ClearsAtStock : ProbeState → List ProbeEvent → Prop
  | _, [] => True
  | s, event :: events =>
    (event.clears = true → isBootFlagArmed s.dir = true → s.ceiling = false) ∧
      ClearsAtStock (s.after event) events

/-- The flag of the intent is armed, or the record blacklists it. -/
def HasEvidence (s : ProbeState) (intent : TuningPoint) : Prop :=
  (∃ flag, readBootFlag s.dir = some flag ∧ flag.intent = intent) ∨
    (loadRecord s.dir).isBlacklisted intent = true

end ProbeState

namespace ProbeRun

variable (run : ProbeRun) (dir : DataDir)

/-- Where the machine can die: before the first event and behind each. -/
def instants : List ProbeState := run.events.scanl ProbeState.after ⟨dir, false⟩

def final : ProbeState := run.events.foldl ProbeState.after ⟨dir, false⟩

/-- The intent stays on record: at each instant with the ceiling on, and behind a crashed dwell. -/
structure LeavesEvidence (intent : TuningPoint) : Prop where
  atDeath : ∀ s ∈ run.instants dir, s.ceiling = true → s.HasEvidence intent
  atCrash : run.sample.crashed = true → (run.final dir).HasEvidence intent
  clearedAtStock : ProbeState.ClearsAtStock ⟨dir, false⟩ run.events
  accounted : ∀ s ∈ run.instants dir, s.ceiling = true →
    isCleanShutdownPresent s.dir = false → ∀ bugcheck results,
    (runStartupRecovery bugcheck results s.dir).1.isBlacklisted intent = true ∨
      (runStartupRecovery bugcheck results s.dir).1.safeMode = true
  drained : run.sample.crashed = true → ∀ answers descent target vbin,
    (realProbeStep answers run.abort descent target vbin).events = []

end ProbeRun

/-- Behind evidence, the startup after a death knows of the intent. -/
theorem ProbeState.HasEvidence.accounted {s : ProbeState} {intent : TuningPoint}
    (h : s.HasEvidence intent) (hmarker : isCleanShutdownPresent s.dir = false)
    (bugcheck : CrashClass) (results : RecoveryResults) :
    (runStartupRecovery bugcheck results s.dir).1.isBlacklisted intent = true ∨
      (runStartupRecovery bugcheck results s.dir).1.safeMode = true := by
  rcases h with ⟨flag, hflag, rfl⟩ | hlisted
  · have hcrash : crashFlag s.dir = some flag := by simp [crashFlag, hmarker, hflag]
    rw [runStartupRecovery_armed hcrash, recover, decideRecovery_armed]
    split
    next => exact .inr rfl
    next =>
      have hlearns : ∀ recedeTo count, (applyRecovery (loadRecord s.dir) (.blacklistAndRecede
          flag.intent recedeTo bugcheck count)).1.isBlacklisted flag.intent = true :=
        fun recedeTo count => applyRecovery_learns.1
      exact .inl (hlearns (loadRecord s.dir).recoveryTarget (!supervisedForgeTdr flag bugcheck))
  · refine .inl ?_
    obtain ⟨action, haction⟩ : ∃ action, (runStartupRecovery bugcheck results s.dir).1 =
        (applyRecovery (loadRecord s.dir) action).1 := ⟨_, rfl⟩
    obtain ⟨added, hadded⟩ := applyRecovery_blacklist_prefix (loadRecord s.dir) action
    rw [haction, SafeLoopRecord.isBlacklisted, ← hadded, List.any_append]
    exact Bool.or_eq_true_iff.mpr (.inl hlisted)

theorem ProbeRun.LeavesEvidence.of_atDeath {run : ProbeRun} {dir : DataDir} {intent : TuningPoint}
    (hdeath : ∀ s ∈ run.instants dir, s.ceiling = true → s.HasEvidence intent)
    (hcrash : run.sample.crashed = true → (run.final dir).HasEvidence intent ∧ run.abort = true)
    (hstock : ProbeState.ClearsAtStock ⟨dir, false⟩ run.events) :
    run.LeavesEvidence dir intent := by
  refine ⟨hdeath, fun hcrashed => (hcrash hcrashed).1, hstock, ?_, ?_⟩
  · intro s hs hceiling hmarker bugcheck results
    exact (hdeath s hs hceiling).accounted hmarker bugcheck results
  · intro hcrashed answers descent target vbin
    rw [realProbeStep, if_pos (hcrash hcrashed).2]

/-- The flag was armed for the intent, by this arm or before it, or the record has the intent. -/
def OnRecord (arm : FileResult) (dir : DataDir) (intent : TuningPoint) : Prop :=
  arm.isDone = true ∨
    (arm.isTorn = false ∧ ∃ flag, readBootFlag dir = some flag ∧ flag.intent = intent) ∨
    (loadRecord dir).isBlacklisted intent = true

section Condition

variable (answers : ProbeAnswers) (abort : Bool) (descent : FrontierDescent) (target vbin : Nat)
  (dir : DataDir)

def ProbeAnswers.intent : TuningPoint :=
  pairIntent target ((nearestVfBinAtOrAbove answers.live vbin).elim vbin Prod.snd)

def ProbeAnswers.Touches : Prop :=
  abort = false ∧ descent.lowestSafeMv ≤ vbin ∧
    (nearestVfBinAtOrAbove answers.live vbin).isSome = true ∧ answers.write.touches = true

/-- The clear removes nothing, or follows the reset: no dwell stands before it. -/
def ProbeAnswers.ClearsLate : Prop :=
  answers.clear.isDone = false ∨
    (answers.arm.isDone = false ∧ answers.arm.isTorn = false ∧ isBootFlagArmed dir = false) ∨
    ((answers.write ≠ .accepted ∨ answers.verified = false) ∧ answers.reset = true)

end Condition

section Steps

variable {answers : ProbeAnswers} {abort : Bool} {descent : FrontierDescent} {target vbin : Nat}
  {dir : DataDir} {intent : TuningPoint}

theorem hasEvidence_armed {flag : BootFlag} {result : FileResult} {ceiling : Bool} :
    ProbeState.HasEvidence ⟨armBootFlag flag result dir, ceiling⟩ flag.intent ↔
      OnRecord result dir flag.intent := by
  unfold ProbeState.HasEvidence OnRecord armBootFlag
  cases result with
  | done =>
    refine iff_of_true (.inl ⟨flag, ?_, rfl⟩) (.inl rfl)
    simp [readBootFlag, FileResult.write]
  | failed error torn =>
    cases torn with
    | true => simp [readBootFlag, FileResult.write, FileResult.isDone, FileResult.isTorn,
        loadRecord, StoredFile.read]
    | false => simp [readBootFlag, FileResult.write, FileResult.isDone, FileResult.isTorn,
        loadRecord]

theorem isBootFlagArmed_arm {flag : BootFlag} {result : FileResult} :
    isBootFlagArmed (armBootFlag flag result dir) = false ↔
      result.isDone = false ∧ result.isTorn = false ∧ isBootFlagArmed dir = false := by
  cases result with
  | done => simp [isBootFlagArmed, armBootFlag, FileResult.write, FileResult.isDone,
      StoredFile.present]
  | failed error torn =>
    cases torn with
    | true => simp [isBootFlagArmed, armBootFlag, FileResult.write, FileResult.isTorn,
        StoredFile.present]
    | false => simp [isBootFlagArmed, armBootFlag, FileResult.write, FileResult.isDone,
        FileResult.isTorn]

theorem clearBootFlag_of_kept {result : FileResult}
    (h : result.isDone = false ∨ isBootFlagArmed dir = false) :
    clearBootFlag result dir = dir := by
  unfold clearBootFlag
  rcases result.remove_cases dir.bootFlag with ⟨hdone, hgone⟩ | ⟨-, hsame⟩
  · have habsent : dir.bootFlag = .absent := by
      rcases h with hnot | hnone
      · rw [hdone] at hnot
        cases hnot
      · exact StoredFile.eq_absent hnone
    rw [hgone, ← habsent]
  · rw [hsame]

variable {flag : BootFlag} {mv mhz : Nat} {write : CeilingWrite} {arm clear : FileResult}
  {reset abort' : Bool} {sample : ProbeSample} {result : StabilityResult}

theorem clearsAtStock_cons {s : ProbeState} {event : ProbeEvent} {events : List ProbeEvent}
    (h : event.clears = false) :
    s.ClearsAtStock (event :: events) ↔ (s.after event).ClearsAtStock events :=
  and_iff_right fun hclears => absurd hclears (by simp [h])

theorem touched_of_leavesEvidence {run : ProbeRun} {rest : List ProbeEvent}
    (h : run.LeavesEvidence dir flag.intent)
    (hevents : run.events = .arm flag arm :: .write mv mhz write :: rest)
    (htouches : write.touches = true) : OnRecord arm dir flag.intent := by
  have hmem : ⟨armBootFlag flag arm dir, true⟩ ∈ run.instants dir := by
    unfold ProbeRun.instants
    rw [hevents]
    cases rest <;> simp [ProbeState.after, htouches]
  exact hasEvidence_armed.mp (h.atDeath _ hmem rfl)

theorem leavesEvidence_unverified (hsample : sample.crashed = false) :
    ProbeRun.LeavesEvidence ⟨[.arm flag arm, .write mv mhz write, .reset reset, .clear clear],
        sample, abort'⟩ dir flag.intent ↔
      write.touches = false ∨
        (OnRecord arm dir flag.intent ∧
          (clear.isDone = false ∨ isBootFlagArmed (armBootFlag flag arm dir) = false ∨
            reset = true)) := by
  refine ⟨fun h => ?_, fun h => ?_⟩
  · cases htouches : write.touches with
    | false => exact .inl rfl
    | true =>
      refine .inr ⟨touched_of_leavesEvidence h rfl htouches, ?_⟩
      have hstock := h.clearedAtStock
      simp only [ProbeState.ClearsAtStock, ProbeState.after, ProbeEvent.clears, htouches,
        Bool.false_or, Bool.true_and, Bool.not_eq_false'] at hstock
      by_contra hnone
      simp only [not_or, Bool.not_eq_false, Bool.not_eq_true] at hnone
      rw [hstock.2.2.2.1 hnone.1 hnone.2.1] at hnone
      exact absurd hnone.2.2 (by decide)
  · have hcrash : sample.crashed ≠ true := by simp [hsample]
    rcases h with htouches | ⟨hrecord, hlate⟩
    · refine .of_atDeath (fun s hs hceiling => ?_) (fun hcrashed => absurd hcrashed hcrash) ?_
      · simp only [ProbeRun.instants, ProbeState.after, htouches, Bool.or_self, Bool.false_and,
          List.scanl_cons, List.scanl_nil, List.mem_cons, List.not_mem_nil, or_false] at hs
        rcases hs with rfl | rfl | rfl | rfl | rfl <;> cases hceiling
      · simp [ProbeState.ClearsAtStock, ProbeState.after, htouches]
    · have hevidence : ∀ ceiling, ProbeState.HasEvidence ⟨armBootFlag flag arm dir, ceiling⟩
          flag.intent := fun _ => hasEvidence_armed.mpr hrecord
      refine .of_atDeath (fun s hs hceiling => ?_) (fun hcrashed => absurd hcrashed hcrash) ?_
      · simp only [ProbeRun.instants, ProbeState.after, List.scanl_cons, List.scanl_nil,
          List.mem_cons, List.not_mem_nil, or_false] at hs
        rcases hs with rfl | rfl | rfl | rfl | rfl
        · cases hceiling
        · exact hevidence _
        · exact hevidence _
        · exact hevidence _
        · rcases hlate with hfails | hnone | hreset
          · rw [clearBootFlag_of_kept (.inl hfails)]
            exact hevidence _
          · rw [clearBootFlag_of_kept (.inr hnone)]
            exact hevidence _
          · simp [hreset] at hceiling
      · rw [clearsAtStock_cons rfl, clearsAtStock_cons rfl, clearsAtStock_cons rfl]
        refine ⟨fun hclears harmed => ?_, trivial⟩
        rcases hlate with hfails | hnone | hreset
        · exact absurd (hfails.symm.trans hclears) (by decide)
        · exact absurd (hnone.symm.trans harmed) (by decide)
        · simp [ProbeState.after, hreset]

theorem leavesEvidence_dwelt (reset : Bool) (htouches : write.touches = true)
    {rest : List ProbeEvent}
    (hrest : rest = [] ∧ sample.crashed = false ∨
      rest = [.reset reset] ∧ sample.crashed = true ∧ abort' = true) :
    ProbeRun.LeavesEvidence ⟨[.arm flag arm, .write mv mhz write, .dwell result, .clear clear] ++
        rest, sample, abort'⟩ dir flag.intent ↔
      OnRecord arm dir flag.intent ∧
        (clear.isDone = false ∨ isBootFlagArmed (armBootFlag flag arm dir) = false) := by
  refine ⟨fun h => ⟨touched_of_leavesEvidence h rfl htouches, ?_⟩, fun ⟨hrecord, hkept⟩ => ?_⟩
  · have hstock := h.clearedAtStock
    simp only [List.cons_append, List.nil_append, ProbeState.ClearsAtStock, ProbeState.after,
      ProbeEvent.clears, htouches, Bool.false_or] at hstock
    by_contra hnone
    simp only [not_or, Bool.not_eq_false] at hnone
    exact absurd (hstock.2.2.2.1 hnone.1 hnone.2) (by decide)
  · have hsame := clearBootFlag_of_kept hkept
    have hevidence : ∀ ceiling, ProbeState.HasEvidence ⟨armBootFlag flag arm dir, ceiling⟩
        flag.intent := fun _ => hasEvidence_armed.mpr hrecord
    have hclear : clear.isDone = true → isBootFlagArmed (armBootFlag flag arm dir) = true →
        False := by
      intro hdone harmed
      rcases hkept with hfails | hnone
      · exact absurd (hfails.symm.trans hdone) (by decide)
      · exact absurd (hnone.symm.trans harmed) (by decide)
    have hquiet : ∀ events, ProbeState.ClearsAtStock ⟨dir, false⟩ (.arm flag arm ::
        .write mv mhz write :: .dwell result :: events) ↔
        ProbeState.ClearsAtStock ⟨armBootFlag flag arm dir, false || write.touches⟩ events := by
      intro events
      rw [clearsAtStock_cons rfl, clearsAtStock_cons rfl, clearsAtStock_cons rfl]
      rfl
    rcases hrest with ⟨rfl, hsample⟩ | ⟨rfl, hsample, habort⟩
    · refine .of_atDeath (fun s hs hceiling => ?_)
        (fun hcrashed => absurd hcrashed (by simp [hsample])) ?_
      · simp only [ProbeRun.instants, ProbeState.after, List.append_nil, List.scanl_cons,
          List.scanl_nil, List.mem_cons, List.not_mem_nil, or_false, hsame] at hs
        rcases hs with rfl | rfl | rfl | rfl | rfl
        · cases hceiling
        · exact hevidence _
        · exact hevidence _
        · exact hevidence _
        · exact hevidence _
      · exact (hquiet _).mpr ⟨fun hdone harmed => (hclear hdone harmed).elim, trivial⟩
    · refine .of_atDeath (fun s hs hceiling => ?_) (fun _ => ⟨?_, habort⟩) ?_
      · simp only [ProbeRun.instants, ProbeState.after, List.cons_append, List.nil_append,
          List.scanl_cons, List.scanl_nil, List.mem_cons, List.not_mem_nil, or_false, hsame] at hs
        rcases hs with rfl | rfl | rfl | rfl | rfl | rfl
        · cases hceiling
        · exact hevidence _
        · exact hevidence _
        · exact hevidence _
        · exact hevidence _
        · exact hevidence _
      · simp only [ProbeRun.final, ProbeState.after, List.cons_append, List.nil_append,
          List.foldl_cons, List.foldl_nil, hsame]
        exact hevidence _
      · exact (hquiet _).mpr ⟨fun hdone harmed => (hclear hdone harmed).elim,
          (clearsAtStock_cons rfl).mpr trivial⟩

end Steps

/-- A probe leaves its evidence just when it does not reach the card, or its intent is on record
and the flag is not cleared before the reset. -/
theorem realProbeStep_evidence_iff (answers : ProbeAnswers) (abort : Bool)
    (descent : FrontierDescent) (target vbin : Nat) (dir : DataDir) :
    (realProbeStep answers abort descent target vbin).LeavesEvidence dir
        (answers.intent target vbin) ↔
      ¬ answers.Touches abort descent vbin ∨
        OnRecord answers.arm dir (answers.intent target vbin) ∧ answers.ClearsLate dir := by
  unfold realProbeStep ProbeAnswers.intent ProbeAnswers.Touches ProbeAnswers.ClearsLate
  have hidle : ∀ sample : ProbeSample, sample.crashed = false → ∀ intent,
      ProbeRun.LeavesEvidence ⟨[], sample, abort⟩ dir intent := by
    intro sample hsample intent
    refine .of_atDeath (fun s hs hceiling => ?_)
      (fun hcrashed => absurd hcrashed (by simp [hsample])) trivial
    simp only [ProbeRun.instants, List.scanl_nil, List.mem_singleton] at hs
    rw [hs] at hceiling
    cases hceiling
  split
  next habort =>
    refine iff_of_true (hidle _ rfl _) (.inl fun htouches => ?_)
    rw [habort] at htouches
    cases htouches.1
  next habort =>
    split
    next hbelow => exact iff_of_true (hidle _ rfl _) (.inl fun htouches => by omega)
    next hfloor =>
      cases hbin : nearestVfBinAtOrAbove answers.live vbin with
      | none => exact iff_of_true (hidle _ rfl _) (.inl fun htouches => by simp at htouches)
      | some bin =>
        obtain ⟨idx, ceilingMv⟩ := bin
        have hreaches : (abort = false ∧ descent.lowestSafeMv ≤ vbin ∧
            (some (idx, ceilingMv)).isSome = true ∧ answers.write.touches = true) ↔
            answers.write.touches = true := by
          simp [Bool.not_eq_true _ ▸ habort, Nat.le_of_not_lt hfloor]
        rw [hreaches]
        simp only [Option.elim_some]
        split
        next hundwelt =>
          have hexit : answers.write ≠ .accepted ∨ answers.verified = false := by
            simpa using hundwelt
          refine (leavesEvidence_unverified rfl).trans ?_
          rw [isBootFlagArmed_arm, and_iff_right hexit, Bool.not_eq_true]
        next hdwelt =>
          obtain ⟨hwrite, hverified⟩ : answers.write = .accepted ∧ answers.verified = true := by
            simpa using hdwelt
          have htouches : answers.write.touches = true := by rw [hwrite]; rfl
          have hlate : ¬ ((answers.write ≠ .accepted ∨ answers.verified = false) ∧
              answers.reset = true) := by
            simp [hwrite, hverified]
          rw [htouches, or_iff_right (by simp), or_iff_left hlate]
          split
          next =>
            refine (leavesEvidence_dwelt answers.reset htouches (.inr ⟨rfl, rfl, rfl⟩)).trans ?_
            rw [isBootFlagArmed_arm]
          next =>
            refine (leavesEvidence_dwelt answers.reset htouches (.inl ⟨rfl, rfl⟩)).trans ?_
            rw [isBootFlagArmed_arm]

/-- A fresh record, a flag that is armed and cleared, and a dwell that ends in a TDR. -/
def tdrAnswers : ProbeAnswers where
  live := [(0, 850, 1700), (1, 875, 1750), (2, 900, 1800)]
  measured := { result := .crash }

/-- The TDR is forgotten: the flag is cleared before the reset, and the record stays empty. -/
theorem realProbeStep_forgets_tdr :
    (realProbeStep tdrAnswers false (deriveDescent [850, 875, 900] 900 25) 1800 875).events =
      [.arm ⟨pairIntent 1800 875, "f1b_frontier", ""⟩ .done, .write 875 1800 .accepted,
        .dwell .crash, .clear .done, .reset true] ∧
    ¬ ∀ (answers : ProbeAnswers) (abort : Bool) (descent : FrontierDescent) (target vbin : Nat)
      (dir : DataDir), (realProbeStep answers abort descent target vbin).LeavesEvidence dir
        (answers.intent target vbin) := by
  refine ⟨by decide, fun h => ?_⟩
  have hcrash := (h tdrAnswers false (deriveDescent [850, 875, 900] 900 25) 1800 875 {}).atCrash
    (by decide)
  revert hcrash
  rintro (⟨flag, hflag, -⟩ | hlisted)
  · have hnone : readBootFlag ((realProbeStep tdrAnswers false (deriveDescent [850, 875, 900] 900
        25) 1800 875).final {}).dir = none := by decide
    rw [hnone] at hflag
    cases hflag
  · have hempty : (loadRecord ((realProbeStep tdrAnswers false (deriveDescent [850, 875, 900] 900
        25) 1800 875).final {}).dir).blacklist = [] := by decide
    rw [SafeLoopRecord.isBlacklisted, hempty] at hlisted
    cases hlisted

end Nidavellir

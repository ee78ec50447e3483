import Nidavellir.F2Preflight
import Nidavellir.F2Kept
import Nidavellir.F2Observation
import Nidavellir.ClockDiscovery

namespace Nidavellir

open F2MultiStepOps

def f2StandardDwellMs : Nat := 15000

def f2DefaultSteps : Nat := 4

def f2MaxValidationPasses : Nat := 20

def powerP99MaxAttempts : Nat := 3

def inconclusiveRetryBudget : Nat := 2

/-- What a path reads before a write: the Safe Loop files and the condemnation ledger. -/
structure F2Stores where
  record : SafeLoopRecord
  bootFlagArmed : Bool
  events : List CondemnationEvent

inductive UndervoltMode
  | simple
  | anchored
deriving DecidableEq, Repr

/-- The candidate an executor is set to write. -/
structure F2Target where
  candidate : PositiveOffsetPlan
  anchored : Option AnchoredPositiveOffsetPlan
  mode : UndervoltMode
  limits : PositiveOffsetLimits
  targetMhz : Nat
  prevOffsetMhz : Int
  dwellMs : Nat
  stressPurpose : F2StressPurpose
deriving DecidableEq, Repr

/-- The card, the files and the stop request. Every operation may answer anything and change the
whole state: other threads write the same files. No target means that the source would stop with
"select before use". -/
class F2World (W : Type*) where
  readStores : W → F2Stores × W
  stopRequested : W → Bool × W
  armBootFlag : Option F2Target → W → Except String Unit × W
  applyPositiveOffset : Option F2Target → W → Except String Unit × W
  verify : Option F2Target → W → PositiveOffsetVerification × W
  dwell : Option F2Target → W → F2DwellResult × W
  resetToStock : Option F2Target → W → Except String Unit × W
  clearBootFlag : W → Except String Unit × W
  blacklistPoint : Option F2Target → Bool → W → Except String Unit × W
  appendObservation : F2StepReport → W → Except String Unit × W

open F2World

/-- The single-candidate executor. -/
structure RealF2Ops (W : Type*) where
  world : W
  target : F2Target

/-- The executor of a descent: the candidates, safer first, and the one selected. -/
structure RealF2MultiOps (W : Type*) where
  world : W
  candidates : List AnchoredPositiveOffsetPlan
  limits : PositiveOffsetLimits
  targetMhz : Nat
  baselineOffsetMhz : Int
  prevOffsetOverrideMhz : Option Int
  dwellMs : Nat
  stressPurpose : F2StressPurpose
  cur : Option F2Target

section Executors

variable {W R : Type*} [F2World W]

def RealF2Ops.through (self : RealF2Ops W) (op : W → R × W) : R × RealF2Ops W :=
  let (result, world) := op self.world
  (result, { self with world })

def RealF2MultiOps.through (self : RealF2MultiOps W) (op : W → R × W) : R × RealF2MultiOps W :=
  let (result, world) := op self.world
  (result, { self with world })

instance : F2Ops (RealF2Ops W) where
  armBootFlag self := self.through (armBootFlag (some self.target))
  applyPositiveOffset self := self.through (applyPositiveOffset (some self.target))
  verify self := self.through (F2World.verify (some self.target))
  dwell self := self.through (F2World.dwell (some self.target))
  resetToStock self := self.through (resetToStock (some self.target))
  clearBootFlag self := self.through clearBootFlag
  blacklistPoint countsAsCrash self :=
    self.through (blacklistPoint (some self.target) countsAsCrash)

instance : F2Ops (RealF2MultiOps W) where
  armBootFlag self := self.through (armBootFlag self.cur)
  applyPositiveOffset self := self.through (applyPositiveOffset self.cur)
  verify self := self.through (F2World.verify self.cur)
  dwell self := self.through (F2World.dwell self.cur)
  resetToStock self := self.through (resetToStock self.cur)
  clearBootFlag self := self.through clearBootFlag
  blacklistPoint countsAsCrash self := self.through (blacklistPoint self.cur countsAsCrash)

/-- The target that a passed `select` installs. -/
def RealF2MultiOps.targetOf (self : RealF2MultiOps W) (i : Nat)
    (plan : AnchoredPositiveOffsetPlan) : F2Target where
  candidate := plan.anchor
  anchored := some plan
  mode := .anchored
  limits := self.limits
  targetMhz := self.targetMhz
  prevOffsetMhz := self.prevOffsetOverrideMhz.getD
    (chainedPrevOffset self.candidates i self.baselineOffsetMhz)
  dwellMs := self.dwellMs
  stressPurpose := self.stressPurpose

/-- The Safe Loop check of one candidate immediately before its write. -/
def RealF2MultiOps.select (i : Nat) (self : RealF2MultiOps W) :
    Except String Unit × RealF2MultiOps W :=
  match self.candidates[i]? with
  | none => (.error s!"no anchored candidate at index {i}", self)
  | some plan =>
    let (stores, self) := self.through readStores
    if stores.record.safeMode then (.error "Safe Mode active before candidate write", self)
    else if stores.bootFlagArmed then
      (.error "a Safe Loop boot flag is already armed before candidate write", self)
    else if candidateBlacklisted stores.record self.targetMhz plan.anchor then
      (.error (s!"candidate {i} intent is blacklisted or below the field-learned voltage " ++
        "floor"), self)
    else (.ok (), { self with cur := some (self.targetOf i plan) })

instance : F2MultiStepOps (RealF2MultiOps W) where
  candidateCount self := self.candidates.length
  select := RealF2MultiOps.select

instance : F2CandidateTransactionOps (RealF2MultiOps W) where
  configurePhase dwellMs purpose self := { self with
    dwellMs
    stressPurpose := purpose
    cur := self.cur.map fun target => { target with dwellMs, stressPurpose := purpose } }

end Executors

/-- Which part of the condemnation ledger a run consults. -/
structure LedgerScope where
  gpuKey : String
  runId : String
  runScoped : Bool
deriving DecidableEq, Repr

def LedgerScope.condemned (self : LedgerScope) (events : List CondemnationEvent) :
    CondemnedPairs :=
  if self.runScoped then condemnedPairsForRun events self.gpuKey self.runId
  else condemnedPairs events self.gpuKey

section SingleStep

variable {W : Type*} [F2World W] [BuildEnv]

/-- Preflight against both sources, then one supervised step. -/
def confirmSingleStep (refusal : SafeLoopRecord → Bool → Option String)
    (candidate : Option PositiveOffsetPlan) (executor : PositiveOffsetPlan → F2Target)
    (gpuKey : String) (targetMhz : Nat) (w : W) : Except String F2StepReport × W :=
  let (stores, w) := readStores w
  match (refusal stores.record stores.bootFlagArmed).or
      (candidate.bind fun c =>
        ledgerRefusal (condemnedPairs stores.events gpuKey) targetMhz c.voltageMv), candidate with
  | some reason, _ => (.error reason, w)
  | none, none => (.error "refusal None guarantees a candidate", w)
  | none, some cand =>
    let (report, ops) := runConfirmedF2Step (RealF2Ops.mk w (executor cand))
    (.ok report, ops.world)

def runUndervoltProbe (steps : Option Nat) (candidate : Option PositiveOffsetPlan)
    (limits : PositiveOffsetLimits) (targetMhz : Nat) (gpuKey : String) (w : W) :
    Except String F2StepReport × W :=
  confirmSingleStep
    (fun record bootFlagArmed =>
      confirmedF2Refusal record bootFlagArmed steps candidate limits targetMhz)
    candidate
    (fun cand => ⟨cand, none, .simple, limits, targetMhz, 0, f2StandardDwellMs, .powerDiscovery⟩)
    gpuKey targetMhz w

def runAnchoredUndervoltProbe (steps : Option Nat) (plan : Option AnchoredPositiveOffsetPlan)
    (limits : PositiveOffsetLimits) (targetMhz : Nat) (gpuKey : String) (w : W) :
    Except String F2StepReport × W :=
  confirmSingleStep
    (fun record bootFlagArmed =>
      confirmedF2Refusal record bootFlagArmed steps (plan.map (·.anchor)) limits targetMhz)
    (plan.map (·.anchor))
    (fun cand =>
      ⟨cand, plan, .anchored, limits, targetMhz, 0, f2StandardDwellMs, .powerDiscovery⟩)
    gpuKey targetMhz w

def runManualPriorUndervoltProbe (startMv steps : Option Nat)
    (plan : Option AnchoredPositiveOffsetPlan) (manualLimits : PositiveOffsetLimits)
    (targetMhz : Nat) (gpuKey : String) (w : W) : Except String F2StepReport × W :=
  confirmSingleStep
    (fun record bootFlagArmed =>
      confirmedManualPriorRefusal record bootFlagArmed startMv steps (plan.map (·.anchor))
        manualLimits targetMhz)
    (plan.map (·.anchor))
    (fun cand =>
      ⟨cand, plan, .anchored, manualLimits, targetMhz, 0, f2StandardDwellMs, .powerDiscovery⟩)
    gpuKey targetMhz w

end SingleStep

section Descents

variable {W O : Type*} [F2World W] [BuildEnv]

/-- Validates one candidate again, until a pass is not clean. -/
def runConfirmedF2ExtraValidations [F2MultiStepOps O] (ops : O) (deepestIndex : Nat) :
    Nat → List F2StepReport × O
  | 0 => ([], ops)
  | extraPasses + 1 =>
    match select deepestIndex ops with
    | (.error _, ops) => ([], ops)
    | (.ok (), ops) =>
      let (report, ops) := runConfirmedF2Step ops
      if report.outcome = .validated then
        let (reports, ops) := runConfirmedF2ExtraValidations ops deepestIndex extraPasses
        (report :: reports, ops)
      else ([report], ops)

/-- The executor of one descent under the power workload. -/
def descentOps (w : W) (candidates : List AnchoredPositiveOffsetPlan)
    (limits : PositiveOffsetLimits) (targetMhz : Nat) (baselineOffsetMhz : Int) :
    RealF2MultiOps W where
  world := w
  candidates
  limits
  targetMhz
  baselineOffsetMhz
  prevOffsetOverrideMhz := none
  dwellMs := f2StandardDwellMs
  stressPurpose := .powerDiscovery
  cur := none

def runAnchoredMultiStep (steps : Option Nat) (candidates : List AnchoredPositiveOffsetPlan)
    (limits : PositiveOffsetLimits) (targetMhz : Nat) (w : W) :
    Except String F2MultiStepReport × W :=
  let maxSteps := steps.getD f2DefaultSteps
  let (stores, w) := readStores w
  match confirmedF2MultiRefusal stores.record stores.bootFlagArmed steps candidates.length
      maxSteps with
  | some reason => (.error reason, w)
  | none =>
    let (report, ops) :=
      runConfirmedF2MultiStep (descentOps w candidates limits targetMhz 0) maxSteps
    (.ok report, ops.world)

/-- The extra passes of the target sweep over its deepest validated candidate. -/
def revalidateDeepest (report : F2MultiStepReport)
    (candidates : List AnchoredPositiveOffsetPlan) (limits : PositiveOffsetLimits)
    (targetMhz : Nat) (baselineOffsetMhz : Int) (extraPasses : Nat) (w : W) :
    List F2StepReport × W :=
  match report.lastGoodIndex with
  | none => ([], w)
  | some deepestIndex =>
    match candidates[deepestIndex]? with
    | none => ([], w)
    | some deepest =>
      let (reports, ops) := runConfirmedF2ExtraValidations
        (descentOps w [deepest] limits targetMhz
          (chainedPrevOffset candidates deepestIndex baselineOffsetMhz)) 0 extraPasses
      (reports, ops.world)

def runAnchoredTargetSweep (validationPasses : Nat)
    (candidates : List AnchoredPositiveOffsetPlan) (limits : PositiveOffsetLimits)
    (targetMhz : Nat) (baselineOffsetMhz : Int) (w : W) :
    Except String (F2MultiStepReport × List F2StepReport) × W :=
  let (stores, w) := readStores w
  if validationPasses > f2MaxValidationPasses then
    (.error (s!"--validation-passes {validationPasses} exceeds the hard cap " ++
      s!"{f2MaxValidationPasses} (fail closed)"), w)
  else
    let candidateCount := candidates.length
    match confirmedF2MultiRefusal stores.record stores.bootFlagArmed (some candidateCount)
        candidateCount candidateCount with
    | some reason => (.error reason, w)
    | none =>
      let (report, ops) := runConfirmedF2MultiStep
        (descentOps w candidates limits targetMhz baselineOffsetMhz) candidateCount
      let (reports, w) := revalidateDeepest report candidates limits targetMhz baselineOffsetMhz
        (validationPasses - 1) ops.world
      (.ok (report, reports), w)

/-- One sweep for each target. `descent` plans a target from the reports so far, and `safe` says
whether a report lets the ladder go on. -/
def runAnchoredLadderSweep
    (descent : List F2MultiStepReport → Nat →
      PositiveOffsetLimits × List AnchoredPositiveOffsetPlan)
    (safe : F2MultiStepReport → Bool) (done : List F2MultiStepReport) :
    List Nat → W → List F2MultiStepReport × W
  | [], w => (done, w)
  | target :: targets, w =>
    let (stores, w) := readStores w
    let (limits, candidates) := descent done target
    let candidateCount := candidates.length
    match confirmedF2MultiRefusal stores.record stores.bootFlagArmed (some candidateCount)
        candidateCount candidateCount with
    | some _ => (done, w)
    | none =>
      let (report, ops) :=
        runConfirmedF2MultiStep (descentOps w candidates limits target 0) candidateCount
      let done := done ++ [report]
      if safe report then runAnchoredLadderSweep descent safe done targets ops.world
      else (done, ops.world)

end Descents

section Calibration

variable {W : Type*} [F2World W] [BuildEnv]

def F2Outcome.terminalFailure : F2Outcome → Bool
  | .deviceLost | .resetFailed | .armFailed _ | .applyFailed _ | .verifyFailed | .silentError
  | .unstable => true
  | _ => false

/-- Repeats the step at the same bin until its attempts agree. -/
def repeatCalibration (resolved : List F2StepReport → Bool) (ops : RealF2Ops W)
    (attempts : List F2StepReport) : Nat → List F2StepReport × RealF2Ops W
  | 0 => (attempts, ops)
  | left + 1 =>
    let (stop, ops) := ops.through stopRequested
    if stop then (attempts, ops)
    else
      let (repeated, ops) := runConfirmedF2Step ops
      let attempts := attempts ++ [repeated]
      if repeated.outcome.terminalFailure || resolved attempts then (attempts, ops)
      else repeatCalibration resolved ops attempts left

/-- `recheck` and `resolved` are the power tests on the measured p99. -/
def runConfirmedF2PowerCalibration (scope : LedgerScope)
    (plan : Except String AnchoredPositiveOffsetPlan) (limits : PositiveOffsetLimits)
    (targetMhz : Nat) (referenceOffsetMhz : Int) (discoveryDwellMs : Nat)
    (recheck : F2StepReport → Bool) (resolved : List F2StepReport → Bool) (w : W) :
    Except String (List F2StepReport) × W :=
  let (stop, w) := stopRequested w
  if stop then (.error "Cancelled", w)
  else
    match plan with
    | .error e => (.error s!"CalibrationPlanFailed: {e}", w)
    | .ok candidate =>
      let (stores, w) := readStores w
      match (confirmedF2Refusal stores.record stores.bootFlagArmed (some 1)
          (some candidate.anchor) limits targetMhz).or
          (ledgerRefusal (scope.condemned stores.events) targetMhz candidate.anchor.voltageMv) with
      | some reason => (.error s!"CalibrationSafetyGateRefused: {reason}", w)
      | none =>
        let (initial, ops) := runConfirmedF2Step (RealF2Ops.mk w
          ⟨candidate.anchor, some candidate, .anchored, limits, targetMhz, referenceOffsetMhz,
            discoveryDwellMs, .powerDiscovery⟩)
        if recheck initial then
          let (attempts, ops) :=
            repeatCalibration resolved ops [initial] (powerP99MaxAttempts - 1)
          (.ok attempts, ops.world)
        else (.ok [initial], ops.world)

end Calibration

section Gate

/-- The derived `Debug` text of an outcome. -/
def F2Outcome.debug : F2Outcome → String
  | .armFailed e => s!"ArmFailed({e.quote})"
  | .applyFailed e => s!"ApplyFailed({e.quote})"
  | .verifyFailed => "VerifyFailed"
  | .silentError => "SilentError"
  | .unstable => "Unstable"
  | .deviceLost => "DeviceLost"
  | .powerBoundClockDrop => "PowerBoundClockDrop"
  | .clockDrop => "ClockDrop"
  | .inconclusive => "Inconclusive"
  | .resetFailed => "ResetFailed"
  | .validated => "Validated"

/-- What one gate of a candidate is given. `powerAboveCeiling` compares the measured power with the
publication ceiling. -/
structure F2Gate where
  candidate : AnchoredPositiveOffsetPlan
  limits : PositiveOffsetLimits
  targetMhz : Nat
  finalGateDwellMs : Nat
  finalGatePasses : Nat
  exactApplyEnduranceDwellMs : Nat
  renderGoldens : Option RenderGoldens
  exactApply : Bool
  powerAboveCeiling : F2StepReport → Option (Float32 × Float32)

def qualificationInconclusiveReasonRetryable (reason : Option String) : Bool :=
  !reason.any fun reason =>
    reason = "boost_edge_power_bound" || reason = "phase_contrast_low" ||
      reason.startsWith "field_secondary_"

def applyQualificationPatternComplete (inconclusiveCount consecutiveCleanPasses : Nat) : Bool :=
  inconclusiveCount = 0 || consecutiveCleanPasses ≥ 2

namespace F2Gate

variable (self : F2Gate)

def ops {W : Type*} (w : W) (dwellMs : Nat) (purpose : F2StressPurpose) : RealF2MultiOps W where
  world := w
  candidates := [self.candidate]
  limits := self.limits
  targetMhz := self.targetMhz
  baselineOffsetMhz := 0
  prevOffsetOverrideMhz := none
  dwellMs
  stressPurpose := purpose
  cur := none

def purpose (pattern : F2QualificationPattern) (goldens : RenderGoldens) : F2StressPurpose :=
  if self.exactApply then .applyQualification pattern goldens
  else .v8Qualification pattern goldens

def mayRetry (report : F2StepReport) (inconclusiveRetries : Nat) : Bool :=
  qualificationInconclusiveReasonRetryable (report.qualificationCoverage.bind (·.reason)) &&
    if self.exactApply then inconclusiveRetries < inconclusiveRetryBudget
    else inconclusiveRetries = 0

/-- What follows a persisted pass of a pattern. -/
inductive PatternStep
  | complete
  | again (inconclusiveRetries cleanPasses : Nat)
  | stop (outcome : F2QualificationOutcome)

def afterPass (pattern : F2QualificationPattern) (report : F2StepReport)
    (inconclusiveRetries cleanPasses : Nat) : PatternStep :=
  match if self.exactApply && pattern = .texture && report.outcome = .validated then
      self.powerAboveCeiling report else none with
  | some (measuredW, ceilingW) => .stop (.powerBound measuredW ceilingW)
  | none =>
    match report.outcome with
    | .validated =>
      if self.exactApply && inconclusiveRetries > 0 &&
          !applyQualificationPatternComplete inconclusiveRetries (cleanPasses + 1) then
        .again inconclusiveRetries (cleanPasses + 1)
      else .complete
    | .deviceLost | .resetFailed | .armFailed _ | .applyFailed _ | .verifyFailed =>
      .stop (.aborted s!"V8Aborted: {report.outcome.debug}"
        (f2OutcomeRetainsBootFlag report.outcome))
    | .inconclusive =>
      if self.mayRetry report inconclusiveRetries then .again (inconclusiveRetries + 1) 0
      else .stop .inconclusive
    | outcome => .stop (.rejected outcome.debug)

/-- The passes a pattern may still take. -/
def passesLeft (inconclusiveRetries cleanPasses : Nat) : Nat :=
  (inconclusiveRetryBudget - inconclusiveRetries) * 3 + (2 - cleanPasses)

theorem passesLeft_lt {pattern : F2QualificationPattern} {report : F2StepReport}
    {inconclusiveRetries cleanPasses retries clean : Nat}
    (h : self.afterPass pattern report inconclusiveRetries cleanPasses = .again retries clean) :
    passesLeft retries clean < passesLeft inconclusiveRetries cleanPasses := by
  unfold afterPass at h
  split at h
  next => simp at h
  next =>
    split at h
    next =>
      split at h
      next hagain =>
        obtain ⟨rfl, rfl⟩ := PatternStep.again.inj h
        have hclean : cleanPasses + 1 < 2 := by
          simp [applyQualificationPatternComplete] at hagain
          omega
        unfold passesLeft
        omega
      next => simp at h
    next => simp at h
    next => simp at h
    next => simp at h
    next => simp at h
    next => simp at h
    next =>
      split at h
      next hretry =>
        obtain ⟨rfl, rfl⟩ := PatternStep.again.inj h
        have hbudget : inconclusiveRetries < inconclusiveRetryBudget := by
          simp only [mayRetry, Bool.and_eq_true] at hretry
          have hleft := hretry.2
          split at hleft
          next => simpa using hleft
          next =>
            have hzero : inconclusiveRetries = 0 := by simpa using hleft
            simp [hzero, inconclusiveRetryBudget]
        unfold passesLeft
        omega
      next => simp at h
    next => simp at h

variable {W : Type*} [F2World W] [BuildEnv]

/-- One pass: select, step, persist; the report, or the outcome that ends the gate. -/
def pass (label : String) (w : W) (dwellMs : Nat) (purpose : F2StressPurpose) :
    Except F2QualificationOutcome F2StepReport × W :=
  match select 0 (self.ops w dwellMs purpose) with
  | (.error e, ops) => (.error (.aborted s!"{label}PrecheckFailed: {e}" false), ops.world)
  | (.ok (), ops) =>
    let (report, ops) := runConfirmedF2Step ops
    match appendObservation report ops.world with
    | (.error e, w) => (.error (.aborted s!"ObservationPersistFailed: {e}" false), w)
    | (.ok (), w) => (.ok report, w)

/-- The passes of one pattern; `none` when the pattern is complete. -/
def runPattern (pattern : F2QualificationPattern) (goldens : RenderGoldens)
    (inconclusiveRetries cleanPasses : Nat) (w : W) : Option F2QualificationOutcome × W :=
  let (stop, w) := stopRequested w
  if stop then (some .cancelled, w)
  else
    match self.pass "V8" w self.finalGateDwellMs (self.purpose pattern goldens) with
    | (.error outcome, w) => (some outcome, w)
    | (.ok report, w) =>
      match _hstep : self.afterPass pattern report inconclusiveRetries cleanPasses with
      | .complete => (none, w)
      | .again retries clean => runPattern pattern goldens retries clean w
      | .stop outcome => (some outcome, w)
termination_by passesLeft inconclusiveRetries cleanPasses
decreasing_by exact self.passesLeft_lt _hstep

def runPatterns (goldens : RenderGoldens) :
    List F2QualificationPattern → W → Option F2QualificationOutcome × W
  | [], w => (none, w)
  | pattern :: patterns, w =>
    match self.runPattern pattern goldens 0 0 w with
    | (some outcome, w) => (some outcome, w)
    | (none, w) => runPatterns goldens patterns w

/-- The continuous soak at the exact Apply point. -/
def runEndurance (goldens : RenderGoldens) (w : W) : F2QualificationOutcome × W :=
  let (stop, w) := stopRequested w
  if stop then (.cancelled, w)
  else
    match self.pass "Endurance" w self.exactApplyEnduranceDwellMs
        (.applyQualification .endurance goldens) with
    | (.error outcome, w) => (outcome, w)
    | (.ok report, w) =>
      let (stop, w) := stopRequested w
      if stop then (.cancelled, w)
      else
        match report.outcome with
        | .validated => (.qualified, w)
        | .deviceLost | .resetFailed | .armFailed _ | .applyFailed _ | .verifyFailed =>
          (.aborted s!"EnduranceAborted: {report.outcome.debug}"
            (f2OutcomeRetainsBootFlag report.outcome), w)
        | .inconclusive => (.inconclusive, w)
        | outcome => (.rejected s!"Endurance {outcome.debug}", w)

/-- `gate_anchored_candidate_fsgl3`. -/
def run (w : W) : F2QualificationOutcome × W :=
  match self.renderGoldens with
  | none => (.aborted "V8GoldenMissing" false, w)
  | some goldens =>
    match self.runPatterns goldens (requiredQualificationPatterns.take self.finalGatePasses) w with
    | (some outcome, w) => (outcome, w)
    | (none, w) => if self.exactApply then self.runEndurance goldens w else (.qualified, w)

end F2Gate

def runConfirmedF2ApplyQualification {W : Type*} [F2World W] [BuildEnv] (scope : LedgerScope)
    (plan : Except String AnchoredPositiveOffsetPlan) (limits : PositiveOffsetLimits)
    (targetMhz qualificationDwellMs enduranceDwellMs : Nat)
    (renderGoldens : Option RenderGoldens)
    (powerAboveCeiling : F2StepReport → Option (Float32 × Float32)) (w : W) :
    Except String F2QualificationOutcome × W :=
  let (stop, w) := stopRequested w
  if stop then (.error "Cancelled", w)
  else
    match plan with
    | .error e => (.error s!"ApplyQualificationPlanFailed: {e}", w)
    | .ok candidate =>
      let (stores, w) := readStores w
      match (confirmedF2Refusal stores.record stores.bootFlagArmed (some 1)
          (some candidate.anchor) limits targetMhz).or
          (ledgerRefusal (scope.condemned stores.events) targetMhz candidate.anchor.voltageMv) with
      | some reason => (.error s!"ApplyQualificationSafetyGateRefused: {reason}", w)
      | none =>
        let gate : F2Gate := {
          candidate
          limits
          targetMhz
          finalGateDwellMs := qualificationDwellMs
          finalGatePasses := requiredQualificationPatterns.length
          exactApplyEnduranceDwellMs := enduranceDwellMs
          renderGoldens
          exactApply := true
          powerAboveCeiling }
        let (outcome, w) := gate.run w
        (.ok outcome, w)

end Gate

/-- A bin that a discovery visited and the reports of its attempts. -/
abbrev F2BinVisit := Nat × List F2StepReport

/-- What one clock discovery is given. The schedule of its candidates, the offset each is chained
from, the phases of the next attempt at a bin and the visit whose bin qualified last are functions
of the reports so far. -/
structure F2Discovery where
  scope : LedgerScope
  candidates : List AnchoredPositiveOffsetPlan
  descending : candidates.Pairwise fun higher lower =>
    lower.anchor.voltageMv ≤ higher.anchor.voltageMv
  limits : PositiveOffsetLimits
  targetMhz : Nat
  discoveryDwellMs : Nat
  next : List F2BinVisit → Option Nat
  referenceOffsetMhz : List F2BinVisit → Int
  attempt : List F2BinVisit → List F2StepReport → Option (List (Nat × F2StressPurpose))
  lastQualified : List F2BinVisit → Option Nat
  finalGateDwellMs : Nat
  finalGatePasses : Nat
  renderGoldens : Option RenderGoldens

namespace F2Discovery

variable {W : Type*} [F2World W] [BuildEnv] (self : F2Discovery)

/-- The attempts at bin `i`: each selects it again and shares one write among its phases. -/
def attempts (i : Nat) (visited : List F2BinVisit) (ops : RealF2MultiOps W)
    (reports : List F2StepReport) : Nat → List F2StepReport × RealF2MultiOps W
  | 0 => (reports, ops)
  | left + 1 =>
    match self.attempt visited reports with
    | none => (reports, ops)
    | some phases =>
      match select i ops with
      | (.error _, ops) => (reports, ops)
      | (.ok (), ops) =>
        let run := runF2Transaction ops phases id
        attempts i visited run.ops (reports ++ run.reports) left

/-- The visits of the descent; `condemned` was loaded when the discovery began. -/
def visits (condemned : CondemnedPairs) (visited : List F2BinVisit) (ops : RealF2MultiOps W) :
    Nat → List F2BinVisit × RealF2MultiOps W
  | 0 => (visited, ops)
  | left + 1 =>
    match (self.next visited).bind fun i => (self.candidates[i]?).map (i, ·) with
    | none => (visited, ops)
    | some (i, plan) =>
      let (stop, ops) := ops.through stopRequested
      if stop then (visited, ops)
      else
        let ops := { ops with prevOffsetOverrideMhz := some (self.referenceOffsetMhz visited) }
        let (stores, ops) := ops.through readStores
        if candidateBlacklisted stores.record self.targetMhz plan.anchor ||
            condemned.refuses self.targetMhz plan.anchor.voltageMv then
          (visited, ops)
        else
          let (reports, ops) := self.attempts i visited ops [] powerP99MaxAttempts
          visits condemned (visited ++ [(i, reports)]) ops left

/-- The final gate of one candidate. -/
def finalGate (candidate : AnchoredPositiveOffsetPlan) : F2Gate where
  candidate
  limits := self.limits
  targetMhz := self.targetMhz
  finalGateDwellMs := self.finalGateDwellMs
  finalGatePasses := self.finalGatePasses
  exactApplyEnduranceDwellMs := 0
  renderGoldens := self.renderGoldens
  exactApply := false
  powerAboveCeiling _ := none

/-- A rejected candidate moves the final gate one physical bin higher. -/
def climbGate (w : W) : Nat → W
  | 0 => self.candidates[0]?.elim w fun candidate => ((self.finalGate candidate).run w).2
  | i + 1 =>
    match self.candidates[i + 1]? with
    | none => w
    | some candidate =>
      match (self.finalGate candidate).run w with
      | (.rejected _, w) => climbGate w i
      | (_, w) => w

/-- The hardware part of `run_confirmed_f2_clock_discovery`, over at most `fuel` visits. -/
def run (fuel : Nat) (w : W) : W :=
  let (stores, w) := readStores w
  let condemned := self.scope.condemned stores.events
  let (stores, w) := readStores w
  let candidateCount := self.candidates.length
  if candidateCount > 0 && (confirmedF2MultiRefusal stores.record stores.bootFlagArmed
      (some candidateCount) candidateCount candidateCount).isSome then w
  else
    let (visited, ops) := self.visits condemned []
      { descentOps w self.candidates self.limits self.targetMhz 0 with
        dwellMs := self.discoveryDwellMs } fuel
    let (stop, w) := stopRequested ops.world
    if self.finalGatePasses = 0 || stop then w
    else
      match (self.lastQualified visited).bind (visited[·]?) with
      | none => w
      | some (i, _) => self.climbGate w i

end F2Discovery

end Nidavellir

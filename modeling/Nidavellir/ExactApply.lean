import Nidavellir.ForgeProgress
import Nidavellir.ForgePoint
import Nidavellir.VerticalRepair
import Nidavellir.Lib.Runs

namespace Nidavellir

structure F2ForgeModePolicy where
  discoveryDwellMs : Nat
  qualificationDwellMs : Nat
  qualificationPasses : Nat
  finalGateDwellMs : Nat
  finalGatePasses : Nat
  applyTextureDwellMs : Nat
  applyEnduranceDwellMs : Nat

def f2DescentDetectorPasses : Nat := 1

def PowerSweepMode.f2Policy : PowerSweepMode → F2ForgeModePolicy
  | .standard =>
    { discoveryDwellMs := 10000, qualificationDwellMs := 30000,
      qualificationPasses := f2DescentDetectorPasses, finalGateDwellMs := 0,
      finalGatePasses := 0, applyTextureDwellMs := 120000, applyEnduranceDwellMs := 300000 }
  | .long =>
    { discoveryDwellMs := 10000, qualificationDwellMs := 60000,
      qualificationPasses := f2DescentDetectorPasses, finalGateDwellMs := 0,
      finalGatePasses := 0, applyTextureDwellMs := 300000, applyEnduranceDwellMs := 1200000 }

def f2RequiredQualificationPasses (policy : F2ForgeModePolicy) : Nat :=
  max policy.finalGatePasses policy.qualificationPasses

/-- What stays fixed while a Forge qualifies its profiles. -/
structure ForgeRun where
  runId : String
  gpuKey : String
  mode : PowerSweepMode
  saneBaseCurve : List VfBin
  powerLimitW : ℚ
  watts : Float32 → Option ℚ

structure F2ApplyQualificationSummary where
  qualified : Bool
  aborted : Bool := false
  cancelled : Bool := false
  retainBootFlag : Bool := false
  stopReason : String

structure F2PowerCalibrationSummary where
  confirmed : Bool
  aborted : Bool := false
  retainBootFlag : Bool := false
  stopReason : String

/-- What one run of the gate, or of the calibration, answers and appends to the log. -/
structure Reply (Summary : Type) where
  summary : Summary
  appended : List F2Observation := []

/-- The answers that one selected point may need: the ledger before and after its gate, each pass
of the gate, the field record and the calibration of the pair that replaces it. -/
structure ApplyAnswers where
  condemned : CondemnedPairs := {}
  gate : Nat → Reply F2ApplyQualificationSummary
  record : SafeLoopRecord := {}
  condemnedAfter : CondemnedPairs := {}
  calibration : Reply F2PowerCalibrationSummary

inductive ApplyPhase
  /-- At the top of the loop. -/
  | synthesize
  /-- Inside a pass over the selected points, with those still to come. -/
  | qualify (profiles : ForgeProfiles) (selected : List PowerSweepPoint) (changed : Bool)
  | ended (finalProfiles : Option ForgeProfiles)

/-- The exact-Apply closure between two answers. The last four fields list what its log tells: the
calls of the gate, the candidates dropped as dominated and by which pair, the pairs admitted in
place of a failed one, and the failed pairs whose clock had no admissible bin up to a ceiling. -/
structure ApplyLoop where
  classified : Classified
  excludedApplyPairs : Finset ApplyPair
  godforgeOverride : Option ApplyPair := none
  observations : List F2Observation
  forgeAborted : Bool := false
  retainBootFlag : Bool := false
  phase : ApplyPhase := .synthesize
  gates : List ApplyPair := []
  dominated : List (PowerSweepPoint × ApplyPair) := []
  admitted : List ApplyPair := []
  givenUp : List (ApplyPair × Nat) := []

namespace ForgeRun

variable (run : ForgeRun)

def policy : F2ForgeModePolicy := run.mode.f2Policy

def requiredConfirmations : Nat := f2RequiredQualificationPasses run.policy

def exactApplyRequired : Bool := decide (0 < run.requiredConfirmations)

def regimeRefusal (point : PowerSweepPoint) (classified : Classified) (required : Bool) :
    Option String :=
  f2RegimeCandidateRefusal point classified required run.requiredConfirmations
    ForgePolicy.balanced.confidenceThreshold

def enduranceQualified (observations : List F2Observation) (key : ApplyPair) : Bool :=
  pointHasCurrentEnduranceQualification observations run.runId key.1 key.2 run.gpuKey

/-- The power of a new pair allows its publication. -/
def powerAdmits (p99 : ℚ) : Bool :=
  decide (run.powerLimitW ≤ 0) || decide (p99 ≤ offCapCeilingW run.powerLimitW)

def start (frontier : Classified) (observations : List F2Observation) : ApplyLoop where
  classified := frontier
  excludedApplyPairs := (frontier.filterMap fun entry =>
    if (run.regimeRefusal entry.1 frontier run.exactApplyRequired).isSome then f2ApplyKey entry.1
    else none).toFinset
  observations := observations

end ForgeRun

/-- The gate so far: its last answer, the log and the passes done. -/
structure GatePasses where
  summary : F2ApplyQualificationSummary
  observations : List F2Observation
  passesDone : Nat

def GatePasses.again (gate : Nat → Reply F2ApplyQualificationSummary) :
    Nat → GatePasses → GatePasses
  | 0, passes => passes
  | left + 1, passes =>
    if passes.summary.qualified then
      let next := gate passes.passesDone
      again gate left
        { summary := next.summary, observations := passes.observations ++ next.appended,
          passesDone := passes.passesDone + 1 }
    else passes

/-- A quarantined pair must pass again after it passed. -/
def runGate (gate : Nat → Reply F2ApplyQualificationSummary)
    (observations : List F2Observation) (requiredPasses : Nat) : GatePasses :=
  GatePasses.again gate (requiredPasses - 1)
    { summary := (gate 0).summary, observations := observations ++ (gate 0).appended,
      passesDone := 1 }

/-- The point after its gate passed: nothing measured there is scored below its worst. -/
def PowerSweepPoint.afterGate (point : PowerSweepPoint) (applyP95 : Nat)
    (worstApplyPower applyGateP99 : Option ℚ) : PowerSweepPoint :=
  let point := { point with
    p95ClockMhz := some (max (point.p95ClockMhz.getD 0) applyP95)
    maxPowerW := max point.maxPowerW (worstApplyPower.getD point.maxPowerW) }
  let point := match applyGateP99 with
    | none => point
    | some gateP99 =>
      if point.powerP99W.getD 0 < gateP99 then
        { point with powerP99W := some gateP99, perfPerWatt := point.sustained / gateP99 }
      else point
  { point with
    applyQualified := true
    applyQualificationVersion := some f2QualificationContractVersion }

def approveKey (key : ApplyPair) (applyP95 : Nat) (worstApplyPower applyGateP99 : Option ℚ)
    (classified : Classified) : Classified :=
  classified.map fun entry =>
    if f2ApplyKey entry.1 = some key then
      (entry.1.afterGate applyP95 worstApplyPower applyGateP99, entry.2)
    else entry

namespace ApplyLoop

variable (run : ForgeRun) (s : ApplyLoop)

def eligible : Classified :=
  s.classified.filter fun entry =>
    (f2ApplyKey entry.1).any fun key => decide (key ∉ s.excludedApplyPairs)

/-- Approved, and by a soak of this very run. -/
def alreadyQualified (key : ApplyPair) : Bool :=
  (s.classified.any fun entry => f2ApplyKey entry.1 == some key && entry.1.approved) &&
    run.enduranceQualified s.observations key

/-- Leaves the pass, to synthesize without these pairs. -/
def excluding (keys : Finset ApplyPair) : ApplyLoop :=
  { s with excludedApplyPairs := s.excludedApplyPairs ∪ keys, phase := .synthesize }

def synthesize : ApplyLoop :=
  if s.eligible.isEmpty then { s with phase := .ended none }
  else
    let profiles := f2ApplyGodforgeOverride
      (synthesizeForgeProfilesCapped s.eligible .balanced run.powerLimitW) s.eligible
      s.godforgeOverride run.powerLimitW
    if !run.exactApplyRequired then { s with phase := .ended (some profiles) }
    else
      let selected := f2UniqueProfilePoints profiles.all
      if decide (selected.length < 3) && profiles.all.any Option.isNone then
        { s with phase := .ended none }
      else { s with phase := .qualify profiles selected false }

def gated (key : ApplyPair) (passes : GatePasses) : ApplyLoop :=
  { s with
    observations := passes.observations
    retainBootFlag := s.retainBootFlag || passes.summary.retainBootFlag
    gates := s.gates ++ List.replicate passes.passesDone key }

/-- The gate passed: raise the point, then refuse it when its regime asks for more voltage. -/
def passed (profiles : ForgeProfiles) (rest : List PowerSweepPoint) (key : ApplyPair) :
    ApplyLoop :=
  match currentApplyQualificationP95ClockAtAnchor s.observations run.runId key.1 key.2
      run.gpuKey with
  | none => s.excluding {key}
  | some applyP95 =>
    let worst := worstCurrentApplyQualificationPowerAtAnchor run.watts s.observations run.runId
      key.1 key.2 run.gpuKey
    let gateP99 := currentCompleteApplyGateP99AtAnchor run.watts s.observations run.runId
      key.1 key.2 run.gpuKey
    let s := { s with classified := approveKey key applyP95 worst gateP99 s.classified }
    let refused := (s.classified.find? fun entry => f2ApplyKey entry.1 == some key).any
      fun entry => (run.regimeRefusal entry.1 s.classified true).isSome
    if refused then
      s.excluding (insert key (f2RegimeDependentApplyKeys key s.classified).toFinset)
    else { s with phase := .qualify profiles rest true }

/-- Admits a pair that still has to pass the whole gate. -/
def admitting (pair : ApplyPair) (candidate : PowerSweepPoint × ℚ)
    (override : Option ApplyPair) : ApplyLoop :=
  { s with
    classified := f2UpsertClassifiedCandidate s.classified candidate
    godforgeOverride := override
    phase := .synthesize
    admitted := s.admitted ++ [pair] }

def givingUp (key : ApplyPair) (profileMaxMv : Nat) : ApplyLoop :=
  { s with phase := .synthesize, givenUp := s.givenUp ++ [(key, profileMaxMv)] }

def calibrated (calibration : Reply F2PowerCalibrationSummary) : ApplyLoop :=
  { s with
    observations := s.observations ++ calibration.appended
    retainBootFlag := s.retainBootFlag || calibration.summary.retainBootFlag }

def abortedBy : ApplyLoop := { s with forgeAborted := true, phase := .ended none }

/-- The exhausted voltage at the next lower clock, once it is calibrated. -/
def fastDrop (key : ApplyPair) (calibration : Reply F2PowerCalibrationSummary) : ApplyLoop :=
  match f2GodforgeFastDropCandidate s.classified s.excludedApplyPairs key with
  | none => s
  | some (carried, confidence) =>
    let carriedKey := (carried.target, key.2)
    let s := s.calibrated calibration
    if calibration.summary.aborted && calibration.summary.retainBootFlag then s.abortedBy
    else if calibration.summary.confirmed then
      match measuredPowerAtPair run.watts s.observations run.gpuKey carriedKey.1 carriedKey.2 with
      | none => s
      | some p99 =>
        if run.powerAdmits p99 then
          s.admitting carriedKey ({ carried with
            powerP99W := some p99
            maxPowerW := max carried.maxPowerW p99
            perfPerWatt := carried.sustained / p99
            applyQualified := false
            applyQualificationVersion := none }, confidence) (some carriedKey)
        else s
    else s

/-- The selected point at the bin that replaces the failed one, if its power is known to fit. -/
def climbed (role : F2ProfileRole) (profileMaxMv : Nat) (point : PowerSweepPoint)
    (key : ApplyPair) (nextMv : Nat) (guardPower : Option ℚ) : ApplyLoop :=
  match guardPower with
  | none => s.givingUp key profileMaxMv
  | some p99 =>
    if run.powerAdmits p99 then
      let confidence := ((s.classified.find? fun entry => f2ApplyKey entry.1 == some key).map
        Prod.snd).getD 0
      s.admitting (key.1, nextMv) ({ point with
        vfTableVoltageMv := some nextMv
        applyMarginMv := point.boundaryVoltageMv.map (nextMv - ·)
        powerP99W := some p99
        maxPowerW := max point.maxPowerW p99
        applyQualified := false
        applyQualificationVersion := none }, confidence)
        (if role = .godforge then some (key.1, nextMv) else s.godforgeOverride)
    else s.givingUp key profileMaxMv

/-- A bin without a measurement is calibrated first. -/
def climb (role : F2ProfileRole) (profileMaxMv : Nat) (point : PowerSweepPoint)
    (key : ApplyPair) (nextMv : Nat) (measured : Option ℚ)
    (calibration : Reply F2PowerCalibrationSummary) : ApplyLoop :=
  match measured with
  | some p99 => s.climbed run role profileMaxMv point key nextMv (some p99)
  | none =>
    let s := s.calibrated calibration
    if calibration.summary.aborted then s.abortedBy
    else if calibration.summary.confirmed then
      s.climbed run role profileMaxMv point key nextMv
        (measuredPowerAtPair run.watts s.observations run.gpuKey key.1 nextMv)
    else s.climbed run role profileMaxMv point key nextMv none

/-- The failed pair leaves this run; its clock climbs the real curve, or Godforge drops one. -/
def repaired (profiles : ForgeProfiles) (point : PowerSweepPoint) (key : ApplyPair)
    (stopReason : String) (answers : ApplyAnswers) : ApplyLoop :=
  let role := f2ProfileRole profiles key
  let profileMaxMv := f2ProfileRepairMaxMv role profiles key run.saneBaseCurve
  match f2PlanVerticalRepair run.watts run.saneBaseCurve answers.record answers.condemnedAfter
      s.observations run.gpuKey key.1 key.2 stopReason run.powerLimitW profileMaxMv with
  | .ok (nextMv, measured) =>
    s.climb run role profileMaxMv point key nextMv measured answers.calibration
  | .error _ =>
    let s := s.givingUp key profileMaxMv
    if role = .godforge then s.fastDrop run key answers.calibration else s

def failed (profiles : ForgeProfiles) (point : PowerSweepPoint) (key : ApplyPair)
    (summary : F2ApplyQualificationSummary) (answers : ApplyAnswers) : ApplyLoop :=
  let blacklistRefused :=
    summary.aborted && Text.contains summary.stopReason.toList "blacklisted".toList
  let powerCeilingExceeded :=
    "ExactApplyPowerCeilingExceeded".toList.isPrefixOf summary.stopReason.toList
  if !blacklistRefused && (summary.aborted || summary.cancelled) then
    { s with forgeAborted := s.forgeAborted || summary.aborted, phase := .ended none }
  else if !(powerCeilingExceeded || blacklistRefused ||
      f2GateFailureSupportsVerticalRepair summary.stopReason) then
    { s with phase := .ended none }
  else
    let dependents :=
      if !powerCeilingExceeded && !blacklistRefused &&
          f2GateFailureIsQuarantinable summary.stopReason then
        (f2RegimeDependentApplyKeys key s.classified).toFinset
      else ∅
    (s.excluding (insert key dependents)).repaired run profiles point key summary.stopReason
      answers

/-- One selected point of a pass. -/
def qualifyPoint (profiles : ForgeProfiles) (point : PowerSweepPoint)
    (rest : List PowerSweepPoint) (changed : Bool) (answers : ApplyAnswers) : ApplyLoop :=
  match f2ApplyKey point with
  | none => { s with phase := .ended none }
  | some key =>
    if s.alreadyQualified run key then { s with phase := .qualify profiles rest changed }
    else
      match f2ApprovedDominator point s.classified with
      | some dominator =>
        { s.excluding {key} with dominated := s.dominated ++ [(point, dominator)] }
      | none =>
        let required := answers.condemned.requiredApplyPasses key.1 key.2
          f2QualificationContractVersion
        let passes := runGate answers.gate s.observations required
        let s := s.gated key passes
        if passes.summary.qualified then s.passed run profiles rest key
        else s.failed run profiles point key passes.summary answers

def advance (answers : ApplyAnswers) : ApplyLoop :=
  match s.phase with
  | .synthesize => s.synthesize run
  | .qualify profiles (point :: rest) changed =>
    s.qualifyPoint run profiles point rest changed answers
  | .qualify profiles [] changed =>
    if changed then { s with phase := .synthesize } else { s with phase := .ended (some profiles) }
  | .ended _ => s

/-- The pair that the gate runs on next. -/
def gatesNext : Option ApplyPair :=
  match s.phase with
  | .qualify _ (point :: _) _ =>
    (f2ApplyKey point).filter fun key =>
      !s.alreadyQualified run key && (f2ApprovedDominator point s.classified).isNone
  | _ => none

def gatePasses (key : ApplyPair) (answers : ApplyAnswers) : GatePasses :=
  runGate answers.gate s.observations (answers.condemned.requiredApplyPasses key.1 key.2
    f2QualificationContractVersion)

def hasEnded : Prop := ∃ finalProfiles, s.phase = .ended finalProfiles

/-- A qualified summary has left this run's Endurance evidence of its pair in the log. -/
def Honest (answers : ApplyAnswers) : Prop :=
  ∀ key, s.gatesNext run = some key → (s.gatePasses key answers).summary.qualified →
    run.enduranceQualified (s.gatePasses key answers).observations key

end ApplyLoop

/-- The closure loop over a frontier and a log, for every sequence of answers. -/
def ForgeRun.exactApply (run : ForgeRun) (frontier : Classified)
    (observations : List F2Observation) : Runs.Machine ApplyLoop ApplyAnswers where
  init s := s = run.start frontier observations
  step s answers s' := ¬ s.hasEnded ∧ s.Honest run answers ∧ s' = s.advance run answers

theorem ForgeRun.exactApplyRequired_eq (run : ForgeRun) : run.exactApplyRequired = true := by
  cases hmode : run.mode <;>
    simp [exactApplyRequired, requiredConfirmations, policy, hmode, PowerSweepMode.f2Policy,
      f2RequiredQualificationPasses, f2DescentDetectorPasses]

end Nidavellir

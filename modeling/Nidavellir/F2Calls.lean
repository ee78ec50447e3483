import Nidavellir.F2Motor
import Nidavellir.Lib.Trace

namespace Nidavellir

open F2Ops Trace

inductive F2Call
  | select (i : Nat) (result : Except String Unit)
  | armBootFlag (result : Except String Unit)
  | applyPositiveOffset (result : Except String Unit)
  | verify (verdict : PositiveOffsetVerification)
  | dwell (outcome : F2DwellOutcome)
  | resetToStock (result : Except String Unit)
  | clearBootFlag (result : Except String Unit)
  | blacklistPoint (countsAsCrash : Bool) (result : Except String Unit)
deriving DecidableEq

@[simp] theorem isOk_ok {ε α : Type*} (a : α) : (Except.ok a : Except ε α).isOk = true := rfl

@[simp] theorem isOk_error {ε α : Type*} (e : ε) : (Except.error e : Except ε α).isOk = false := rfl

/-- The operations of a step with a record of the calls. -/
abbrev Traced (O : Type*) := Recorded F2Call O

instance {O : Type*} [F2Ops O] : F2Ops (Traced O) where
  armBootFlag self := self.record .armBootFlag armBootFlag
  applyPositiveOffset self := self.record .applyPositiveOffset applyPositiveOffset
  verify self := self.record .verify F2Ops.verify
  dwell self := self.record (fun d => .dwell d.outcome) F2Ops.dwell
  resetToStock self := self.record .resetToStock resetToStock
  clearBootFlag self := self.record .clearBootFlag clearBootFlag
  blacklistPoint countsAsCrash self :=
    self.record (.blacklistPoint countsAsCrash) (blacklistPoint countsAsCrash)

/-- Boundary knowledge: the point failed, but the device answered. -/
def F2Outcome.isBoundary (self : F2Outcome) : Bool := self == .silentError || self == .unstable

def blacklistCalls (boundary : Bool) (result : Except String Unit) : List F2Call :=
  if boundary then [.blacklistPoint false result] else []

/-- The cleanup after a write: the outcome so far, the calls made, the outcome reported. -/
inductive CleanupCalls : F2Outcome → List F2Call → F2Outcome → Prop
  | resetFailed (o e b) :
    CleanupCalls o (.resetToStock (.error e) :: blacklistCalls o.isBoundary b) .resetFailed
  | cleared (o b) :
    CleanupCalls o (.resetToStock (.ok ()) :: blacklistCalls o.isBoundary b ++
      [.clearBootFlag (.ok ())]) o
  | clearFailed (o b e) :
    CleanupCalls o (.resetToStock (.ok ()) :: blacklistCalls o.isBoundary b ++
      [.clearBootFlag (.error e)]) .resetFailed

/-- The calls from the arm to the last one before the cleanup, and the outcome so far. -/
inductive WriteCalls : List F2Call → F2Outcome → Prop
  | applyFailed (e) :
    WriteCalls [.armBootFlag (.ok ()), .applyPositiveOffset (.error e)] (.applyFailed e)
  | verifyFailed (v) (hv : v ≠ .raiseVerified) :
    WriteCalls [.armBootFlag (.ok ()), .applyPositiveOffset (.ok ()), .verify v] .verifyFailed
  | dwelt {d : F2DwellOutcome} {o} (ho : d.reported = o) :
    WriteCalls [.armBootFlag (.ok ()), .applyPositiveOffset (.ok ()), .verify .raiseVerified,
      .dwell d] o

/-- The calls of one confirmed step and the outcome it reports. -/
inductive StepCalls : List F2Call → F2Outcome → Prop
  | armFailed (e r) : StepCalls [.armBootFlag (.error e), .resetToStock r] (.armFailed e)
  | deviceLost {w} (hw : WriteCalls w .deviceLost) (r b) :
    StepCalls (w ++ [.resetToStock r, .blacklistPoint true b]) .deviceLost
  | cleaned {w o calls o'} (hw : WriteCalls w o) (ho : o ≠ .deviceLost)
    (hc : CleanupCalls o calls o') : StepCalls (w ++ calls) o'

section Motor

variable {O : Type*} [F2Ops O]

theorem armBootFlag_traced (self : Traced O) :
    ∃ result self', armBootFlag self = (result, self') ∧
      self'.calls = self.calls ++ [.armBootFlag result] :=
  self.record_spec _ _

theorem applyPositiveOffset_traced (self : Traced O) :
    ∃ result self', applyPositiveOffset self = (result, self') ∧
      self'.calls = self.calls ++ [.applyPositiveOffset result] :=
  self.record_spec _ _

theorem verify_traced (self : Traced O) :
    ∃ result self', F2Ops.verify self = (result, self') ∧
      self'.calls = self.calls ++ [.verify result] :=
  self.record_spec _ _

theorem dwell_traced (self : Traced O) :
    ∃ (result : F2DwellResult) (self' : Traced O), F2Ops.dwell self = (result, self') ∧
      self'.calls = self.calls ++ [.dwell result.outcome] :=
  self.record_spec (fun d : F2DwellResult => .dwell d.outcome) _

theorem resetToStock_traced (self : Traced O) :
    ∃ result self', resetToStock self = (result, self') ∧
      self'.calls = self.calls ++ [.resetToStock result] :=
  self.record_spec _ _

theorem clearBootFlag_traced (self : Traced O) :
    ∃ result self', clearBootFlag self = (result, self') ∧
      self'.calls = self.calls ++ [.clearBootFlag result] :=
  self.record_spec _ _

theorem blacklistPoint_traced (countsAsCrash : Bool) (self : Traced O) :
    ∃ result self', blacklistPoint countsAsCrash self = (result, self') ∧
      self'.calls = self.calls ++ [.blacklistPoint countsAsCrash result] :=
  self.record_spec _ _

/-- The report of a cleanup whose reset, blacklist and clear answered as given. -/
def cleanupReport (r : F2StepReport) (reset listed cleared : Except String Unit)
    (blacklist : Bool) : F2StepReport :=
  { r with
    resetOk := some reset.isOk
    blacklisted := if blacklist then listed.isOk else r.blacklisted
    bootFlagCleared := r.bootFlagCleared || (reset.isOk && cleared.isOk)
    outcome := if reset.isOk && cleared.isOk then r.outcome else .resetFailed
    validated :=
      if reset.isOk then cleared.isOk && (r.validated || decide (r.outcome = .validated))
      else r.validated }

theorem finishAfterWrite_traced (self : Traced O) (r : F2StepReport) (blacklist : Bool) :
    ∃ reset listed cleared, (finishAfterWrite self r blacklist).2.calls =
        self.calls ++ (.resetToStock reset :: blacklistCalls blacklist listed ++
          if reset.isOk then [.clearBootFlag cleared] else []) ∧
      (finishAfterWrite self r blacklist).1 = cleanupReport r reset listed cleared blacklist := by
  obtain ⟨reset, t₁, h₁, hc₁⟩ := resetToStock_traced self
  obtain ⟨listed, t₂, h₂, hc₂⟩ := blacklistPoint_traced false t₁
  cases blacklist with
  | true =>
    obtain ⟨cleared, t₃, h₃, hc₃⟩ := clearBootFlag_traced t₂
    refine ⟨reset, listed, cleared, ?_⟩
    rcases reset with e | ⟨⟩
    · simp [finishAfterWrite, cleanupReport, blacklistCalls, h₁, h₂, hc₁, hc₂]
    · rcases cleared with e | ⟨⟩
      · simp [finishAfterWrite, cleanupReport, blacklistCalls, h₁, h₂, h₃, hc₁, hc₂, hc₃]
      · by_cases hv : r.outcome = .validated <;>
          simp [finishAfterWrite, cleanupReport, blacklistCalls, h₁, h₂, h₃, hc₁, hc₂, hc₃, hv]
  | false =>
    obtain ⟨cleared, t₃, h₃, hc₃⟩ := clearBootFlag_traced t₁
    refine ⟨reset, listed, cleared, ?_⟩
    rcases reset with e | ⟨⟩
    · simp [finishAfterWrite, cleanupReport, blacklistCalls, h₁, hc₁]
    · rcases cleared with e | ⟨⟩
      · simp [finishAfterWrite, cleanupReport, blacklistCalls, h₁, h₃, hc₁, hc₃]
      · by_cases hv : r.outcome = .validated <;>
          simp [finishAfterWrite, cleanupReport, blacklistCalls, h₁, h₃, hc₁, hc₃, hv]

theorem finishAfterWrite_calls (self : Traced O) {r : F2StepReport} (hr : r.validated = false)
    {blacklist : Bool} (hb : r.outcome.isBoundary = blacklist) :
    ∃ calls, (finishAfterWrite self r blacklist).2.calls = self.calls ++ calls ∧
      CleanupCalls r.outcome calls (finishAfterWrite self r blacklist).1.outcome ∧
      (finishAfterWrite self r blacklist).1.validated =
        decide ((finishAfterWrite self r blacklist).1.outcome = .validated) := by
  subst hb
  obtain ⟨reset, listed, cleared, hcalls, hreport⟩ :=
    finishAfterWrite_traced self r r.outcome.isBoundary
  refine ⟨_, hcalls, ?_⟩
  rw [hreport]
  rcases reset with e | ⟨⟩
  · exact ⟨by simpa [cleanupReport] using .resetFailed r.outcome e listed,
      by simp [cleanupReport, hr]⟩
  · rcases cleared with e | ⟨⟩
    · exact ⟨.clearFailed r.outcome listed e, by simp [cleanupReport]⟩
    · exact ⟨.cleared r.outcome listed, by simp [cleanupReport, hr]⟩

/-- A cleanup completes the step whose write made the calls `w`. -/
theorem finishAfterWrite_step {start self : Traced O} {w : List F2Call} {r : F2StepReport}
    (hw : WriteCalls w r.outcome) (hc : self.calls = start.calls ++ w)
    (ho : r.outcome ≠ .deviceLost) (hr : r.validated = false) {blacklist : Bool}
    (hb : r.outcome.isBoundary = blacklist) :
    ∃ calls, (finishAfterWrite self r blacklist).2.calls = start.calls ++ calls ∧
      StepCalls calls (finishAfterWrite self r blacklist).1.outcome ∧
      (finishAfterWrite self r blacklist).1.validated =
        decide ((finishAfterWrite self r blacklist).1.outcome = .validated) := by
  obtain ⟨calls, hcalls, hcleanup, hvalid⟩ := finishAfterWrite_calls self hr hb
  exact ⟨w ++ calls, by rw [hcalls, hc, List.append_assoc], .cleaned hw ho hcleanup, hvalid⟩

/-- The motor makes the calls of one step and reports their outcome. -/
theorem runConfirmedF2Step_calls [BuildEnv] (self : Traced O) :
    ∃ calls, (runConfirmedF2Step self).2.calls = self.calls ++ calls ∧
      StepCalls calls (runConfirmedF2Step self).1.outcome ∧
      (runConfirmedF2Step self).1.validated =
        decide ((runConfirmedF2Step self).1.outcome = .validated) := by
  obtain ⟨armed, t₁, h₁, hc₁⟩ := armBootFlag_traced self
  unfold runConfirmedF2Step
  rcases armed with e | ⟨⟩
  · obtain ⟨reset, t₂, h₂, hc₂⟩ := resetToStock_traced t₁
    simp only [h₁, h₂]
    exact ⟨_, by simp [hc₂, hc₁], .armFailed e reset, rfl⟩
  obtain ⟨applied, t₂, h₂, hc₂⟩ := applyPositiveOffset_traced t₁
  simp only [h₁]
  rcases applied with e | ⟨⟩
  · simp only [h₂]
    exact finishAfterWrite_step (.applyFailed e) (by simp [hc₂, hc₁]) (by simp) rfl rfl
  obtain ⟨v, t₃, h₃, hc₃⟩ := verify_traced t₂
  simp only [h₂, h₃]
  split
  next hv =>
    exact finishAfterWrite_step (.verifyFailed v hv) (by simp [hc₃, hc₂, hc₁]) (by simp) rfl rfl
  next hv =>
    obtain rfl := not_not.mp hv
    obtain ⟨d, t₄, h₄, hc₄⟩ := dwell_traced t₃
    have hc : t₄.calls = self.calls ++ [.armBootFlag (.ok ()), .applyPositiveOffset (.ok ()),
        .verify .raiseVerified, .dwell d.outcome] := by
      simp [hc₄, hc₃, hc₂, hc₁]
    simp only [h₄, settleDwell]
    split
    next hd =>
      obtain ⟨reset, t₅, h₅, hc₅⟩ := resetToStock_traced t₄
      obtain ⟨listed, t₆, h₆, hc₆⟩ := blacklistPoint_traced true t₅
      simp only [h₅, h₆]
      refine ⟨_, ?_, .deviceLost (.dwelt (d := .deviceLost) rfl) reset listed, rfl⟩
      rw [hc₆, hc₅, hc, hd]
      simp
    all_goals
      next hd =>
        refine finishAfterWrite_step (.dwelt rfl) hc ?_ rfl ?_
        all_goals
          simp only [populateF2DwellReport, hd]
          decide

end Motor

/-- Operations that answer every call the same way. -/
structure Scripted where
  armed : Except String Unit := .ok ()
  applied : Except String Unit := .ok ()
  verdict : PositiveOffsetVerification := .raiseVerified
  outcome : F2DwellOutcome := .stable
  reset : Except String Unit := .ok ()
  cleared : Except String Unit := .ok ()
  listed : Except String Unit := .ok ()
  count : Nat := 1

instance : F2Ops Scripted where
  armBootFlag self := (self.armed, self)
  applyPositiveOffset self := (self.applied, self)
  verify self := (self.verdict, self)
  dwell self := ({
    outcome := self.outcome
    avgClockMhz := 1845
    p5ClockMhz := 1845
    p95ClockMhz := 1845
    powerW := 180
    maxPowerW := 200
    powerP99W := none
    powerCappedFrac := 0
    maxTempC := none
    thermalThrottled := false
    measuredVoltageMinMv := none
    measuredVoltageAvgMv := none
    measuredVoltageMaxMv := none
    measuredVoltageSampleCount := 0
    renderFrames := none
    renderFps := none
    durationMs := 15000
    sampleCount := 100
    qualificationCoverage := none
    evidenceProvenance := none }, self)
  resetToStock self := (self.reset, self)
  clearBootFlag self := (self.cleared, self)
  blacklistPoint _ self := (self.listed, self)

inductive F2MultiStopReason
  | completedAllPlanned
  | verifierFailed
  | silentError
  | unstable
  | deviceLost
  | clockDrop
  | inconclusive
  | blacklisted
  | resetFailed
  | armFailed
  | applyFailed
  | noMoreCandidates
deriving DecidableEq, Repr

structure F2MultiStepReport where
  planned : Nat
  executed : Nat
  steps : List F2StepReport
  lastGoodIndex : Option Nat
  stopReason : F2MultiStopReason

/-- Adds the candidate cursor. `select` makes candidate `i` current or refuses it. -/
class F2MultiStepOps (O : Type*) extends F2Ops O where
  candidateCount : O → Nat
  select : Nat → O → Except String Unit × O

open F2MultiStepOps

/-- Why an outcome stops the descent; `none` where the loop goes on to the next candidate. -/
def f2StopReason : F2Outcome → Option F2MultiStopReason
  | .validated => none
  | .verifyFailed => some .verifierFailed
  | .silentError => some .silentError
  | .unstable => some .unstable
  | .deviceLost => some .deviceLost
  | .powerBoundClockDrop => none
  | .clockDrop => some .clockDrop
  | .inconclusive => some .inconclusive
  | .resetFailed => some .resetFailed
  | .armFailed _ => some .armFailed
  | .applyFailed _ => some .applyFailed

structure CandidatesRun (O : Type*) where
  steps : List F2StepReport
  lastGoodIndex : Option Nat
  stopReason : Option F2MultiStopReason
  ops : O

section Descent

variable {O : Type*} [F2MultiStepOps O] [BuildEnv]

/-- The loop over `i..planned`, with `remaining` candidates to go. -/
def runCandidates (ops : O) (lastGoodIndex : Option Nat) (i : Nat) : Nat → CandidatesRun O
  | 0 => ⟨[], lastGoodIndex, none, ops⟩
  | remaining + 1 =>
    match select i ops with
    | (.error _, ops) => ⟨[], lastGoodIndex, some .blacklisted, ops⟩
    | (.ok (), ops) =>
      let (report, ops) := runConfirmedF2Step ops
      match f2StopReason report.outcome with
      | some reason => ⟨[report], lastGoodIndex, some reason, ops⟩
      | none =>
        let lastGoodIndex := if report.outcome = .validated then some i else lastGoodIndex
        let run := runCandidates ops lastGoodIndex (i + 1) remaining
        { run with steps := report :: run.steps }

def runConfirmedF2MultiStep (ops : O) (cap : Nat) : F2MultiStepReport × O :=
  let planned := min (candidateCount ops) cap
  let run := runCandidates ops none 0 planned
  ({ planned
     executed := run.steps.length
     steps := run.steps
     lastGoodIndex := run.lastGoodIndex
     stopReason := run.stopReason.getD
       (if planned = 0 then .noMoreCandidates else .completedAllPlanned) }, run.ops)

end Descent

instance {O : Type*} [F2MultiStepOps O] : F2MultiStepOps (Traced O) where
  candidateCount self := candidateCount self.ops
  select i self := self.record (.select i) (select i)

theorem StepCalls.f2StopReason_eq_none {calls : List F2Call} {o : F2Outcome}
    (h : StepCalls calls o) : f2StopReason o = none ↔ o = .validated := by
  have hbound : o ≠ .powerBoundClockDrop := by
    cases h with
    | armFailed e r => simp
    | deviceLost hw r b => simp
    | cleaned hw ho hc =>
      have hwrite : ∀ {w o}, WriteCalls w o → o ≠ .powerBoundClockDrop := by
        rintro w o (e | ⟨v, hv⟩ | @⟨d, _, rfl⟩)
        · simp
        · simp
        · cases d <;> simp [F2DwellOutcome.reported]
      cases hc with
      | cleared b => exact hwrite hw
      | _ => simp
  cases o with
  | powerBoundClockDrop => exact (hbound rfl).elim
  | _ => simp [f2StopReason]

end Nidavellir

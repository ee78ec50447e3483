import Nidavellir.ConfirmedPaths

namespace Nidavellir

inductive F2PowerCapState
  | nearCap
  | offCap
  | ambiguous
deriving DecidableEq, Repr

def powerP99EquivalentP5TolMhz : Nat := 15

/-- The comparisons of measured powers, which the source makes in `f32`. -/
structure F2PowerRules where
  finitePositive : Float32 → Bool
  nearLimit : Float32 → Float32 → Bool
  belowLimit : Float32 → Float32 → Bool
  cappedHalf : Float32 → Bool
  consistent : Float32 → Float32 → Bool
  greater : Float32 → Float32 → Float32

def powerP99RecheckAbsW : Float32 := 8.0

def powerP99RecheckRel : Float32 := 0.05

/-- `f32::max`, which ignores a NaN. -/
def f32Max (a b : Float32) : Float32 :=
  if a.isNaN then b else if b.isNaN then a else max a b

/-- The comparisons as the source makes them. -/
def f32PowerRules : F2PowerRules where
  finitePositive power := power.isFinite && decide (0 < power)
  nearLimit power limit := decide (limit * 0.99 ≤ power)
  belowLimit power limit := decide (power ≤ limit * 0.98)
  cappedHalf fraction := fraction.isFinite && decide (0.5 ≤ fraction)
  consistent a b :=
    decide ((a - b).abs ≤ f32Max powerP99RecheckAbsW (f32Max a b * powerP99RecheckRel))
  greater := f32Max

/-- `Iterator::reduce`. -/
def reduce {α : Type*} (f : α → α → α) : List α → Option α
  | [] => none
  | a :: as => some (as.foldl f a)

def anyPair {α : Type*} (p : α → α → Bool) : List α → Bool
  | [] => false
  | a :: as => as.any (p a) || anyPair p as

namespace F2PowerRules

variable (self : F2PowerRules)

def capStateWithPrevious (powerP99W powerLimitW powerCappedFrac : Option Float32)
    (previous : Option F2PowerCapState) : F2PowerCapState :=
  match powerP99W.filter self.finitePositive with
  | none => .ambiguous
  | some powerP99 =>
    match powerLimitW.filter self.finitePositive with
    | some limit =>
      if self.nearLimit powerP99 limit then .nearCap
      else if self.belowLimit powerP99 limit then .offCap
      else (previous.filter (· ≠ .ambiguous)).getD .nearCap
    | none => if powerCappedFrac.any self.cappedHalf then .nearCap else .offCap

def measurementContentUsable (report : F2StepReport) : Bool :=
  (report.outcome == .validated || report.outcome == .clockDrop) && !report.thermalThrottled &&
    report.powerP99W.any self.finitePositive

def measurementUsable (report : F2StepReport) : Bool :=
  self.measurementContentUsable report && report.resetOk == some true && report.bootFlagCleared

/-- `usable` is the content test inside a transaction, the full one after a confirmed step. -/
def p99RequiresRecheck (usable : F2StepReport → Bool) (previous : Option (Float32 × Nat))
    (report : F2StepReport) : Bool :=
  usable report &&
    match previous, report.powerP99W, report.p5ClockMhz with
    | some (previousP99, previousP5), some currentP99, some currentP5 =>
      self.finitePositive previousP99 && self.finitePositive currentP99 &&
        decide (max previousP5 currentP5 - min previousP5 currentP5 ≤
          powerP99EquivalentP5TolMhz) && !self.consistent previousP99 currentP99
    | _, _, _ => false

def usablePowers (reports : List F2StepReport) : List Float32 :=
  (reports.filter self.measurementUsable).filterMap F2StepReport.powerP99W

def attemptsHaveConsistentPair (reports : List F2StepReport) : Bool :=
  anyPair self.consistent (self.usablePowers reports)

def capStateForAttempts (reports : List F2StepReport) (powerLimitW : Option Float32)
    (previous : Option F2PowerCapState) : F2PowerCapState :=
  self.capStateWithPrevious (reduce self.greater (self.usablePowers reports)) powerLimitW
    (reduce self.greater <|
      (reports.filter self.measurementUsable).filterMap F2StepReport.powerCappedFrac) previous

def recheckResolved (reports : List F2StepReport) (powerLimitW : Option Float32)
    (previous : Option F2PowerCapState) : Bool :=
  self.attemptsHaveConsistentPair reports &&
    self.capStateForAttempts reports powerLimitW previous != .ambiguous

/-- The attempts as the consensus marks them, and the power they agree on. -/
def confirmAttempts (reports : List F2StepReport) (rechecked : Bool) :
    List F2StepReport × Option Float32 :=
  let consensus :=
    if reports.any fun report => report.outcome.terminalFailure then false
    else if rechecked then self.attemptsHaveConsistentPair reports
    else (self.usablePowers reports).length == 1
  let mark (report : F2StepReport) : F2StepReport :=
    if self.measurementUsable report then
      { report with
        outcome := if consensus then report.outcome else .inconclusive
        powerP99Confirmed := consensus
        powerP99Attempts := reports.length }
    else report
  (reports.map mark, if consensus then reduce self.greater (self.usablePowers reports) else none)

/-- One report for the attempts at a bin; there is always a first one. -/
def aggregateAttempts (first : F2StepReport) (reports : List F2StepReport)
    (conservativeP99 : Option Float32) : F2StepReport :=
  { first with
    outcome :=
      match reports.find? fun report => report.outcome.terminalFailure with
      | some hard => hard.outcome
      | none =>
        if conservativeP99.isNone then .inconclusive
        else if reports.any fun report => report.outcome == .clockDrop then .clockDrop
        else .validated
    powerP99W := conservativeP99
    powerP99Confirmed := conservativeP99.isSome
    powerP99Attempts := reports.length
    p5ClockMhz := (reports.filterMap F2StepReport.p5ClockMhz).min?
    avgClockMhz := (reports.filterMap F2StepReport.avgClockMhz).min?
    powerW := (reports.filterMap F2StepReport.powerW).max?
    maxPowerW := (reports.filterMap F2StepReport.maxPowerW).max?
    powerCappedFrac := reduce self.greater (reports.filterMap F2StepReport.powerCappedFrac)
    maxTempC := reduce self.greater (reports.filterMap F2StepReport.maxTempC)
    thermalThrottled := reports.any F2StepReport.thermalThrottled }

def unconfirm (report : F2StepReport) : F2StepReport :=
  if report.powerP99Confirmed then
    { report with outcome := .inconclusive, powerP99Confirmed := false }
  else report

def finalizeCapState (reports : List F2StepReport) (aggregate : F2StepReport)
    (powerLimitW : Option Float32) (previous : Option F2PowerCapState) :
    List F2StepReport × F2StepReport × F2PowerCapState :=
  let capState := self.capStateWithPrevious aggregate.powerP99W powerLimitW
    aggregate.powerCappedFrac previous
  if capState = .ambiguous ∧ aggregate.powerP99Confirmed then
    (reports.map unconfirm, unconfirm aggregate, capState)
  else (reports, aggregate, capState)

/-- What the attempts at a bin show: the attempts as the analysis marks them, and their sum. -/
structure Verdict where
  attempts : List F2StepReport
  aggregate : F2StepReport
  conservativeP99 : Option Float32
  capState : F2PowerCapState

def Verdict.nearCap (self : Verdict) : Bool := self.capState == .nearCap

def powerBoundAttempt (nearCap : Bool) (attempt : F2StepReport) : F2StepReport :=
  if attempt.powerP99Confirmed then
    { attempt with outcome := f2PowerBoundClockDrop attempt.outcome nearCap }
  else attempt

/-- The analysis that a discovery and a calibration share. -/
def analyse (first : F2StepReport) (reports : List F2StepReport) (rechecked : Bool)
    (powerLimitW : Option Float32) (previous : Option F2PowerCapState) : Verdict :=
  let (attempts, conservativeP99) := self.confirmAttempts reports rechecked
  let (attempts, aggregate, capState) := self.finalizeCapState attempts
    (self.aggregateAttempts (attempts.headD first) attempts conservativeP99) powerLimitW previous
  ⟨attempts.map (powerBoundAttempt (capState == .nearCap)), aggregate, conservativeP99, capState⟩

end F2PowerRules

end Nidavellir

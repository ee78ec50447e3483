import Nidavellir.AnchoredSound
import Nidavellir.ConfirmedPaths
import Nidavellir.F2Frontier

namespace Nidavellir.LadderSweep

/-- After these the run cannot be trusted to go on. -/
def isSafetyFailure : F2ObsOutcome → Bool
  | .deviceLost | .resetFailed | .crashOrRecovery => true
  | _ => false

def F2MultiStopReason.debug : F2MultiStopReason → String
  | .completedAllPlanned => "CompletedAllPlanned"
  | .verifierFailed => "VerifierFailed"
  | .silentError => "SilentError"
  | .unstable => "Unstable"
  | .deviceLost => "DeviceLost"
  | .clockDrop => "ClockDrop"
  | .inconclusive => "Inconclusive"
  | .blacklisted => "Blacklisted"
  | .resetFailed => "ResetFailed"
  | .armFailed => "ArmFailed"
  | .applyFailed => "ApplyFailed"
  | .noMoreCandidates => "NoMoreCandidates"

structure SweepSummary where
  targetMhz : Nat
  executed : Nat
  recorded : Nat
  lastGoodMv : Option Nat
  firstBadMv : Option Nat
  bracket : Option VoltageBracket
  stopReason : String
  frontierUpdated : Bool
  safe : Bool

def queryByTarget (log : List F2Observation) (targetMhz : Nat) : List F2Observation :=
  log.filter (·.targetMhz == targetMhz)

def lastGoodMv (log : List F2Observation) (targetMhz : Nat) : Option Nat :=
  (lastGoodForTarget (queryByTarget log targetMhz) targetMhz).map F2Observation.anchorMv

/-- Whether the file takes a line; the answer may depend on what it holds. -/
abbrev Takes := List F2Observation → F2Observation → Bool

def append (takes : Takes) (log : List F2Observation) (obs : F2Observation) :
    List F2Observation :=
  if takes log obs then log ++ [obs] else log

/-- The observation of each executed step. -/
def observations (ctx : ObsContext) (targetMhz : Nat)
    (candidates : List AnchoredPositiveOffsetPlan) (report : F2MultiStepReport) :
    List F2Observation :=
  (report.steps.zip candidates).map fun (step, cand) =>
    observationFromAnchoredStep ctx targetMhz cand step

def recordTargetSweep (takes : Takes) (ctx : ObsContext) (targetMhz : Nat)
    (candidates : List AnchoredPositiveOffsetPlan) (report : F2MultiStepReport)
    (log : List F2Observation) : SweepSummary × List F2Observation :=
  let (recorded, anySafetyFailure, log) :=
    (observations ctx targetMhz candidates report).foldl
      (fun (recorded, anySafetyFailure, log) obs =>
        (if takes log obs then recorded + 1 else recorded,
          anySafetyFailure || isSafetyFailure obs.outcome, append takes log obs))
      (0, false, log)
  let all := queryByTarget log targetMhz
  ({ targetMhz
     executed := report.executed
     recorded
     lastGoodMv := (lastGoodForTarget all targetMhz).map F2Observation.anchorMv
     firstBadMv := (firstBadForTarget all targetMhz).map F2Observation.anchorMv
     bracket := bracketForTarget all targetMhz
     stopReason := F2MultiStopReason.debug report.stopReason
     frontierUpdated := (lastGoodForTarget all targetMhz).isSome
     safe := !anySafetyFailure }, log)

def ladderTargetFloor (baseFloorMv : Nat) (prevLastGoodMv : Option Nat) : Nat :=
  match prevLastGoodMv with
  | some p => max baseFloorMv p
  | none => baseFloorMv

/-- Where the descent of a target starts, and its floor. -/
def ladderTargetDescentBounds (baseFloorMv : Nat) (priorLastGoodMv : Option Nat)
    (targetMhz : Nat) (prevTargetMhz : Option Nat) (globalStartMv : Option Nat) :
    Option Nat × Nat :=
  if prevTargetMhz.any (targetMhz < ·) then (priorLastGoodMv.or globalStartMv, baseFloorMv)
  else (globalStartMv, ladderTargetFloor baseFloorMv priorLastGoodMv)

def ladderShouldContinue (currentTargetSafe : Bool) : Bool := currentTargetSafe

/-- What the whole ladder is given; time and card are read again for each target, here by the
number of targets left. -/
structure LadderArgs where
  sane : List VfBin
  limits : PositiveOffsetLimits
  startMv : Option Nat
  runId : String
  timestamp : Nat → String
  gpuKey : Nat → Option String
  takes : Takes

/-- What one target of the ladder did. -/
structure LadderTarget where
  targetMhz : Nat
  startMv : Option Nat
  floorMv : Nat
  candidates : List AnchoredPositiveOffsetPlan
  report : F2MultiStepReport
  summary : SweepSummary
  ctx : ObsContext

structure LadderRun (W : Type*) where
  sweeps : List LadderTarget
  world : W
  log : List F2Observation

namespace LadderArgs

variable (self : LadderArgs)

def ctx (left : Nat) (limits : PositiveOffsetLimits) : ObsContext where
  runId := self.runId
  timestamp := self.timestamp left
  gpuKey := self.gpuKey left
  evidenceKind := .discovery
  discoveryContractVersion := some f2DiscoveryContractVersion
  qualificationContractVersion := none
  qualificationCoverage := none
  mode := .ladderSweep
  requestedStartMv := self.startMv
  positiveOffsetCapMhz := limits.absMaxOffsetMhz

/-- The last good voltage that bounds a target: the one this run just found, or a stored one. -/
def prior (prevGood prevTarget : Option Nat) (log : List F2Observation) : Option Nat :=
  prevGood.or (prevTarget.bind (lastGoodMv log))

def bounds (prevGood prevTarget : Option Nat) (targetMhz : Nat) (log : List F2Observation) :
    Option Nat × Nat :=
  ladderTargetDescentBounds self.limits.hwFloorMv (prior prevGood prevTarget log) targetMhz
    prevTarget self.startMv

variable {W : Type*} [F2World W] [BuildEnv]

/-- The sweep of one target, unless the Safe Loop refuses it, and the log after it. -/
def sweep (prevGood prevTarget : Option Nat) (target left : Nat) (w : W)
    (log : List F2Observation) : Option (LadderTarget × List F2Observation) × W :=
  let (stores, w) := F2World.readStores w
  let (startMv, floorMv) := self.bounds prevGood prevTarget target log
  let limits := { self.limits with hwFloorMv := floorMv }
  let candidates := planAnchoredUndervoltDescent self.sane target startMv limits
  let candidateCount := candidates.length
  match confirmedF2MultiRefusal stores.record stores.bootFlagArmed (some candidateCount)
      candidateCount candidateCount with
  | some _ => (none, w)
  | none =>
    let (report, ops) :=
      runConfirmedF2MultiStep (descentOps w candidates limits target 0) candidateCount
    let ctx := self.ctx left limits
    let (summary, log) := recordTargetSweep self.takes ctx target candidates report log
    (some (⟨target, startMv, floorMv, candidates, report, summary, ctx⟩, log), ops.world)

def run (prevGood prevTarget : Option Nat) : List Nat → W → List F2Observation → LadderRun W
  | [], w, log => ⟨[], w, log⟩
  | target :: targets, w, log =>
    match self.sweep prevGood prevTarget target targets.length w log with
    | (none, w) => ⟨[], w, log⟩
    | (some (s, log), w) =>
      if ladderShouldContinue s.summary.safe then
        let rest := run s.summary.lastGoodMv (some target) targets w log
        { rest with sweeps := s :: rest.sweeps }
      else ⟨[s], w, log⟩

end LadderArgs

section Planner

variable {curve : List VfBin} {targetMhz : Nat} {startMv : Option Nat}
  {limits : PositiveOffsetLimits}

/-- A candidate keeps to the floor and to the start of its descent. -/
structure Within (limits : PositiveOffsetLimits) (startMv : Option Nat)
    (plan : AnchoredPositiveOffsetPlan) : Prop where
  floor : limits.hwFloorMv ≤ plan.anchor.voltageMv
  start : ∀ start, startMv = some start → plan.anchor.voltageMv ≤ start

theorem planDescent_within (hindices : (curve.map VfBin.index).Nodup) {prevOffsetMhz : Int}
    {bins : List VfBin} (hbins : ∀ bin ∈ bins, bin ∈ curve) :
    ∀ plan ∈ planDescent curve targetMhz startMv limits prevOffsetMhz bins,
      Within limits startMv plan := by
  induction bins generalizing prevOffsetMhz with
  | nil =>
    intro plan hplan
    cases hplan
  | cons bin bins ih =>
    have hrest : ∀ bin ∈ bins, bin ∈ curve := fun b hb => hbins b (List.mem_cons_of_mem bin hb)
    unfold planDescent
    split
    next => exact ih hrest
    next heligible =>
      rw [Bool.or_eq_true, not_or] at heligible
      split
      next accepted haccepted =>
        intro plan hplan
        rcases List.mem_cons.mp hplan with rfl | hplan
        · obtain ⟨-, found, hfound, hraise, hanchor⟩ :=
            planBoundedPositiveOffset_ok (planBoundedAnchoredPositiveOffset_ok haccepted).1
          have hmem : bin ∈ curve := hbins bin (List.mem_cons_self ..)
          have hsame : bin = found :=
            Option.some.inj ((find?_key_eq_some hindices hmem).symm.trans hfound)
          subst hsame
          have hvoltage : plan.anchor.voltageMv = bin.mv := by rw [hanchor]; rfl
          refine ⟨hvoltage ▸ hraise.floor, ?_⟩
          rintro start rfl
          have hstart := heligible.1
          rw [Option.any_some, decide_eq_true_eq, not_lt] at hstart
          rwa [hvoltage]
        · exact ih hrest plan hplan
      next =>
        intro plan hplan
        cases hplan

theorem planAnchored_within (hindices : (curve.map VfBin.index).Nodup) :
    ∀ plan ∈ planAnchoredUndervoltDescent curve targetMhz startMv limits,
      Within limits startMv plan :=
  planDescent_within hindices fun _ hbin => List.mem_mergeSort.mp hbin

end Planner

section Record

variable {takes : Takes} {ctx : ObsContext} {targetMhz : Nat}
  {candidates : List AnchoredPositiveOffsetPlan} {report : F2MultiStepReport}
  {log : List F2Observation}

theorem foldl_record (obs log : List F2Observation) (recorded : Nat) (unsafeSeen : Bool) :
    obs.foldl (fun (acc : Nat × Bool × List F2Observation) o =>
        (if takes acc.2.2 o then acc.1 + 1 else acc.1, acc.2.1 || isSafetyFailure o.outcome,
          append takes acc.2.2 o)) (recorded, unsafeSeen, log) =
      (recorded + ((obs.foldl (append takes) log).length - log.length),
        unsafeSeen || obs.any (isSafetyFailure ·.outcome), obs.foldl (append takes) log) ∧
      log.length ≤ (obs.foldl (append takes) log).length := by
  induction obs generalizing log recorded unsafeSeen with
  | nil => simp
  | cons o obs ih =>
    obtain ⟨hfold, hlength⟩ := ih (append takes log o)
      (if takes log o then recorded + 1 else recorded) (unsafeSeen || isSafetyFailure o.outcome)
    rw [List.foldl_cons, List.foldl_cons, List.any_cons, hfold]
    by_cases htaken : takes log o = true
    · have hgrown : (append takes log o).length = log.length + 1 := by simp [append, htaken]
      rw [if_pos htaken]
      refine ⟨Prod.ext ?_ (Prod.ext (Bool.or_assoc ..) rfl), by omega⟩
      show recorded + 1 + _ = recorded + _
      omega
    · have hkept : append takes log o = log := by simp [append, htaken]
      rw [if_neg htaken]
      rw [hkept] at hlength ⊢
      exact ⟨Prod.ext rfl (Prod.ext (Bool.or_assoc ..) rfl), hlength⟩

theorem recordTargetSweep_log :
    (recordTargetSweep takes ctx targetMhz candidates report log).2 =
      (observations ctx targetMhz candidates report).foldl (append takes) log := by
  unfold recordTargetSweep
  simp only [(foldl_record _ _ _ _).1]

theorem recordTargetSweep_safe :
    (recordTargetSweep takes ctx targetMhz candidates report log).1.safe =
      !(observations ctx targetMhz candidates report).any (isSafetyFailure ·.outcome) := by
  unfold recordTargetSweep
  simp only [(foldl_record _ _ _ _).1, Bool.false_or]

theorem recordTargetSweep_lastGoodMv :
    (recordTargetSweep takes ctx targetMhz candidates report log).1.lastGoodMv =
      lastGoodMv (recordTargetSweep takes ctx targetMhz candidates report log).2 targetMhz := rfl

theorem mem_foldl_append {obs : List F2Observation} {o : F2Observation}
    (h : o ∈ obs.foldl (append takes) log) : o ∈ log ∨ o ∈ obs := by
  induction obs generalizing log with
  | nil => exact .inl h
  | cons first obs ih =>
    rcases ih h with h | h
    · unfold append at h
      split at h
      next =>
        rcases List.mem_append.mp h with h | h
        · exact .inl h
        · exact .inr (List.mem_singleton.mp h ▸ List.mem_cons_self ..)
      next => exact .inl h
    · exact .inr (List.mem_cons_of_mem first h)

theorem mem_observations {o : F2Observation}
    (h : o ∈ observations ctx targetMhz candidates report) :
    o.targetMhz = targetMhz ∧ ∃ cand ∈ candidates, o.anchorMv = cand.anchor.voltageMv := by
  obtain ⟨⟨step, cand⟩, hpair, rfl⟩ := List.mem_map.mp h
  exact ⟨rfl, cand, (List.of_mem_zip hpair).2, rfl⟩

/-- A last good voltage of a target that the log did not know is one that the sweep tried. -/
theorem lastGoodMv_mem (hfresh : ∀ o ∈ log, o.targetMhz ≠ targetMhz) {v : Nat}
    (h : lastGoodMv ((observations ctx targetMhz candidates report).foldl (append takes) log)
      targetMhz = some v) : ∃ cand ∈ candidates, cand.anchor.voltageMv = v := by
  obtain ⟨o, ho, rfl⟩ := Option.map_eq_some_iff.mp h
  have hmem := List.mem_of_mem_filter (Extremes.minByKey_mem ho)
  obtain ⟨hlogged, htarget⟩ := List.mem_filter.mp (List.mem_of_mem_filter hmem)
  rcases mem_foldl_append hlogged with hold | hnew
  · exact absurd (beq_iff_eq.mp htarget) (hfresh o hold)
  · obtain ⟨-, cand, hcand, hanchor⟩ := mem_observations hnew
    exact ⟨cand, hcand, hanchor.symm⟩

end Record

/-- The observations of one target of a ladder. -/
def LadderTarget.recorded (self : LadderTarget) : List F2Observation :=
  observations self.ctx self.targetMhz self.candidates self.report

/-- What one target does between two states of the log. -/
structure Swept (args : LadderArgs) (prevGood prevTarget : Option Nat) (targetMhz : Nat)
    (log log' : List F2Observation) (s : LadderTarget) : Prop where
  target : s.targetMhz = targetMhz
  bounds : (s.startMv, s.floorMv) = args.bounds prevGood prevTarget targetMhz log
  candidates : s.candidates = planAnchoredUndervoltDescent args.sane targetMhz s.startMv
    { args.limits with hwFloorMv := s.floorMv }
  executed : s.report.executed = s.report.steps.length
  steps : s.report.steps.length ≤ s.candidates.length
  log : log' = s.recorded.foldl (append args.takes) log
  lastGood : s.summary.lastGoodMv = lastGoodMv log' targetMhz
  safe : s.summary.safe = !s.recorded.any (isSafetyFailure ·.outcome)

section Ladder

variable (args : LadderArgs) {W : Type*} [F2World W] [BuildEnv]

theorem runCandidates_length {O : Type*} [F2MultiStepOps O] (ops : O) (g : Option Nat)
    (i n : Nat) : (runCandidates ops g i n).steps.length ≤ n := by
  induction n generalizing ops g i with
  | zero => exact Nat.le_refl 0
  | succ n ih =>
    unfold runCandidates
    split
    next => exact Nat.zero_le (n + 1)
    next =>
      simp only
      split
      next => exact Nat.succ_le_succ (Nat.zero_le n)
      next => exact Nat.succ_le_succ (ih _ _ _)

variable {args} in
theorem sweep_swept {prevGood prevTarget : Option Nat} {target left : Nat} {w w' : W}
    {log log' : List F2Observation} {s : LadderTarget}
    (h : args.sweep prevGood prevTarget target left w log = (some (s, log'), w')) :
    Swept args prevGood prevTarget target log log' s := by
  unfold LadderArgs.sweep at h
  simp only at h
  split at h
  next => cases h
  next =>
    cases h
    exact ⟨rfl, rfl, rfl, rfl, (runCandidates_length ..).trans (min_le_right _ _),
      recordTargetSweep_log, recordTargetSweep_lastGoodMv, recordTargetSweep_safe⟩

/-- A ladder is refused at its next target, or sweeps it and goes on when it ended safe. -/
theorem run_cons (prevGood prevTarget : Option Nat) (target : Nat) (targets : List Nat) (w : W)
    (log : List F2Observation) :
    (∃ w', args.run prevGood prevTarget (target :: targets) w log = ⟨[], w', log⟩) ∨
      ∃ s w' log', Swept args prevGood prevTarget target log log' s ∧
        args.run prevGood prevTarget (target :: targets) w log =
          if s.summary.safe then
            let rest := args.run s.summary.lastGoodMv (some target) targets w' log'
            { rest with sweeps := s :: rest.sweeps }
          else ⟨[s], w', log'⟩ := by
  rw [LadderArgs.run]
  split
  next w' _ => exact .inl ⟨w', rfl⟩
  next s log' w' hsweep => exact .inr ⟨s, w', log', sweep_swept hsweep, rfl⟩

variable {args} in
omit [BuildEnv] in
theorem Swept.recorded_length {prevGood prevTarget : Option Nat} {target : Nat}
    {log log' : List F2Observation} {s : LadderTarget}
    (h : Swept args prevGood prevTarget target log log' s) :
    s.recorded.length = s.report.executed := by
  have hsteps := h.steps
  rw [h.executed, LadderTarget.recorded, observations, List.length_map, List.length_zip]
  omega

theorem run_log (prevGood prevTarget : Option Nat) (targets : List Nat) (w : W)
    (log : List F2Observation) :
    (args.run prevGood prevTarget targets w log).log =
      ((args.run prevGood prevTarget targets w log).sweeps.flatMap LadderTarget.recorded).foldl
        (append args.takes) log := by
  induction targets generalizing prevGood prevTarget w log with
  | nil => simp [LadderArgs.run]
  | cons target targets ih =>
    rcases run_cons args prevGood prevTarget target targets w log with
      ⟨w', hrun⟩ | ⟨s, w', log', hswept, hrun⟩
    · rw [hrun]
      simp
    · rw [hrun]
      by_cases hsafe : s.summary.safe = true
      · have hlog := ih s.summary.lastGoodMv (some target) w' log'
        simp only [hsafe, if_true]
        rw [List.flatMap_cons, List.foldl_append, ← hswept.log]
        exact hlog
      · simp only [hsafe, Bool.false_eq_true, if_false]
        simpa using hswept.log

theorem run_targets (prevGood prevTarget : Option Nat) (targets : List Nat) (w : W)
    (log : List F2Observation) :
    (args.run prevGood prevTarget targets w log).sweeps.map LadderTarget.targetMhz <+:
      targets := by
  induction targets generalizing prevGood prevTarget w log with
  | nil => simp [LadderArgs.run]
  | cons target targets ih =>
    rcases run_cons args prevGood prevTarget target targets w log with
      ⟨w', hrun⟩ | ⟨s, w', log', hswept, hrun⟩
    · rw [hrun]
      simp
    · rw [hrun]
      by_cases hsafe : s.summary.safe = true
      · simp only [hsafe, if_true]
        rw [List.map_cons, hswept.target]
        exact List.cons_prefix_cons.mpr ⟨rfl, ih s.summary.lastGoodMv (some target) w' log'⟩
      · simp [hsafe, hswept.target]

theorem run_steps (prevGood prevTarget : Option Nat) (targets : List Nat) (w : W)
    (log : List F2Observation) :
    ∀ s ∈ (args.run prevGood prevTarget targets w log).sweeps,
      s.recorded.length = s.report.executed := by
  induction targets generalizing prevGood prevTarget w log with
  | nil => simp [LadderArgs.run]
  | cons target targets ih =>
    rcases run_cons args prevGood prevTarget target targets w log with
      ⟨w', hrun⟩ | ⟨s, w', log', hswept, hrun⟩
    · rw [hrun]
      simp
    · rw [hrun]
      have hlength := hswept.recorded_length
      by_cases hsafe : s.summary.safe = true
      · simp only [hsafe, if_true]
        exact List.forall_mem_cons.mpr ⟨hlength, ih s.summary.lastGoodMv (some target) w' log'⟩
      · simpa [hsafe] using hlength

/-- A sweep that the ladder went on from was safe. -/
theorem run_safe (prevGood prevTarget : Option Nat) (targets : List Nat) (w : W)
    (log : List F2Observation) :
    ∀ s ∈ (args.run prevGood prevTarget targets w log).sweeps.dropLast,
      ∀ o ∈ s.recorded, isSafetyFailure o.outcome = false := by
  induction targets generalizing prevGood prevTarget w log with
  | nil => simp [LadderArgs.run]
  | cons target targets ih =>
    rcases run_cons args prevGood prevTarget target targets w log with
      ⟨w', hrun⟩ | ⟨s, w', log', hswept, hrun⟩
    · rw [hrun]
      simp
    · rw [hrun]
      by_cases hsafe : s.summary.safe = true
      · have hrest := ih s.summary.lastGoodMv (some target) w' log'
        have hclean : ∀ o ∈ s.recorded, isSafetyFailure o.outcome = false := by
          have hany := hswept.safe
          rw [hsafe] at hany
          simpa using hany
        simp only [hsafe, if_true]
        generalize args.run s.summary.lastGoodMv (some target) targets w' log' = rest at hrest ⊢
        cases hsweeps : rest.sweeps with
        | nil => simp
        | cons first others =>
          rw [hsweeps] at hrest
          rw [List.dropLast_cons_cons]
          exact List.forall_mem_cons.mpr ⟨hclean, hrest⟩
      · simp [hsafe]

/-- The log gains the observation of every executed step once, in the order of the ladder; the
targets are swept in order from the first, and only the last sweep may have ended unsafe. -/
theorem ladder_recorded (prevGood prevTarget : Option Nat) (targets : List Nat) (w : W)
    (log : List F2Observation) :
    let run := args.run prevGood prevTarget targets w log
    run.log = (run.sweeps.flatMap LadderTarget.recorded).foldl (append args.takes) log ∧
      (∀ s ∈ run.sweeps, s.recorded.length = s.report.executed) ∧
      run.sweeps.map LadderTarget.targetMhz <+: targets ∧
      ∀ s ∈ run.sweeps.dropLast, ∀ o ∈ s.recorded, isSafetyFailure o.outcome = false := by
  intro run
  refine ⟨?_, ?_, ?_, ?_⟩
  · exact run_log args prevGood prevTarget targets w log
  · exact run_steps args prevGood prevTarget targets w log
  · exact run_targets args prevGood prevTarget targets w log
  · exact run_safe args prevGood prevTarget targets w log

/-- The voltage bound that one target of the ladder puts on another. -/
def Bounds (a b : LadderTarget) : Prop :=
  ∀ v, a.summary.lastGoodMv = some v → ∀ plan ∈ b.candidates,
    if b.targetMhz < a.targetMhz then plan.anchor.voltageMv ≤ v else v ≤ plan.anchor.voltageMv

variable {args} in
omit [BuildEnv] in
theorem Swept.bounded (hindices : (args.sane.map VfBin.index).Nodup)
    {prevGood : Option Nat} {prevTarget target : Nat} {log log' : List F2Observation}
    {s : LadderTarget} (h : Swept args prevGood (some prevTarget) target log log' s) {v : Nat}
    (hv : prevGood = some v) :
    ∀ plan ∈ s.candidates,
      if target < prevTarget then plan.anchor.voltageMv ≤ v else v ≤ plan.anchor.voltageMv := by
  subst hv
  have hbounds := h.bounds
  intro plan hplan
  rw [h.candidates] at hplan
  obtain ⟨hfloor, hstart⟩ := planAnchored_within hindices plan hplan
  unfold LadderArgs.bounds ladderTargetDescentBounds at hbounds
  rw [Option.any_some] at hbounds
  by_cases hbelow : target < prevTarget
  · rw [if_pos (decide_eq_true hbelow), Prod.mk.injEq] at hbounds
    rw [if_pos hbelow]
    exact hstart v hbounds.1
  · rw [if_neg (by simpa using hbelow), Prod.mk.injEq] at hbounds
    rw [if_neg hbelow]
    have hfloorMv : s.floorMv = max args.limits.hwFloorMv v := hbounds.2
    have hle : s.floorMv ≤ plan.anchor.voltageMv := hfloor
    omega

/-- Each target bounds the next one. -/
theorem run_isChain (hindices : (args.sane.map VfBin.index).Nodup)
    (prevGood prevTarget : Option Nat) (targets : List Nat) (w : W) (log : List F2Observation) :
    (args.run prevGood prevTarget targets w log).sweeps.IsChain Bounds := by
  induction targets generalizing prevGood prevTarget w log with
  | nil => exact List.IsChain.nil
  | cons target targets ih =>
    rcases run_cons args prevGood prevTarget target targets w log with
      ⟨w', hrun⟩ | ⟨s, w', log', hswept, hrun⟩
    · rw [hrun]
      exact List.IsChain.nil
    · rw [hrun]
      split
      next =>
        refine List.isChain_cons.mpr ⟨?_, ih s.summary.lastGoodMv (some target) w' log'⟩
        intro b hb v hv
        cases targets with
        | nil => cases hb
        | cons next targets =>
          rcases run_cons args s.summary.lastGoodMv (some target) next targets w' log' with
            ⟨w'', hrest⟩ | ⟨b', w'', log'', hnext, hrest⟩
          · rw [hrest] at hb
            cases hb
          · have hfirst : b = b' := by
              rw [hrest] at hb
              split at hb
              all_goals exact (Option.some.inj hb).symm
            subst hfirst
            rw [hswept.target, hnext.target]
            exact hnext.bounded hindices hv
      next => exact List.isChain_singleton s

/-- Where the log knew none of the targets, a last good voltage is one of the run. -/
theorem run_found (prevGood prevTarget : Option Nat) {targets : List Nat} (w : W)
    {log : List F2Observation} (hdistinct : targets.Nodup)
    (hfresh : ∀ o ∈ log, o.targetMhz ∉ targets) :
    ∀ s ∈ (args.run prevGood prevTarget targets w log).sweeps, ∀ v,
      s.summary.lastGoodMv = some v → ∃ plan ∈ s.candidates, plan.anchor.voltageMv = v := by
  induction targets generalizing prevGood prevTarget w log with
  | nil => simp [LadderArgs.run]
  | cons target targets ih =>
    obtain ⟨hnew, hdistinct⟩ := List.nodup_cons.mp hdistinct
    rcases run_cons args prevGood prevTarget target targets w log with
      ⟨w', hrun⟩ | ⟨s, w', log', hswept, hrun⟩
    · rw [hrun]
      simp
    · have hlog : log' = (observations s.ctx target s.candidates s.report).foldl
          (append args.takes) log := by
        rw [hswept.log, LadderTarget.recorded, hswept.target]
      have hhead : ∀ v, s.summary.lastGoodMv = some v →
          ∃ plan ∈ s.candidates, plan.anchor.voltageMv = v := by
        intro v hv
        rw [hswept.lastGood, hlog] at hv
        exact lastGoodMv_mem
          (fun o ho heq => hfresh o ho (heq ▸ List.mem_cons_self ..)) hv
      have hrest : ∀ o ∈ log', o.targetMhz ∉ targets := by
        intro o ho
        rw [hlog] at ho
        rcases mem_foldl_append ho with hold | hrecorded
        · exact fun hmem => hfresh o hold (List.mem_cons_of_mem target hmem)
        · rw [(mem_observations hrecorded).1]
          exact hnew
      rw [hrun]
      split
      next =>
        exact List.forall_mem_cons.mpr ⟨hhead, ih s.summary.lastGoodMv (some target) w'
          hdistinct hrest⟩
      next => exact List.forall_mem_cons.mpr ⟨hhead, List.forall_mem_nil _⟩

end Ladder

/-- The bounds of a chain of targets compose over those that found a last good voltage. -/
theorem nested (le : Nat → Nat → Prop) (htrans : ∀ x y z, le x y → le y z → le x z)
    {rel : LadderTarget → LadderTarget → Prop}
    (hrel : ∀ a b, rel a b → Bounds a b → ∀ v, a.summary.lastGoodMv = some v →
      ∀ plan ∈ b.candidates, le v plan.anchor.voltageMv)
    {a b : LadderTarget} {mid after : List LadderTarget}
    (hchain : (a :: (mid ++ b :: after)).IsChain Bounds)
    (hordered : (a :: (mid ++ b :: after)).Pairwise rel)
    (hfound : ∀ s ∈ mid, ∃ v, s.summary.lastGoodMv = some v ∧
      ∃ plan ∈ s.candidates, plan.anchor.voltageMv = v) :
    ∀ v, a.summary.lastGoodMv = some v → ∀ plan ∈ b.candidates,
      le v plan.anchor.voltageMv := by
  induction mid generalizing a with
  | nil =>
    obtain ⟨hfirst, -⟩ := List.isChain_cons_cons.mp hchain
    exact hrel a b (List.rel_of_pairwise_cons hordered (List.mem_cons_self ..)) hfirst
  | cons m mid ih =>
    obtain ⟨hfirst, hchain⟩ := List.isChain_cons_cons.mp hchain
    obtain ⟨hmid, hfound⟩ := List.forall_mem_cons.mp hfound
    obtain ⟨u, hu, through, hthrough, rfl⟩ := hmid
    intro v hv plan hplan
    have hstep : le v through.anchor.voltageMv :=
      hrel a m (List.rel_of_pairwise_cons hordered (List.mem_cons_self ..)) hfirst v hv
        through hthrough
    exact htrans _ _ _ hstep
      (ih hchain hordered.of_cons hfound _ hu plan hplan)

/-- Over targets that the log did not know, a later target of a rising ladder never tries a voltage
below the last good one of an earlier target, and one of a falling ladder never tries a voltage
above it, as long as each target between them found one. -/
theorem ladder_nested {W : Type*} [F2World W] [BuildEnv] (args : LadderArgs) (targets : List Nat)
    (w : W) (log : List F2Observation) (hindices : (args.sane.map VfBin.index).Nodup)
    (hfresh : ∀ o ∈ log, o.targetMhz ∉ targets) :
    ∀ before a mid b after,
      (args.run none none targets w log).sweeps = before ++ a :: (mid ++ b :: after) →
      (∀ s ∈ mid, s.summary.lastGoodMv.isSome = true) →
      ∀ v, a.summary.lastGoodMv = some v → ∀ plan ∈ b.candidates,
        (targets.Pairwise (· < ·) → v ≤ plan.anchor.voltageMv) ∧
          (targets.Pairwise (· > ·) → plan.anchor.voltageMv ≤ v) := by
  intro before a mid b after hsweeps hfound v hv plan hplan
  have hchain := run_isChain args hindices none none targets w log
  have hprefix := run_targets args none none targets w log
  have hsuffix : a :: (mid ++ b :: after) <:+ (args.run none none targets w log).sweeps :=
    ⟨before, hsweeps.symm⟩
  have hordered : ∀ {rel : Nat → Nat → Prop}, targets.Pairwise rel →
      (a :: (mid ++ b :: after)).Pairwise fun a b => rel a.targetMhz b.targetMhz :=
    fun h => (List.pairwise_map.mp (h.sublist hprefix.sublist)).sublist hsuffix.sublist
  have htried : targets.Nodup → ∀ s ∈ mid, ∃ v, s.summary.lastGoodMv = some v ∧
      ∃ plan ∈ s.candidates, plan.anchor.voltageMv = v := by
    intro hdistinct s hs
    obtain ⟨u, hu⟩ := Option.isSome_iff_exists.mp (hfound s hs)
    refine ⟨u, hu, run_found args none none w hdistinct hfresh s ?_ u hu⟩
    exact hsuffix.subset (List.mem_cons_of_mem a (List.mem_append_left _ hs))
  constructor
  · intro hrising
    refine nested (· ≤ ·) (fun _ _ _ => Nat.le_trans) ?_ (hchain.suffix hsuffix) (hordered hrising)
      (htried (hrising.imp fun h => Nat.ne_of_lt h)) v hv plan hplan
    intro a b hlt hbound v hv plan hplan
    have := hbound v hv plan hplan
    rwa [if_neg (Nat.not_lt.mpr (Nat.le_of_lt hlt))] at this
  · intro hfalling
    refine nested (· ≥ ·) (fun _ _ _ hxy hyz => Nat.le_trans hyz hxy) ?_
      (hchain.suffix hsuffix) (hordered hfalling)
      (htried (hfalling.imp fun h => Nat.ne_of_gt h)) v hv plan hplan
    intro a b hlt hbound v hv plan hplan
    have := hbound v hv plan hplan
    rwa [if_pos hlt] at this

/-- A card that holds every write. -/
structure SteadyCard where

instance : F2World SteadyCard where
  readStores self := ({ record := {}, bootFlagArmed := false, events := [] }, self)
  stopRequested self := (false, self)
  armBootFlag _ self := (.ok (), self)
  applyPositiveOffset _ self := (.ok (), self)
  verify _ self := (.raiseVerified, self)
  dwell _ self := ((F2Ops.dwell ({} : Scripted)).1, self)
  resetToStock _ self := (.ok (), self)
  clearBootFlag self := (.ok (), self)
  blacklistPoint _ _ self := (.ok (), self)
  appendObservation _ self := (.ok (), self)

def fourBins : LadderArgs where
  sane := [(0, 850, 1710), (1, 900, 1725), (2, 950, 1740), (3, 1000, 1755)]
  limits := ⟨30, 15, 800, 1900⟩
  startMv := none
  runId := "f2-ladder"
  timestamp _ := ""
  gpuKey _ := none
  takes _ _ := true

theorem ladder_nested_fourBins :
    let _ : BuildEnv := ⟨"0.1.0", "unknown"⟩
    ∀ before a mid b after,
      (fourBins.run none none [1740, 1725] SteadyCard.mk []).sweeps =
        before ++ a :: (mid ++ b :: after) →
      (∀ s ∈ mid, s.summary.lastGoodMv.isSome = true) →
      ∀ v, a.summary.lastGoodMv = some v → ∀ plan ∈ b.candidates,
        (List.Pairwise (· < ·) [1740, 1725] → v ≤ plan.anchor.voltageMv) ∧
          (List.Pairwise (· > ·) [1740, 1725] → plan.anchor.voltageMv ≤ v) := by
  intro _
  exact ladder_nested fourBins [1740, 1725] SteadyCard.mk [] (by decide) (by simp)

end Nidavellir.LadderSweep

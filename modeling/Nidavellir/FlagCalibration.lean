import Nidavellir.FlagDescent
import Nidavellir.ForgeCalls

namespace Nidavellir

open FlagTrail

namespace F2PowerRules

variable {rules : F2PowerRules} {reports : List F2StepReport} {hard : F2StepReport}

theorem mark_terminalFailure {attempts : Nat} {report : F2StepReport}
    (consensus : Bool) : (rules.mark consensus attempts report).outcome.terminalFailure =
      report.outcome.terminalFailure := by
  unfold mark
  split
  next husable =>
    have hcase : report.outcome = .validated ∨ report.outcome = .clockDrop := by
      simp only [measurementUsable, measurementContentUsable, Bool.and_eq_true,
        Bool.or_eq_true, beq_iff_eq] at husable
      exact husable.1.1.1.1
    cases consensus with
    | true => rfl
    | false => rcases hcase with ho | ho <;> simp [ho, F2Outcome.terminalFailure]
  next => rfl

variable (rules) in
theorem measurementUsable_terminal {report : F2StepReport}
    (h : report.outcome.terminalFailure = true) : rules.measurementUsable report = false := by
  by_contra husable
  simp only [Bool.not_eq_false, measurementUsable, measurementContentUsable, Bool.and_eq_true,
    Bool.or_eq_true, beq_iff_eq] at husable
  rcases husable.1.1.1.1 with ho | ho <;> simp [ho, F2Outcome.terminalFailure] at h

/-- A hard failure among the attempts is what the analysis says of them. -/
theorem analyse_terminal (first : F2StepReport) (rechecked : Bool) (powerLimitW : Option Float32)
    (previous : Option F2PowerCapState)
    (h : reports.find? (fun report => report.outcome.terminalFailure) = some hard) :
    (rules.analyse first reports rechecked powerLimitW previous).aggregate.outcome =
      hard.outcome := by
  have hhard : hard.outcome.terminalFailure = true := by simpa using List.find?_some h
  have hany : (reports.any fun report => report.outcome.terminalFailure) = true :=
    List.any_eq_true.mpr ⟨hard, List.mem_of_find?_eq_some h, hhard⟩
  have hdissent : rules.consensus reports rechecked = false := by
    simp [consensus, hany]
  have hconfirm := rules.confirmAttempts_eq reports rechecked
  rw [hdissent] at hconfirm
  have hfind : (reports.map (rules.mark false reports.length)).find?
      (fun report => report.outcome.terminalFailure) = some hard := by
    rw [List.find?_map]
    simp only [Function.comp_def, mark_terminalFailure, h, Option.map_some]
    simp [mark, rules.measurementUsable_terminal hhard]
  simp [analyse, hconfirm, finalizeCapState, aggregateAttempts, hfind]

end F2PowerRules

theorem terminalFailure_of_retains {outcome : F2Outcome}
    (h : f2OutcomeRetainsBootFlag outcome = true) : outcome.terminalFailure = true := by
  have hcase : outcome = .deviceLost ∨ outcome = .resetFailed := by
    simpa [f2OutcomeRetainsBootFlag] using h
  rcases hcase with rfl | rfl <;> rfl

theorem retains_of_soft {outcome : F2Outcome} (h : outcome.terminalFailure = false) :
    f2OutcomeRetainsBootFlag outcome = false := by
  by_contra hretains
  rw [Bool.not_eq_false] at hretains
  rw [terminalFailure_of_retains hretains] at h
  cases h

theorem f2PowerBoundClockDrop_retained {outcome : F2Outcome}
    (h : f2OutcomeRetainsBootFlag outcome = true) (nearCap : Bool) :
    f2PowerBoundClockDrop outcome nearCap = outcome := by
  have hne : outcome ≠ .clockDrop := by
    rintro rfl
    cases h
  simp [f2PowerBoundClockDrop, hne]

/-- The attempts at a pair, where the first of them that failed hard may have left the flag. -/
def Attempted (t : FlagTrail) (attempts : List F2StepReport) : Prop :=
  t.LeavesKnown (∃ hard, attempts.find? (fun report => report.outcome.terminalFailure) =
    some hard ∧ f2OutcomeRetainsBootFlag hard.outcome = true)

theorem Attempted.append {t : FlagTrail} {attempts : List F2StepReport} {report : F2StepReport}
    (ht : t.Leaves (f2OutcomeRetainsBootFlag report.outcome))
    (hnone : ∀ report ∈ attempts, report.outcome.terminalFailure = false) :
    Attempted t (attempts ++ [report]) := by
  rcases ht with hsettled | ⟨hretains, hflag⟩
  · exact .inl hsettled
  · have hfind : attempts.find? (fun report => report.outcome.terminalFailure) = none :=
      List.find?_eq_none.mpr fun report hmem => by simp [hnone report hmem]
    refine .inr ⟨hflag, report, ?_, hretains⟩
    rw [List.find?_append, hfind, Option.none_or]
    exact List.find?_cons_of_pos (terminalFailure_of_retains hretains)

/-- A summary that says of the flag that it was left. -/
structure F2PowerCalibrationSummary.SaysLeft (self : F2PowerCalibrationSummary) : Prop where
  notConfirmed : self.confirmed = false
  aborted : self.aborted = true
  retainBootFlag : self.retainBootFlag = true

section Calls

variable {W : Type*} [F2World W] [BuildEnv] {w : Watched W}

/-- A repetition follows only attempts that did not fail hard. -/
theorem repeatCalibration_attempted {resolved : List F2StepReport → Bool}
    {ops : RealF2Ops (Watched W)} {attempts : List F2StepReport} (left : Nat)
    (h : ops.world.trail.Settled)
    (hnone : ∀ report ∈ attempts, report.outcome.terminalFailure = false) :
    Attempted (repeatCalibration resolved ops attempts left).2.world.trail
      (repeatCalibration resolved ops attempts left).1 := by
  induction left generalizing ops attempts with
  | zero => exact .inl h
  | succ left ih =>
    have hstop : (ops.through F2World.stopRequested).2.world.trail.Settled := by
      have hquiet := h.quiet (e := .stop (F2World.stopRequested ops.world).1) (by simp)
      rwa [← stopRequested_trail] at hquiet
    have hevents : (ofEvents (ops.through F2World.stopRequested).2.events).Settled := hstop
    have hstep := RealF2Ops.watchesFlag.runConfirmedF2Step hevents
    unfold repeatCalibration
    dsimp only
    split
    next => exact .inl hstop
    next =>
      split
      next => exact .append hstep hnone
      next hagain =>
        have hsoft : (runConfirmedF2Step
            (ops.through F2World.stopRequested).2).1.outcome.terminalFailure = false := by
          rw [Bool.or_eq_true, not_or, Bool.not_eq_true] at hagain
          exact hagain.1
        rw [retains_of_soft hsoft] at hstep
        refine ih hstep.settled ?_
        intro report hmem
        rcases List.mem_append.mp hmem with hmem | hmem
        · exact hnone report hmem
        · obtain rfl := List.mem_singleton.mp hmem
          exact hsoft

omit [BuildEnv] in
theorem F2PowerCalibrationCall.rechecks_soft (call : F2PowerCalibrationCall)
    (log : List F2Observation) {initial : F2StepReport} (h : call.rechecks log initial = true) :
    initial.outcome.terminalFailure = false := by
  by_contra hhard
  rw [Bool.not_eq_false] at hhard
  have hunusable := call.rules.measurementUsable_terminal hhard
  simp [rechecks, F2PowerRules.p99RequiresRecheck, hunusable] at h

theorem runConfirmedF2PowerCalibration_attempted {scope : LedgerScope}
    {plan : Except String AnchoredPositiveOffsetPlan} {limits : PositiveOffsetLimits}
    {targetMhz discoveryDwellMs : Nat} {referenceOffsetMhz : Int}
    {recheck : F2StepReport → Bool} {resolved : List F2StepReport → Bool}
    (hrecheck : ∀ report, recheck report = true → report.outcome.terminalFailure = false)
    (h : w.trail.Settled) {result : Except String (List F2StepReport)} {w' : Watched W}
    (hrun : runConfirmedF2PowerCalibration scope plan limits targetMhz referenceOffsetMhz
      discoveryDwellMs recheck resolved w = (result, w')) :
    Attempted w'.trail (result.toOption.getD []) := by
  have hstop : (F2World.stopRequested w).2.trail.Settled := by
    rw [stopRequested_trail]
    exact h.quiet (by simp)
  unfold runConfirmedF2PowerCalibration at hrun
  dsimp only at hrun
  split at hrun
  next =>
    cases hrun
    exact .inl hstop
  next =>
    split at hrun
    next =>
      cases hrun
      exact .inl hstop
    next candidate =>
      split at hrun
      next =>
        cases hrun
        exact .inl hstop
      next =>
        let ops : RealF2Ops (Watched W) := ⟨(F2World.readStores (F2World.stopRequested w).2).2,
          ⟨candidate.anchor, some candidate, .anchored, limits, targetMhz, referenceOffsetMhz,
            discoveryDwellMs, .powerDiscovery⟩⟩
        have hops : (ofEvents ops.events).Settled := hstop
        have hstep := RealF2Ops.watchesFlag.runConfirmedF2Step hops
        split at hrun
        next hagain =>
          have hsoft := hrecheck _ hagain
          rw [retains_of_soft hsoft] at hstep
          cases hrun
          exact repeatCalibration_attempted _ hstep.settled (by simpa using hsoft)
        next =>
          cases hrun
          change Attempted _ ([] ++ [_])
          exact .append hstep (by simp)

/-- A calibration says of the flag that it was left, whatever is appended. -/
theorem F2PowerCalibrationCall.conclude_leaves {call : F2PowerCalibrationCall}
    {log : List F2Observation} {attempts : List F2StepReport}
    (h : Attempted w.trail attempts) :
    (call.conclude log attempts w).2.trail.LeavesKnown
      (call.conclude log attempts w).1.SaysLeft := by
  rcases h with hsettled | ⟨⟨lost, hholds⟩, hard, hfind, hretains⟩
  · have happended := appendReports_settled (call.verdict log attempts).attempts hsettled
    unfold conclude
    dsimp only
    split
    next heq =>
      rw [heq] at happended
      exact .inl happended
    next w' heq =>
      rw [heq] at happended
      split
      next => exact .inl happended
      next =>
        refine .inl ?_
        rw [stopRequested_trail]
        exact happended.quiet (by simp)
  · obtain ⟨hkept, -⟩ := appendReports_holds (call.verdict log attempts).attempts hholds
    have houtcome : f2PowerBoundClockDrop (call.verdict log attempts).aggregate.outcome
        (call.verdict log attempts).nearCap = hard.outcome := by
      have hterminal : (call.verdict log attempts).aggregate.outcome = hard.outcome :=
        F2PowerRules.analyse_terminal _ _ _ _ hfind
      rw [hterminal]
      exact f2PowerBoundClockDrop_retained hretains _
    have hcase : hard.outcome = .deviceLost ∨ hard.outcome = .resetFailed := by
      simpa [f2OutcomeRetainsBootFlag] using hretains
    have hunconfirmed : calibrationConfirmed (call.verdict log attempts) hard.outcome = false := by
      rcases hcase with ho | ho <;> simp [calibrationConfirmed, ho]
    have haborted : calibrationAborted hard.outcome = true := by
      rcases hcase with ho | ho <;> simp [calibrationAborted, ho]
    unfold conclude
    simp only [houtcome, hunconfirmed, haborted, hretains]
    split
    next heq =>
      rw [heq] at hkept
      exact .inr ⟨⟨lost, hkept⟩, rfl, rfl, rfl⟩
    next w' heq =>
      rw [heq] at hkept
      refine .inr ⟨⟨lost, ?_⟩, rfl, rfl, rfl⟩
      have hstopped := hkept.stop (F2World.stopRequested w').1
      rw [← stopRequested_trail] at hstopped
      exact hstopped

theorem F2PowerCalibrationCall.run_leaves (call : F2PowerCalibrationCall)
    (log : List F2Observation) (h : w.trail.Settled) :
    (call.run log w).2.trail.LeavesKnown (call.run log w).1.SaysLeft := by
  rcases hrun : runConfirmedF2PowerCalibration call.scope call.plan call.limits call.targetMhz
    call.referenceOffsetMhz call.discoveryDwellMs (call.rechecks log)
    (fun attempts => call.rules.recheckResolved attempts call.powerLimitW none) w with
    ⟨reason | attempts, w'⟩
  · have hattempted := runConfirmedF2PowerCalibration_attempted
      (fun _ => call.rechecks_soft log) h hrun
    rw [run, hrun]
    rcases hattempted with hsettled | ⟨-, hard, hfind, -⟩
    · exact .inl hsettled
    · cases hfind
  · have hattempted := runConfirmedF2PowerCalibration_attempted
      (fun _ => call.rechecks_soft log) h hrun
    rw [run, hrun]
    exact conclude_leaves hattempted

end Calls

end Nidavellir

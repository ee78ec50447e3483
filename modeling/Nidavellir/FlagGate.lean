import Nidavellir.FlagDescent
import Nidavellir.ForgeCalls

namespace Nidavellir

open FlagTrail F2MultiStepOps

/-- The exact pair was refused, not lost: its clock may still climb. -/
def F2ApplyQualificationSummary.blacklistRefused (self : F2ApplyQualificationSummary) : Bool :=
  self.aborted && Text.contains self.stopReason.toList "blacklisted".toList

/-- The gate aborts and says that it left the flag. -/
def F2QualificationOutcome.SaysLeft (outcome : F2QualificationOutcome) : Prop :=
  ∃ reason, outcome = .aborted reason true ∧
    Text.contains reason.toList "blacklisted".toList = false

/-- What a gate misses: an observation that was not appended, or the stop that it saw first. -/
def FlagTrail.Missed (t : FlagTrail) : Prop := t.Unrecorded ∨ t.Stopped

/-- An unclean step of a gate ends it so. -/
theorem saysLeft_of_retains {outcome : F2Outcome} {label : String}
    (hlabel : label = "V8Aborted: " ∨ label = "EnduranceAborted: ")
    (h : f2OutcomeRetainsBootFlag outcome = true) :
    (F2QualificationOutcome.aborted s!"{label}{outcome.debug}"
      (f2OutcomeRetainsBootFlag outcome)).SaysLeft := by
  refine ⟨_, by rw [h], ?_⟩
  have hcase : outcome = .deviceLost ∨ outcome = .resetFailed := by
    simpa [f2OutcomeRetainsBootFlag] using h
  rcases hlabel with rfl | rfl <;> rcases hcase with rfl | rfl <;> decide

theorem F2Gate.afterPass_retains (gate : F2Gate) (pattern : F2QualificationPattern)
    {report : F2StepReport} (inconclusiveRetries cleanPasses : Nat)
    (h : f2OutcomeRetainsBootFlag report.outcome = true) :
    ∃ outcome, gate.afterPass pattern report inconclusiveRetries cleanPasses = .stop outcome ∧
      outcome.SaysLeft := by
  have htold := saysLeft_of_retains (.inl rfl) h
  have hcase : report.outcome = .deviceLost ∨ report.outcome = .resetFailed := by
    simpa [f2OutcomeRetainsBootFlag] using h
  refine ⟨_, ?_, htold⟩
  rcases hcase with ho | ho <;> simp [afterPass, ho]

/-- What a part of a gate leaves: a flag is left only where it ends the gate. -/
def EndsKnown (t : FlagTrail) (ended : Option F2QualificationOutcome) : Prop :=
  t.LeavesKnown (∃ outcome, ended = some outcome ∧ outcome ≠ .qualified ∧
    (outcome.SaysLeft ∨ t.Missed))

theorem F2QualificationOutcome.SaysLeft.ends {outcome : F2QualificationOutcome} {t : FlagTrail}
    (h : outcome.SaysLeft) (hflag : ∃ lost, t.Holds lost) : EndsKnown t (some outcome) := by
  refine .inr ⟨hflag, outcome, rfl, ?_, .inl h⟩
  rintro rfl
  obtain ⟨reason, hreason, -⟩ := h
  cases hreason

theorem endsKnown_of_unrecorded {outcome : F2QualificationOutcome} {t : FlagTrail}
    (h : outcome ≠ .qualified ∧ t.LeavesKnown t.Unrecorded) : EndsKnown t (some outcome) :=
  h.2.imp_right (And.imp_right fun hmissed => ⟨outcome, rfl, h.1, .inr (.inl hmissed)⟩)

section Gate

variable {W : Type*} [F2World W] [BuildEnv] {gate : F2Gate} {w : Watched W}

/-- A pass that is recorded reports the flag that it leaves. -/
theorem F2Gate.pass_leaves (h : w.trail.Settled) (label : String) (dwellMs : Nat)
    (purpose : F2StressPurpose) :
    (∀ outcome, (gate.pass label w dwellMs purpose).1 = .error outcome →
      outcome ≠ .qualified ∧ (gate.pass label w dwellMs purpose).2.trail.LeavesKnown
        (gate.pass label w dwellMs purpose).2.trail.Unrecorded) ∧
      ∀ report, (gate.pass label w dwellMs purpose).1 = .ok report →
        (gate.pass label w dwellMs purpose).2.trail.Leaves
          (f2OutcomeRetainsBootFlag report.outcome) := by
  unfold pass
  have hops := select_settled 0 (gate.ops w dwellMs purpose) h
  rcases hselect : select 0 (gate.ops w dwellMs purpose) with ⟨e | ⟨⟩, ops⟩
  · rw [hselect] at hops
    refine ⟨?_, by simp⟩
    rintro _ ⟨rfl⟩
    exact ⟨by simp, .inl hops⟩
  rw [hselect] at hops
  have hstep := RealF2MultiOps.watchesFlag.runConfirmedF2Step hops
  rcases hrun : runConfirmedF2Step ops with ⟨report, ops'⟩
  rw [hrun] at hstep
  have htrail := appendObservation_trail report ops'.world
  simp only [hrun]
  rcases happend : F2World.appendObservation report ops'.world with ⟨e | ⟨⟩, w'⟩
  · rw [happend] at htrail
    refine ⟨?_, by simp⟩
    rintro _ ⟨rfl⟩
    refine ⟨by simp, ?_⟩
    rw [htrail]
    rcases hstep with hsettled | ⟨-, lost, hholds⟩
    · exact .inl (hsettled.quiet (by simp))
    · exact .inr ⟨⟨lost, hholds.append false⟩, hholds.unrecorded⟩
  · rw [happend] at htrail
    refine ⟨by simp, ?_⟩
    rintro _ ⟨rfl⟩
    rw [htrail]
    rcases hstep with hsettled | ⟨hretains, lost, hholds⟩
    · exact .inl (hsettled.quiet (by simp))
    · exact .inr ⟨hretains, lost, hholds.append true⟩

theorem F2Gate.runPattern_leaves (h : w.trail.Settled) (pattern : F2QualificationPattern)
    (goldens : RenderGoldens) (inconclusiveRetries cleanPasses : Nat) :
    EndsKnown (gate.runPattern pattern goldens inconclusiveRetries cleanPasses w).2.trail
        (gate.runPattern pattern goldens inconclusiveRetries cleanPasses w).1 ∧
      ((gate.runPattern pattern goldens inconclusiveRetries cleanPasses w).1 = none →
        (gate.runPattern pattern goldens inconclusiveRetries cleanPasses w).2.trail.Settled) := by
  induction hleft : F2Gate.passesLeft inconclusiveRetries cleanPasses
    using Nat.strong_induction_on generalizing inconclusiveRetries cleanPasses w with
  | h n ih =>
    have hstop : (F2World.stopRequested w).2.trail.Settled := by
      rw [stopRequested_trail]
      exact h.quiet (by simp)
    obtain ⟨hrefused, hpassed⟩ := gate.pass_leaves hstop "V8" gate.finalGateDwellMs
      (gate.purpose pattern goldens)
    unfold F2Gate.runPattern
    split
    next => exact ⟨.inl hstop, fun _ => hstop⟩
    next =>
      split
      next outcome w' heq =>
        rw [heq] at hrefused
        exact ⟨endsKnown_of_unrecorded (hrefused outcome rfl), by simp⟩
      next report w' heq =>
        rw [heq] at hpassed
        rcases hpassed report rfl with hsettled | ⟨hretains, hflag⟩
        · split
          next => exact ⟨.inl hsettled, fun _ => hsettled⟩
          next hagain =>
            have hlt := gate.passesLeft_lt hagain
            exact ih _ (hleft ▸ hlt) hsettled _ _ rfl
          next => exact ⟨.inl hsettled, by simp⟩
        · obtain ⟨outcome, hafter, htold⟩ := gate.afterPass_retains pattern inconclusiveRetries
            cleanPasses hretains
          split
          next hstep => cases hafter.symm.trans hstep
          next hstep => cases hafter.symm.trans hstep
          next outcome' hstep =>
            obtain rfl := PatternStep.stop.inj (hafter.symm.trans hstep)
            exact ⟨htold.ends hflag, by simp⟩

theorem F2Gate.runPatterns_leaves (h : w.trail.Settled) (goldens : RenderGoldens)
    (patterns : List F2QualificationPattern) :
    EndsKnown (gate.runPatterns goldens patterns w).2.trail
        (gate.runPatterns goldens patterns w).1 ∧
      ((gate.runPatterns goldens patterns w).1 = none →
        (gate.runPatterns goldens patterns w).2.trail.Settled) := by
  induction patterns generalizing w with
  | nil => exact ⟨.inl h, fun _ => h⟩
  | cons pattern patterns ih =>
    obtain ⟨hends, hsettled⟩ := gate.runPattern_leaves h pattern goldens 0 0
    unfold F2Gate.runPatterns
    split
    next heq =>
      rw [heq] at hends
      exact ⟨hends, by simp⟩
    next heq =>
      rw [heq] at hsettled
      exact ih (hsettled rfl)

/-- A stop that is seen right after the soak hides what the soak left. -/
theorem F2Gate.runEndurance_leaves (h : w.trail.Settled) (goldens : RenderGoldens) :
    EndsKnown (gate.runEndurance goldens w).2.trail (some (gate.runEndurance goldens w).1) := by
  have hstop : (F2World.stopRequested w).2.trail.Settled := by
    rw [stopRequested_trail]
    exact h.quiet (by simp)
  obtain ⟨hrefused, hpassed⟩ := gate.pass_leaves hstop "Endurance"
    gate.exactApplyEnduranceDwellMs (.applyQualification .endurance goldens)
  unfold F2Gate.runEndurance
  dsimp only
  split
  next => exact .inl hstop
  next =>
    split
    next outcome w' heq =>
      rw [heq] at hrefused
      exact endsKnown_of_unrecorded (hrefused outcome rfl)
    next report w' heq =>
      rw [heq] at hpassed
      rcases hpassed report rfl with hsettled | ⟨hretains, lost, hholds⟩
      · have hasked : (F2World.stopRequested w').2.trail.Settled := by
          rw [stopRequested_trail]
          exact hsettled.quiet (by simp)
        split
        next => exact .inl hasked
        next => split <;> exact .inl hasked
      · have hasked : (F2World.stopRequested w').2.trail.Holds lost := by
          rw [stopRequested_trail]
          exact hholds.stop _
        split
        next hrequested =>
          refine .inr ⟨⟨lost, hasked⟩, _, rfl, by simp, .inr (.inr ?_)⟩
          rw [stopRequested_trail, hrequested]
          exact hholds.stopped
        next =>
          have htold := saysLeft_of_retains (.inr rfl) hretains
          have hcase : report.outcome = .deviceLost ∨ report.outcome = .resetFailed := by
            simpa [f2OutcomeRetainsBootFlag] using hretains
          rcases hcase with ho | ho
          · simp only [ho] at htold ⊢
            exact htold.ends ⟨lost, hasked⟩
          · simp only [ho] at htold ⊢
            exact htold.ends ⟨lost, hasked⟩

theorem F2Gate.run_leaves (h : w.trail.Settled) :
    EndsKnown (gate.run w).2.trail (some (gate.run w).1) := by
  unfold F2Gate.run
  split
  next => exact .inl h
  next goldens _ =>
    obtain ⟨hends, hsettled⟩ := gate.runPatterns_leaves h goldens
      (requiredQualificationPatterns.take gate.finalGatePasses)
    split
    next heq =>
      rw [heq] at hends
      exact hends
    next heq =>
      rw [heq] at hsettled
      split
      next => exact gate.runEndurance_leaves (hsettled rfl) goldens
      next => exact .inl (hsettled rfl)

end Gate

/-- The summary of a gate that left the flag: its caller stops there and keeps the flag. -/
structure F2ApplyQualificationSummary.SaysLeft (self : F2ApplyQualificationSummary) : Prop where
  aborted : self.aborted = true
  notRefused : self.blacklistRefused = false
  retainBootFlag : self.retainBootFlag = true

theorem F2QualificationOutcome.SaysLeft.summary {outcome : F2QualificationOutcome}
    (h : outcome.SaysLeft) (printed : Float32 → String) :
    (outcome.applySummary printed).SaysLeft := by
  obtain ⟨reason, rfl, hreason⟩ := h
  exact ⟨rfl, hreason, rfl⟩

theorem applySummary_qualified {outcome : F2QualificationOutcome} (h : outcome ≠ .qualified)
    (printed : Float32 → String) : (outcome.applySummary printed).qualified = false := by
  cases outcome with
  | qualified => exact absurd rfl h
  | _ => rfl

/-- A gate did not pass and left the flag: it says so, or it missed something. -/
def F2ApplyQualificationSummary.Known (self : F2ApplyQualificationSummary) (t : FlagTrail) :
    Prop := self.qualified = false ∧ (self.SaysLeft ∨ t.Missed)

section Calls

variable {W : Type*} [F2World W] [BuildEnv] {w : Watched W}

theorem F2ApplyQualificationCall.run_leaves (call : F2ApplyQualificationCall)
    (h : w.trail.Settled) :
    (call.run w).2.trail.LeavesKnown ((call.run w).1.Known (call.run w).2.trail) := by
  have hstop : (F2World.stopRequested w).2.trail.Settled := by
    rw [stopRequested_trail]
    exact h.quiet (by simp)
  unfold run runConfirmedF2ApplyQualification
  dsimp only
  split
  next => exact .inl hstop
  next =>
    split
    next => exact .inl hstop
    next candidate _ =>
      split
      next => exact .inl hstop
      next =>
        let gate : F2Gate := ⟨candidate, call.limits, call.targetMhz, call.qualificationDwellMs,
          requiredQualificationPatterns.length, call.enduranceDwellMs, call.renderGoldens, true,
          call.powerAboveCeiling⟩
        have hgate := gate.run_leaves (w := (F2World.readStores (F2World.stopRequested w).2).2)
          hstop
        refine hgate.imp_right (And.imp_right ?_)
        rintro ⟨outcome, ⟨rfl⟩, hended, hknown⟩
        exact ⟨applySummary_qualified hended call.printed,
          hknown.imp_left fun htold => htold.summary call.printed⟩

end Calls

end Nidavellir

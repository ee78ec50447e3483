import Nidavellir.ConfirmedPaths
import Nidavellir.F2Kept
import Nidavellir.Lib.Trace

namespace Nidavellir

open F2Ops F2MultiStepOps Trace

/-- One attempt of a gate: what the armed candidate was to be stressed with, and its outcome. -/
structure GateAttempt where
  purpose : Option F2StressPurpose
  outcome : F2Outcome
deriving DecidableEq

/-- The world with a record of the attempts. -/
structure Tracked (W : Type*) where
  ops : W
  armed : Option F2StressPurpose := none
  attempts : List GateAttempt := []

namespace Tracked

variable {W R : Type*}

def quiet (self : Tracked W) (op : W → R × W) : R × Tracked W :=
  let (result, ops) := op self.ops
  (result, { self with ops })

/-- A step arms its candidate first and its report is appended last. -/
instance [F2World W] : F2World (Tracked W) where
  readStores self := self.quiet F2World.readStores
  stopRequested self := self.quiet F2World.stopRequested
  armBootFlag target self :=
    quiet { self with armed := target.map F2Target.stressPurpose } (F2World.armBootFlag target)
  applyPositiveOffset target self := self.quiet (F2World.applyPositiveOffset target)
  verify target self := self.quiet (F2World.verify target)
  dwell target self := self.quiet (F2World.dwell target)
  resetToStock target self := self.quiet (F2World.resetToStock target)
  clearBootFlag self := self.quiet F2World.clearBootFlag
  blacklistPoint target countsAsCrash self :=
    self.quiet (F2World.blacklistPoint target countsAsCrash)
  appendObservation report self :=
    quiet { self with attempts := self.attempts ++ [⟨self.armed, report.outcome⟩] }
      (F2World.appendObservation report)

end Tracked

/-- An executor enters a step through its arm only. -/
theorem runConfirmedF2Step_congr {O : Type*} [F2Ops O] [BuildEnv] {ops ops' : O}
    (h : armBootFlag ops = armBootFlag ops') :
    runConfirmedF2Step ops = runConfirmedF2Step ops' := by
  unfold runConfirmedF2Step
  rw [h]

section Step

variable {W : Type*} [F2World W] [BuildEnv]

/-- What a step of a selected candidate leaves on record. -/
def AttemptsOnRecord (attempts : List GateAttempt) (cur : Option F2Target)
    (ops : RealF2MultiOps (Tracked W)) : Prop :=
  ops.world.attempts = attempts ∧ ops.cur = cur ∧
    ops.world.armed = cur.map F2Target.stressPurpose

omit [BuildEnv] in
theorem onRecord_kept (attempts : List GateAttempt) (cur : Option F2Target) :
    F2Kept (AttemptsOnRecord attempts cur : RealF2MultiOps (Tracked W) → Prop) where
  armBootFlag h := ⟨h.1, h.2.1, congrArg (Option.map F2Target.stressPurpose) h.2.1⟩
  applyPositiveOffset h := h
  verify h := h
  dwell h := h
  resetToStock h := h
  clearBootFlag h := h
  blacklistPoint _ _ h := h

theorem runConfirmedF2Step_onRecord (ops : RealF2MultiOps (Tracked W)) :
    AttemptsOnRecord ops.world.attempts ops.cur (runConfirmedF2Step ops).2 := by
  let armed := { ops with
    world := { ops.world with armed := ops.cur.map F2Target.stressPurpose } }
  have henter : runConfirmedF2Step ops = runConfirmedF2Step armed := runConfirmedF2Step_congr rfl
  rw [henter]
  exact (onRecord_kept ops.world.attempts ops.cur).runConfirmedF2Step ⟨rfl, rfl, rfl⟩

omit [BuildEnv] in
theorem select_onRecord (i : Nat) (ops : RealF2MultiOps (Tracked W)) :
    (select i ops).2.world.attempts = ops.world.attempts ∧
      ((select i ops).1 = .ok () →
        (select i ops).2.cur.map F2Target.stressPurpose = some ops.stressPurpose) := by
  change (RealF2MultiOps.select i ops).2.world.attempts = _ ∧
    ((RealF2MultiOps.select i ops).1 = .ok () →
      (RealF2MultiOps.select i ops).2.cur.map F2Target.stressPurpose = some ops.stressPurpose)
  unfold RealF2MultiOps.select
  split
  next => exact ⟨rfl, by simp⟩
  next =>
    dsimp only
    split
    next => exact ⟨rfl, by simp⟩
    next =>
      split
      next => exact ⟨rfl, by simp⟩
      next =>
        split
        next => exact ⟨rfl, by simp⟩
        next => exact ⟨rfl, fun _ => rfl⟩

end Step

section Pass

variable {W : Type*} [F2World W] [BuildEnv]

/-- What one pass puts on record. -/
inductive PassRecord (purpose : F2StressPurpose) :
    List GateAttempt → Except F2QualificationOutcome F2StepReport → Prop
  | refused {ended : F2QualificationOutcome} (hended : ended ≠ .qualified) :
    PassRecord purpose [] (.error ended)
  | unsaved {ended : F2QualificationOutcome} (hended : ended ≠ .qualified) (outcome : F2Outcome) :
    PassRecord purpose [⟨some purpose, outcome⟩] (.error ended)
  | saved (report : F2StepReport) :
    PassRecord purpose [⟨some purpose, report.outcome⟩] (.ok report)

theorem F2Gate.pass_record (gate : F2Gate) (label : String) (w : Tracked W) (dwellMs : Nat)
    (purpose : F2StressPurpose) :
    ∃ made, (gate.pass label w dwellMs purpose).2.attempts = w.attempts ++ made ∧
      PassRecord purpose made (gate.pass label w dwellMs purpose).1 := by
  obtain ⟨hkept, hselected⟩ := select_onRecord 0 (gate.ops w dwellMs purpose)
  unfold pass
  rcases hselect : select 0 (gate.ops w dwellMs purpose) with ⟨e | ⟨⟩, ops⟩
  · rw [hselect] at hkept
    exact ⟨[], hkept.trans (List.append_nil _).symm, .refused (by simp)⟩
  rw [hselect] at hkept hselected
  obtain ⟨hattempts, -, harmed⟩ := runConfirmedF2Step_onRecord ops
  rcases hrun : runConfirmedF2Step ops with ⟨report, ops'⟩
  rw [hrun] at hattempts harmed
  have hpurpose : ops'.world.armed = some purpose := harmed.trans (hselected rfl)
  have hbefore : ops'.world.attempts = w.attempts := hattempts.trans hkept
  have happended : (F2World.appendObservation report ops'.world).2.attempts =
      w.attempts ++ [⟨some purpose, report.outcome⟩] := by
    rw [← hpurpose, ← hbefore]
    rfl
  simp only [hrun]
  rcases happend : F2World.appendObservation report ops'.world with ⟨e | ⟨⟩, w'⟩
  · rw [happend] at happended
    exact ⟨_, happended, .unsaved (by simp) _⟩
  · rw [happend] at happended
    exact ⟨_, happended, .saved report⟩

end Pass

/-- An outcome that pays or defers; any other ends the gate. -/
def F2Outcome.Tolerated (outcome : F2Outcome) : Prop :=
  outcome = .validated ∨ outcome = .inconclusive

/-- What the attempts of one pattern must come to. -/
structure DebtPaid (outcomes : List F2Outcome) : Prop where
  tolerated : ∀ outcome ∈ outcomes, outcome.Tolerated
  validated : [.validated] <:+ outcomes
  debt : F2Outcome.inconclusive ∈ outcomes → [.validated, .validated] <:+ outcomes

/-- The attempts of one pattern so far, as its two counters remember them. -/
structure Owing (outcomes : List F2Outcome) (inconclusiveRetries cleanPasses : Nat) : Prop where
  tolerated : ∀ outcome ∈ outcomes, outcome.Tolerated
  remembered : F2Outcome.inconclusive ∈ outcomes → 0 < inconclusiveRetries
  clean : List.replicate cleanPasses .validated <:+ outcomes

section Debt

variable {outcomes : List F2Outcome} {inconclusiveRetries cleanPasses : Nat}

theorem owing_nil : Owing [] 0 0 := ⟨by simp, by simp, List.nil_suffix⟩

theorem suffix_concat {α : Type*} {s t : List α} (h : s <:+ t) (x : α) :
    s ++ [x] <:+ t ++ [x] := by
  obtain ⟨before, rfl⟩ := h
  exact ⟨before, by simp⟩

theorem Owing.tolerated_concat (h : Owing outcomes inconclusiveRetries cleanPasses)
    {outcome : F2Outcome} (ho : outcome.Tolerated) :
    ∀ o ∈ outcomes ++ [outcome], o.Tolerated := by
  intro o hmem
  rcases List.mem_append.mp hmem with hmem | hmem
  · exact h.tolerated o hmem
  · obtain rfl := List.mem_singleton.mp hmem
    exact ho

theorem Owing.validated (h : Owing outcomes inconclusiveRetries cleanPasses) :
    Owing (outcomes ++ [.validated]) inconclusiveRetries (cleanPasses + 1) where
  tolerated := h.tolerated_concat (.inl rfl)
  remembered hmem := h.remembered (by simpa using hmem)
  clean := by
    rw [List.replicate_succ']
    exact suffix_concat h.clean _

theorem Owing.inconclusive (h : Owing outcomes inconclusiveRetries cleanPasses) :
    Owing (outcomes ++ [.inconclusive]) (inconclusiveRetries + 1) 0 where
  tolerated := h.tolerated_concat (.inr rfl)
  remembered _ := Nat.succ_pos _
  clean := List.nil_suffix

/-- A pattern completes without a debt, or on the second clean pass in a row. -/
theorem Owing.paid (h : Owing outcomes inconclusiveRetries cleanPasses)
    (hpaid : inconclusiveRetries = 0 ∨ 1 ≤ cleanPasses) :
    DebtPaid (outcomes ++ [.validated]) where
  tolerated := h.tolerated_concat (.inl rfl)
  validated := List.suffix_append _ _
  debt hmem := by
    have hdebt := h.remembered (by simpa using hmem)
    obtain ⟨clean, rfl⟩ : ∃ clean, cleanPasses = clean + 1 := ⟨cleanPasses - 1, by omega⟩
    have hlast : [.validated] <:+ outcomes := by
      have hclean := h.clean
      rw [List.replicate_succ'] at hclean
      exact (List.suffix_append _ _).trans hclean
    exact suffix_concat hlast _

end Debt

/-- What follows a pass. -/
inductive F2Gate.After (gate : F2Gate) (inconclusiveRetries cleanPasses : Nat) :
    F2Outcome → F2Gate.PatternStep → Prop
  | complete
    (hpaid : gate.exactApply = true → inconclusiveRetries = 0 ∨ 1 ≤ cleanPasses) :
    After gate inconclusiveRetries cleanPasses .validated .complete
  | owed : After gate inconclusiveRetries cleanPasses .validated
      (.again inconclusiveRetries (cleanPasses + 1))
  | deferred : After gate inconclusiveRetries cleanPasses .inconclusive
      (.again (inconclusiveRetries + 1) 0)
  | stop (outcome : F2Outcome) {ended : F2QualificationOutcome} (hended : ended ≠ .qualified) :
    After gate inconclusiveRetries cleanPasses outcome (.stop ended)

theorem F2Gate.afterPass_after (gate : F2Gate) (pattern : F2QualificationPattern)
    (report : F2StepReport) (inconclusiveRetries cleanPasses : Nat) :
    gate.After inconclusiveRetries cleanPasses report.outcome
      (gate.afterPass pattern report inconclusiveRetries cleanPasses) := by
  unfold afterPass
  split
  next => exact .stop _ (by simp)
  next =>
    split
    next ho =>
      rw [ho]
      split
      next => exact .owed
      next hnot =>
        refine .complete fun hexact => ?_
        simp [hexact, applyQualificationPatternComplete] at hnot
        omega
    next => exact .stop _ (by simp)
    next => exact .stop _ (by simp)
    next => exact .stop _ (by simp)
    next => exact .stop _ (by simp)
    next => exact .stop _ (by simp)
    next ho =>
      rw [ho]
      split
      next => exact .deferred
      next => exact .stop _ (by simp)
    next => exact .stop _ (by simp)

/-- An attempt that neither pays nor defers is the last, and the gate has `failed`. -/
def EndsOnFailure (attempts : List GateAttempt) (failed : Prop) : Prop :=
  Every (fun _ attempt after => ¬ attempt.outcome.Tolerated → after = [] ∧ failed) attempts

section Ends

variable {attempts later : List GateAttempt} {failed failed' : Prop}

theorem endsOnFailure_nil : EndsOnFailure [] failed := every_nil

theorem EndsOnFailure.cons {attempt : GateAttempt} (hattempt : attempt.outcome.Tolerated)
    (h : EndsOnFailure later failed) : EndsOnFailure (attempt :: later) failed :=
  every_cons.mpr ⟨fun hne => absurd hattempt hne, h⟩

theorem endsOnFailure_singleton {attempt : GateAttempt}
    (h : ¬ attempt.outcome.Tolerated → failed) : EndsOnFailure [attempt] failed :=
  every_cons.mpr ⟨fun hne => ⟨rfl, h hne⟩, every_nil⟩

/-- A gate goes on only after attempts that all paid or deferred. -/
theorem EndsOnFailure.append (h : ∀ attempt ∈ attempts, attempt.outcome.Tolerated)
    (hlater : EndsOnFailure later failed) : EndsOnFailure (attempts ++ later) failed := by
  induction attempts with
  | nil => exact hlater
  | cons attempt attempts ih =>
    have hrest := ih fun a ha => h a (List.mem_cons_of_mem _ ha)
    exact hrest.cons (h attempt List.mem_cons_self)

theorem EndsOnFailure.tolerated (h : EndsOnFailure attempts False) :
    ∀ attempt ∈ attempts, attempt.outcome.Tolerated := by
  intro attempt hmem
  obtain ⟨before, after, rfl⟩ := List.append_of_mem hmem
  by_contra hne
  exact (h before attempt after rfl hne).2

theorem EndsOnFailure.imp (h : EndsOnFailure attempts failed) (himp : failed → failed') :
    EndsOnFailure attempts failed' :=
  fun before attempt after heq hne => (h before attempt after heq hne).imp_right himp

end Ends

/-- The outcomes of the attempts with one purpose, in their order. -/
def outcomesOf (purpose : F2StressPurpose) (attempts : List GateAttempt) : List F2Outcome :=
  (attempts.filter fun attempt => attempt.purpose = some purpose).map (·.outcome)

section Outcomes

variable {purpose : F2StressPurpose} {attempts : List GateAttempt}

theorem outcomesOf_append (attempts later : List GateAttempt) :
    outcomesOf purpose (attempts ++ later) =
      outcomesOf purpose attempts ++ outcomesOf purpose later := by
  unfold outcomesOf
  rw [List.filter_append, List.map_append]

theorem outcomesOf_own (h : ∀ attempt ∈ attempts, attempt.purpose = some purpose) :
    outcomesOf purpose attempts = attempts.map (·.outcome) := by
  unfold outcomesOf
  rw [List.filter_eq_self.mpr fun attempt hmem => decide_eq_true (h attempt hmem)]

theorem outcomesOf_other (h : ∀ attempt ∈ attempts, attempt.purpose ≠ some purpose) :
    outcomesOf purpose attempts = [] := by
  unfold outcomesOf
  rw [List.filter_eq_nil_iff.mpr fun attempt hmem => by simpa using h attempt hmem, List.map_nil]

end Outcomes

theorem F2Gate.purpose_inj {gate : F2Gate} {goldens : RenderGoldens}
    {pattern other : F2QualificationPattern}
    (h : gate.purpose pattern goldens = gate.purpose other goldens) : pattern = other := by
  unfold purpose at h
  split at h
  next => exact (F2StressPurpose.applyQualification.inj h).1
  next => exact (F2StressPurpose.v8Qualification.inj h).1

theorem endurance_notMem_requiredQualificationPatterns :
    F2QualificationPattern.endurance ∉ requiredQualificationPatterns := by decide

theorem requiredQualificationPatterns_nodup : requiredQualificationPatterns.Nodup := by decide

/-- The passes that one pattern has made. -/
structure PatternRecord (purpose : F2StressPurpose) (exactApply : Bool)
    (earlier : List F2Outcome) (attempts : List GateAttempt)
    (ended : Option F2QualificationOutcome) (left : Nat) : Prop where
  purposes : ∀ attempt ∈ attempts, attempt.purpose = some purpose
  paid : ended = none → exactApply = true → DebtPaid (earlier ++ attempts.map (·.outcome))
  endsOnFailure : EndsOnFailure attempts (ended ≠ none)
  unqualified : ended ≠ some .qualified
  length : attempts.length ≤ left + 1

section Gate

variable {W : Type*} [F2World W] [BuildEnv] {gate : F2Gate}

theorem F2Gate.runPattern_record (pattern : F2QualificationPattern) (goldens : RenderGoldens)
    {earlier : List F2Outcome} {inconclusiveRetries cleanPasses : Nat}
    (howing : Owing earlier inconclusiveRetries cleanPasses) (w : Tracked W) :
    ∃ made,
      (gate.runPattern pattern goldens inconclusiveRetries cleanPasses w).2.attempts =
        w.attempts ++ made ∧
      PatternRecord (gate.purpose pattern goldens) gate.exactApply earlier made
        (gate.runPattern pattern goldens inconclusiveRetries cleanPasses w).1
        (F2Gate.passesLeft inconclusiveRetries cleanPasses) := by
  induction hleft : F2Gate.passesLeft inconclusiveRetries cleanPasses
    using Nat.strong_induction_on generalizing inconclusiveRetries cleanPasses w earlier with
  | h n ih =>
    have hstopped : (F2World.stopRequested w).2.attempts = w.attempts := rfl
    obtain ⟨made, hmade, hrecord⟩ := gate.pass_record "V8" (F2World.stopRequested w).2
      gate.finalGateDwellMs (gate.purpose pattern goldens)
    rw [hstopped] at hmade
    unfold F2Gate.runPattern
    split
    next =>
      exact ⟨[], by simp [hstopped], by simp, by simp, endsOnFailure_nil, by simp, by simp⟩
    next =>
      split
      next ended w' heq =>
        rw [heq] at hmade hrecord
        refine ⟨made, hmade, ?_⟩
        cases hrecord with
        | refused hended => exact ⟨by simp, by simp, endsOnFailure_nil, by simpa, by simp⟩
        | unsaved hended outcome =>
          exact ⟨by simp, by simp, endsOnFailure_singleton (by simp), by simpa, by simp⟩
      next report w' heq =>
        rw [heq] at hmade hrecord
        cases hrecord
        have hafter := gate.afterPass_after pattern report inconclusiveRetries cleanPasses
        obtain ⟨outcome, houtcome⟩ : ∃ outcome, report.outcome = outcome := ⟨_, rfl⟩
        rw [houtcome] at hafter hmade
        split
        next hstep =>
          rw [hstep] at hafter
          cases hafter with
          | complete hpaid =>
            refine ⟨_, hmade, by simp, fun _ hexact => ?_, ?_, by simp, by simp⟩
            · exact howing.paid (hpaid hexact)
            · exact endsOnFailure_singleton fun hne => absurd (.inl rfl) hne
        next retries clean hstep =>
          rw [hstep] at hafter
          have hlt := gate.passesLeft_lt hstep
          have hagain : outcome.Tolerated ∧ Owing (earlier ++ [outcome]) retries clean := by
            cases hafter with
            | owed => exact ⟨.inl rfl, howing.validated⟩
            | deferred => exact ⟨.inr rfl, howing.inconclusive⟩
          obtain ⟨later, hlater, hrest⟩ := ih _ (hleft ▸ hlt) hagain.2 w' rfl
          rw [hmade, List.append_assoc] at hlater
          refine ⟨_, hlater, ?_, fun hnone hexact => ?_, ?_, hrest.unqualified, ?_⟩
          · intro attempt hmem
            rcases List.mem_cons.mp hmem with rfl | hmem
            · rfl
            · exact hrest.purposes attempt hmem
          · simpa using hrest.paid hnone hexact
          · exact hrest.endsOnFailure.cons hagain.1
          · have := hrest.length
            rw [List.length_append, List.length_singleton]
            omega
        next ended hstep =>
          rw [hstep] at hafter
          cases hafter with
          | stop _ hended =>
            exact ⟨_, hmade, by simp, by simp, endsOnFailure_singleton (by simp), by simpa,
              by simp⟩

/-- What the patterns of a gate have made. -/
structure PatternsRecord (gate : F2Gate) (goldens : RenderGoldens)
    (patterns : List F2QualificationPattern) (attempts : List GateAttempt)
    (ended : Option F2QualificationOutcome) : Prop where
  purposes : ∀ attempt ∈ attempts, ∃ pattern ∈ patterns,
    attempt.purpose = some (gate.purpose pattern goldens)
  paid : ended = none → gate.exactApply = true → ∀ pattern ∈ patterns,
    DebtPaid (outcomesOf (gate.purpose pattern goldens) attempts)
  endsOnFailure : EndsOnFailure attempts (ended ≠ none)
  unqualified : ended ≠ some .qualified
  length : attempts.length ≤ patterns.length * (F2Gate.passesLeft 0 0 + 1)

theorem F2Gate.runPatterns_record (goldens : RenderGoldens)
    {patterns : List F2QualificationPattern} (hnodup : patterns.Nodup) (w : Tracked W) :
    ∃ made, (gate.runPatterns goldens patterns w).2.attempts = w.attempts ++ made ∧
      PatternsRecord gate goldens patterns made (gate.runPatterns goldens patterns w).1 := by
  induction patterns generalizing w with
  | nil => exact ⟨[], by simp [runPatterns], by simp, by simp, endsOnFailure_nil, by
      simp [runPatterns], by simp⟩
  | cons pattern patterns ih =>
    obtain ⟨hnew, hrest⟩ := List.nodup_cons.mp hnodup
    obtain ⟨made, hmade, hrecord⟩ := gate.runPattern_record pattern goldens owing_nil w
    have hcount : (pattern :: patterns).length * (passesLeft 0 0 + 1) =
        patterns.length * (passesLeft 0 0 + 1) + (passesLeft 0 0 + 1) := Nat.succ_mul _ _
    have hlength := hrecord.length
    unfold runPatterns
    split
    next ended w' heq =>
      rw [heq] at hmade hrecord
      refine ⟨made, hmade, fun attempt hmem => ?_, by simp, hrecord.endsOnFailure.imp (by simp),
        hrecord.unqualified, by omega⟩
      exact ⟨pattern, List.mem_cons_self, hrecord.purposes attempt hmem⟩
    next w' heq =>
      rw [heq] at hmade hrecord
      obtain ⟨later, hlater, hpatterns⟩ := ih hrest w'
      have htolerated : ∀ attempt ∈ made, attempt.outcome.Tolerated :=
        (hrecord.endsOnFailure.imp (by simp)).tolerated
      rw [hmade, List.append_assoc] at hlater
      refine ⟨_, hlater, fun attempt hmem => ?_, fun hnone hexact p hp => ?_,
        hpatterns.endsOnFailure.append htolerated, hpatterns.unqualified, ?_⟩
      · rcases List.mem_append.mp hmem with hmem | hmem
        · exact ⟨pattern, List.mem_cons_self, hrecord.purposes attempt hmem⟩
        · obtain ⟨p, hp, hpurpose⟩ := hpatterns.purposes attempt hmem
          exact ⟨p, List.mem_cons_of_mem _ hp, hpurpose⟩
      · rw [outcomesOf_append]
        rcases List.mem_cons.mp hp with rfl | hp
        · -- The later patterns are others, so their attempts are none of this one.
          have hothers : outcomesOf (gate.purpose p goldens) later = [] := by
            refine outcomesOf_other fun attempt hmem heq => ?_
            obtain ⟨q, hq, hpurpose⟩ := hpatterns.purposes attempt hmem
            have hsame := gate.purpose_inj (Option.some.inj (hpurpose.symm.trans heq))
            exact hnew (hsame ▸ hq)
          rw [hothers, List.append_nil, outcomesOf_own hrecord.purposes]
          exact hrecord.paid rfl hexact
        · have hothers : outcomesOf (gate.purpose p goldens) made = [] := by
            refine outcomesOf_other fun attempt hmem heq => ?_
            have hpurpose := hrecord.purposes attempt hmem
            have hsame := gate.purpose_inj (Option.some.inj (hpurpose.symm.trans heq))
            exact hnew (hsame ▸ hp)
          rw [hothers, List.nil_append]
          exact hpatterns.paid hnone hexact p hp
      · have := hpatterns.length
        rw [List.length_append]
        omega

/-- What the soak has made. -/
structure EnduranceRecord (goldens : RenderGoldens) (attempts : List GateAttempt)
    (ended : F2QualificationOutcome) : Prop where
  purposes : ∀ attempt ∈ attempts, attempt.purpose = some (.applyQualification .endurance goldens)
  validated : ended = .qualified → attempts.map (·.outcome) = [.validated]
  endsOnFailure : EndsOnFailure attempts (ended ≠ .qualified)
  length : attempts.length ≤ 1

theorem F2Gate.runEndurance_record (goldens : RenderGoldens) (w : Tracked W) :
    ∃ made, (gate.runEndurance goldens w).2.attempts = w.attempts ++ made ∧
      EnduranceRecord goldens made (gate.runEndurance goldens w).1 := by
  have hstopped : (F2World.stopRequested w).2.attempts = w.attempts := rfl
  obtain ⟨made, hmade, hrecord⟩ := gate.pass_record "Endurance" (F2World.stopRequested w).2
    gate.exactApplyEnduranceDwellMs (.applyQualification .endurance goldens)
  rw [hstopped] at hmade
  unfold runEndurance
  dsimp only
  split
  next => exact ⟨[], by simp [hstopped], by simp, by simp, endsOnFailure_nil, by simp⟩
  next =>
    split
    next ended w' heq =>
      rw [heq] at hmade hrecord
      refine ⟨made, hmade, ?_⟩
      cases hrecord with
      | refused hended =>
        exact ⟨by simp, fun h => absurd h hended, endsOnFailure_nil, by simp⟩
      | unsaved hended outcome =>
        exact ⟨by simp, fun h => absurd h hended, endsOnFailure_singleton fun _ => hended,
          by simp⟩
    next report w' heq =>
      rw [heq] at hmade hrecord
      cases hrecord
      refine ⟨[⟨some (.applyQualification .endurance goldens), report.outcome⟩], ?_, by simp, ?_,
        endsOnFailure_singleton ?_, by simp⟩
      · rw [← hmade]
        split
        next => rfl
        next => split <;> rfl
      · split
        next => simp
        next =>
          split
          next ho => simp [ho]
          all_goals simp
      · intro hne
        split
        next => simp
        next =>
          split
          next ho => exact absurd (.inl ho) hne
          all_goals simp

/-- What an exact-Apply gate has made. -/
structure GateRecord (gate : F2Gate) (attempts : List GateAttempt)
    (ended : F2QualificationOutcome) : Prop where
  qualified : ended = .qualified → ∃ goldens, gate.renderGoldens = some goldens ∧
    (∀ pattern ∈ requiredQualificationPatterns.take gate.finalGatePasses,
      DebtPaid (outcomesOf (.applyQualification pattern goldens) attempts)) ∧
    outcomesOf (.applyQualification .endurance goldens) attempts = [.validated]
  endsOnFailure : EndsOnFailure attempts (ended ≠ .qualified)
  length : attempts.length ≤
    requiredQualificationPatterns.length * (F2Gate.passesLeft 0 0 + 1) + 1

theorem F2Gate.run_record (hexact : gate.exactApply = true) (w : Tracked W) :
    ∃ made, (gate.run w).2.attempts = w.attempts ++ made ∧
      GateRecord gate made (gate.run w).1 := by
  have hpurpose : ∀ pattern goldens,
      gate.purpose pattern goldens = .applyQualification pattern goldens := by
    intro pattern goldens
    unfold purpose
    rw [if_pos hexact]
  unfold run
  split
  next => exact ⟨[], (List.append_nil _).symm, by simp, endsOnFailure_nil, by simp⟩
  next goldens hgoldens =>
    obtain ⟨patterns, hpatterns⟩ :
      ∃ patterns, requiredQualificationPatterns.take gate.finalGatePasses = patterns := ⟨_, rfl⟩
    have hnodup : patterns.Nodup :=
      hpatterns ▸ requiredQualificationPatterns_nodup.sublist (List.take_sublist _ _)
    have hendurance : .endurance ∉ patterns := fun hmem =>
      endurance_notMem_requiredQualificationPatterns (List.mem_of_mem_take (hpatterns ▸ hmem))
    have hcount : patterns.length ≤ requiredQualificationPatterns.length :=
      hpatterns ▸ (List.take_sublist _ _).length_le
    have hbudget := Nat.mul_le_mul_right (passesLeft 0 0 + 1) hcount
    obtain ⟨made, hmade, hrecord⟩ := gate.runPatterns_record goldens hnodup w
    have hlength := hrecord.length
    rw [hpatterns]
    split
    next ended w' heq =>
      rw [heq] at hmade hrecord
      have hended : ended ≠ .qualified := fun h => hrecord.unqualified (congrArg some h)
      exact ⟨made, hmade, fun h => absurd h hended, hrecord.endsOnFailure.imp fun _ => hended,
        by omega⟩
    next w' heq =>
      rw [heq] at hmade hrecord
      rw [if_pos hexact]
      obtain ⟨soak, hsoak, hend⟩ := gate.runEndurance_record goldens w'
      have htolerated : ∀ attempt ∈ made, attempt.outcome.Tolerated :=
        (hrecord.endsOnFailure.imp (by simp)).tolerated
      rw [hmade, List.append_assoc] at hsoak
      refine ⟨_, hsoak, fun hqualified => ⟨goldens, hgoldens, fun pattern hp => ?_, ?_⟩,
        hend.endsOnFailure.append htolerated, ?_⟩
      · have hothers : outcomesOf (.applyQualification pattern goldens) soak = [] := by
          refine outcomesOf_other fun attempt hmem heq => ?_
          have hsame := Option.some.inj ((hend.purposes attempt hmem).symm.trans heq)
          exact hendurance ((F2StressPurpose.applyQualification.inj hsame).1 ▸ hpatterns ▸ hp)
        rw [outcomesOf_append, hothers, List.append_nil, ← hpurpose]
        exact hrecord.paid rfl hexact pattern (hpatterns ▸ hp)
      · have hothers : outcomesOf (.applyQualification .endurance goldens) made = [] := by
          refine outcomesOf_other fun attempt hmem heq => ?_
          obtain ⟨p, hp, hown⟩ := hrecord.purposes attempt hmem
          rw [hpurpose] at hown
          have hsame := Option.some.inj (hown.symm.trans heq)
          exact hendurance ((F2StressPurpose.applyQualification.inj hsame).1 ▸ hp)
        rw [outcomesOf_append, hothers, List.nil_append, outcomesOf_own hend.purposes]
        exact hend.validated hqualified
      · have := hend.length
        rw [List.length_append]
        omega

/-- The exact-Apply gate qualifies only what paid its debt, pattern by pattern and in the soak;
any other outcome is its last attempt. The call of the gate runs every required pattern. -/
theorem exact_apply_gate_pays_debt :
    (∀ (gate : F2Gate) (w : Tracked W), gate.exactApply = true →
      ∃ made, (gate.run w).2.attempts = w.attempts ++ made ∧ GateRecord gate made (gate.run w).1) ∧
    (∀ (scope : LedgerScope) (plan : Except String AnchoredPositiveOffsetPlan)
      (limits : PositiveOffsetLimits) (targetMhz qualificationDwellMs enduranceDwellMs : Nat)
      (goldens : RenderGoldens)
      (powerAboveCeiling : F2StepReport → Option (Float32 × Float32)) (w w' : Tracked W),
      runConfirmedF2ApplyQualification scope plan limits targetMhz qualificationDwellMs
        enduranceDwellMs (some goldens) powerAboveCeiling w = (.ok .qualified, w') →
      ∃ made, w'.attempts = w.attempts ++ made ∧
        (∀ pattern ∈ requiredQualificationPatterns,
          DebtPaid (outcomesOf (.applyQualification pattern goldens) made)) ∧
        outcomesOf (.applyQualification .endurance goldens) made = [.validated]) := by
  refine ⟨fun gate w hexact => gate.run_record hexact w, ?_⟩
  intro scope plan limits targetMhz qualificationDwellMs enduranceDwellMs goldens above w w' h
  unfold runConfirmedF2ApplyQualification at h
  dsimp only at h
  split at h
  next => cases h
  next =>
    split at h
    next => cases h
    next candidate =>
      split at h
      next => cases h
      next =>
        obtain ⟨gate, hgate⟩ : ∃ gate : F2Gate, F2Gate.mk candidate limits targetMhz
          qualificationDwellMs requiredQualificationPatterns.length enduranceDwellMs
          (some goldens) true above = gate := ⟨_, rfl⟩
        have hexact : gate.exactApply = true := by rw [← hgate]
        obtain ⟨made, hmade, hrecord⟩ :=
          gate.run_record hexact (F2World.readStores (F2World.stopRequested w).2).2
        rw [hgate] at h
        obtain ⟨hended, rfl⟩ := Prod.mk.inj h
        obtain ⟨goldens', hgoldens, hpaid, hsoak⟩ := hrecord.qualified (Except.ok.inj hended)
        obtain rfl : goldens = goldens' := by
          rw [← hgate] at hgoldens
          exact Option.some.inj hgoldens
        refine ⟨made, hmade, fun pattern hp => hpaid pattern ?_, hsoak⟩
        rw [← hgate, List.take_length]
        exact hp

end Gate

/-- A card whose loads end as scripted. -/
structure ScriptedCard where
  dwells : List F2DwellOutcome

instance : F2World ScriptedCard where
  readStores self := ({ record := {}, bootFlagArmed := false, events := [] }, self)
  stopRequested self := (false, self)
  armBootFlag _ self := (.ok (), self)
  applyPositiveOffset _ self := (.ok (), self)
  verify _ self := (.raiseVerified, self)
  dwell _ self :=
    ((F2Ops.dwell ({ outcome := self.dwells.headD .stable } : Scripted)).1, ⟨self.dwells.tail⟩)
  resetToStock _ self := (.ok (), self)
  clearBootFlag self := (.ok (), self)
  blacklistPoint _ _ self := (.ok (), self)
  appendObservation _ self := (.ok (), self)

/-- The exact-Apply gate of the 856 mV bin at 1845 MHz. -/
def applyGate1845 : F2Gate where
  candidate := {
    targetMhz := 1845
    anchor := ⟨64, 856, 1755, 90, 75, 15, 1845⟩
    entries := []
    cappedAboveBins := 0
    aboveAlreadyOkBins := 0
    elasticBelowBins := 0
    maxPositiveOffsetMhz := 90
    maxNegativeFlattenMhz := 0 }
  limits := ⟨120, 30, 700, 1900⟩
  targetMhz := 1845
  finalGateDwellMs := 60000
  finalGatePasses := requiredQualificationPatterns.length
  exactApplyEnduranceDwellMs := 600000
  renderGoldens := some ⟨0, 0, 0, 0, 0, 0, 0, 0, ⟨0, 0, 0⟩⟩
  exactApply := true
  powerAboveCeiling _ := none

/-- An inconclusive load, then clean ones. -/
def deferred : Tracked ScriptedCard := { ops := ⟨[.inconclusive]⟩ }

example :
    let _ : BuildEnv := ⟨"0.1.0", "unknown"⟩
    (applyGate1845.run deferred).2.attempts.map (·.outcome) =
      [.inconclusive, .validated, .validated, .validated] := by decide +kernel

theorem deferred_gate_pays_debt :
    let _ : BuildEnv := ⟨"0.1.0", "unknown"⟩
    ∃ made, (applyGate1845.run deferred).2.attempts = deferred.attempts ++ made ∧
      GateRecord applyGate1845 made (applyGate1845.run deferred).1 := by
  intro _
  exact exact_apply_gate_pays_debt.1 applyGate1845 deferred rfl

end Nidavellir

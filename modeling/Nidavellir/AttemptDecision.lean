import Nidavellir.PowerAttempts
import Nidavellir.F2Sweep

namespace Nidavellir

/-- The outcome that an attempt leaves on its discovery line. -/
def F2StepReport.discoveryOutcome (self : F2StepReport) : F2ObsOutcome :=
  mapOutcome self.outcome (self.outcome == .inconclusive)

theorem observationFromAnchoredStep_outcome {ctx : ObsContext} (targetMhz : Nat)
    (anchored : AnchoredPositiveOffsetPlan) (report : F2StepReport)
    (h : ctx.evidenceKind = .discovery) :
    (observationFromAnchoredStep ctx targetMhz anchored report).outcome =
      report.discoveryOutcome := by
  simp only [observationFromAnchoredStep, F2StepReport.discoveryOutcome, h, beq_self_eq_true,
    Bool.true_and]

/-- The dwells taken at one bin: nothing is confirmed yet, and one is all without a recheck. -/
structure PowerAttempts where
  reports : List F2StepReport
  rechecked : Bool
  nonempty : reports ≠ []
  fresh : ∀ report ∈ reports, report.powerP99Confirmed = false
  single : rechecked = false → reports.length = 1

namespace F2PowerRules

/-- The outcome on which the search goes on. -/
def Verdict.decision (self : Verdict) : F2Outcome :=
  f2PowerBoundClockDrop self.aggregate.outcome self.nearCap

/-- A confirmed pass among lines none of which is bad is also the decision. -/
def Verdict.NeverOverstates (self : Verdict) : Prop :=
  (∃ attempt ∈ self.attempts, attempt.outcome = .validated ∧ attempt.powerP99Confirmed) →
    (∀ attempt ∈ self.attempts, attempt.discoveryOutcome.isBad = false) →
      self.decision = .validated

variable (self : F2PowerRules) {reports : List F2StepReport} {rechecked : Bool}
  {powerLimitW : Option Float32} {previous : Option F2PowerCapState}

def consensus (reports : List F2StepReport) (rechecked : Bool) : Bool :=
  if reports.any fun report => report.outcome.terminalFailure then false
  else if rechecked then self.attemptsHaveConsistentPair reports
  else (self.usablePowers reports).length == 1

def mark (consensus : Bool) (attempts : Nat) (report : F2StepReport) : F2StepReport :=
  if self.measurementUsable report then
    { report with
      outcome := if consensus then report.outcome else .inconclusive
      powerP99Confirmed := consensus
      powerP99Attempts := attempts }
  else report

/-- The power state that the attempts show, all their capped fractions counted. -/
def attemptsCapState (reports : List F2StepReport) (powerLimitW : Option Float32)
    (previous : Option F2PowerCapState) : F2PowerCapState :=
  self.capStateWithPrevious (reduce self.greater (self.usablePowers reports)) powerLimitW
    (reduce self.greater (reports.filterMap F2StepReport.powerCappedFrac)) previous

theorem confirmAttempts_eq (reports : List F2StepReport) (rechecked : Bool) :
    self.confirmAttempts reports rechecked =
    (reports.map (self.mark (self.consensus reports rechecked) reports.length),
      if self.consensus reports rechecked then reduce self.greater (self.usablePowers reports)
      else none) := rfl

variable {self}

theorem mark_confirmed {consensus : Bool} {attempts : Nat} {report : F2StepReport}
    (h : report.powerP99Confirmed = false) :
    (self.mark consensus attempts report).powerP99Confirmed =
      (consensus && self.measurementUsable report) := by
  cases hu : self.measurementUsable report with
  | true => simp [mark, hu]
  | false => simp [mark, hu, h]

@[simp] theorem mark_true_outcome (attempts : Nat) (report : F2StepReport) :
    (self.mark true attempts report).outcome = report.outcome := by
  unfold mark
  split <;> rfl

@[simp] theorem mark_powerCappedFrac (consensus : Bool) (attempts : Nat) (report : F2StepReport) :
    (self.mark consensus attempts report).powerCappedFrac = report.powerCappedFrac := by
  unfold mark
  split <;> rfl

@[simp] theorem powerBoundAttempt_confirmed (nearCap : Bool) (attempt : F2StepReport) :
    (powerBoundAttempt nearCap attempt).powerP99Confirmed = attempt.powerP99Confirmed := by
  unfold powerBoundAttempt
  split <;> rfl

theorem unconfirm_confirmed (report : F2StepReport) :
    (unconfirm report).powerP99Confirmed = false := by
  unfold unconfirm
  split
  · rfl
  · exact Bool.eq_false_iff.mpr ‹_›

theorem reduce_isSome {α : Type*} {f : α → α → α} {as : List α} (h : as ≠ []) :
    (reduce f as).isSome := by
  cases as with
  | nil => exact absurd rfl h
  | cons a as => rfl

theorem anyPair_ne_nil {α : Type*} {p : α → α → Bool} {as : List α} (h : anyPair p as) :
    as ≠ [] := by
  rintro rfl
  cases h

/-- A consensus has a power that it agrees on. -/
theorem usablePowers_ne_nil (h : self.consensus reports rechecked) :
    self.usablePowers reports ≠ [] := by
  unfold consensus at h
  split at h
  · cases h
  · split at h
    · exact anyPair_ne_nil h
    · rw [beq_iff_eq] at h
      exact List.ne_nil_of_length_eq_add_one h

theorem consensus_terminal (h : self.consensus reports rechecked) :
    (reports.find? fun report => report.outcome.terminalFailure) = none := by
  unfold consensus at h
  split at h
  · cases h
  · rename_i hterminal
    simpa only [List.any_eq_true, not_exists, not_and, List.find?_eq_none] using hterminal

theorem aggregateAttempts_outcome (first : F2StepReport) (p99 : Float32) (attempts : Nat)
    (h : self.consensus reports rechecked) :
    (self.aggregateAttempts first (reports.map (self.mark true attempts)) (some p99)).outcome =
      if reports.any fun report => report.outcome == .clockDrop then .clockDrop
      else .validated := by
  have hfind : (reports.map (self.mark true attempts)).find?
      (fun report => report.outcome.terminalFailure) = none := by
    simpa only [List.find?_eq_none, List.mem_map, forall_exists_index, and_imp,
      forall_apply_eq_imp_iff₂, mark_true_outcome] using consensus_terminal h
  simp only [aggregateAttempts, hfind, Option.isNone_some, List.any_map, Function.comp_def,
    mark_true_outcome, Bool.false_eq_true, if_false]

/-- No reading is confirmed without a consensus. -/
theorem analyse_dissent (first : F2StepReport)
    (hfresh : ∀ report ∈ reports, report.powerP99Confirmed = false)
    (h : self.consensus reports rechecked = false) :
    ∀ attempt ∈ (self.analyse first reports rechecked powerLimitW previous).attempts,
      attempt.powerP99Confirmed = false := by
  have hconfirm := self.confirmAttempts_eq reports rechecked
  rw [h] at hconfirm
  have hmarks : ∀ attempt ∈ reports.map (self.mark false reports.length),
      attempt.powerP99Confirmed = false := by
    intro attempt hattempt
    obtain ⟨report, hreport, rfl⟩ := List.mem_map.mp hattempt
    rw [mark_confirmed (hfresh report hreport), Bool.false_and]
  intro attempt hattempt
  simp only [analyse, hconfirm, finalizeCapState, aggregateAttempts, Bool.false_eq_true, if_false,
    Option.isSome_none, and_false] at hattempt
  obtain ⟨marked, hmarked, rfl⟩ := List.mem_map.mp hattempt
  rw [powerBoundAttempt_confirmed]
  exact hmarks marked hmarked

theorem finalizeCapState_confirmed {aggregate : F2StepReport}
    (h : aggregate.powerP99Confirmed = true) :
    self.finalizeCapState reports aggregate powerLimitW previous =
      let capState := self.capStateWithPrevious aggregate.powerP99W powerLimitW
        aggregate.powerCappedFrac previous
      if capState = .ambiguous then (reports.map unconfirm, unconfirm aggregate, capState)
      else (reports, aggregate, capState) := by
  simp only [finalizeCapState, h, and_true]

/-- The analysis of a consensus, once its power state is put aside. -/
theorem analyse_consensus (first : F2StepReport) (h : self.consensus reports rechecked) :
    ∃ aggregate : F2StepReport, aggregate.powerP99Confirmed = true ∧
      (aggregate.outcome = if reports.any fun report => report.outcome == .clockDrop
        then .clockDrop else .validated) ∧
      ∃ p99, self.analyse first reports rechecked powerLimitW previous =
        let capState := self.attemptsCapState reports powerLimitW previous
        let marked := reports.map (self.mark true reports.length)
        if capState = .ambiguous then
          ⟨(marked.map unconfirm).map (powerBoundAttempt (capState == .nearCap)),
            unconfirm aggregate, p99, capState⟩
        else ⟨marked.map (powerBoundAttempt (capState == .nearCap)), aggregate, p99, capState⟩ := by
  have hconfirm := self.confirmAttempts_eq reports rechecked
  rw [h, if_pos rfl] at hconfirm
  obtain ⟨p99, hp99⟩ := Option.isSome_iff_exists.mp
    (reduce_isSome (f := self.greater) (usablePowers_ne_nil h))
  rw [hp99] at hconfirm
  let marked := reports.map (self.mark true reports.length)
  let aggregate := self.aggregateAttempts (marked.headD first) marked (some p99)
  refine ⟨aggregate, rfl, aggregateAttempts_outcome _ p99 _ h, some p99, ?_⟩
  have hcap : self.capStateWithPrevious aggregate.powerP99W powerLimitW
      aggregate.powerCappedFrac previous =
        self.attemptsCapState reports powerLimitW previous := by
    simp only [aggregate, marked, aggregateAttempts, attemptsCapState, hp99, List.filterMap_map,
      Function.comp_def, mark_powerCappedFrac]
  have hanalyse : self.analyse first reports rechecked powerLimitW previous =
      let final := self.finalizeCapState marked aggregate powerLimitW previous
      ⟨final.1.map (powerBoundAttempt (final.2.2 == .nearCap)), final.2.1, some p99,
        final.2.2⟩ := by
    rw [analyse, hconfirm]
  rw [hanalyse, finalizeCapState_confirmed rfl, hcap]
  dsimp only
  split
  · rfl
  · rfl

theorem finalizeCapState_attempts (reports : List F2StepReport) (aggregate : F2StepReport)
    (powerLimitW : Option Float32) (previous : Option F2PowerCapState) :
    ∃ f : F2StepReport → F2StepReport,
      (self.finalizeCapState reports aggregate powerLimitW previous).1 = reports.map f ∧
        ∀ report, report.powerP99Confirmed = false → f report = report := by
  unfold finalizeCapState
  dsimp only
  split
  next =>
    refine ⟨unconfirm, rfl, ?_⟩
    intro report hfresh
    simp [unconfirm, hfresh]
  next => exact ⟨id, by simp, fun _ _ => rfl⟩

/-- The analysis marks each attempt by itself, and leaves one whose power it cannot use. -/
theorem analyse_attempts (first : F2StepReport) (reports : List F2StepReport) (rechecked : Bool)
    (powerLimitW : Option Float32) (previous : Option F2PowerCapState) :
    ∃ g : F2StepReport → F2StepReport,
      (self.analyse first reports rechecked powerLimitW previous).attempts = reports.map g ∧
        ∀ report, report.powerP99Confirmed = false → self.measurementUsable report = false →
          g report = report := by
  obtain ⟨attempts, conservativeP99, hconfirm, hattempts⟩ : ∃ attempts conservativeP99,
      self.confirmAttempts reports rechecked = (attempts, conservativeP99) ∧
        attempts = reports.map (self.mark (self.consensus reports rechecked) reports.length) :=
    ⟨_, _, rfl, rfl⟩
  rcases hfinal : self.finalizeCapState attempts (self.aggregateAttempts (attempts.headD first)
    attempts conservativeP99) powerLimitW previous with ⟨final, aggregate, capState⟩
  obtain ⟨f, hf, hsame⟩ := finalizeCapState_attempts attempts
    (self.aggregateAttempts (attempts.headD first) attempts conservativeP99) powerLimitW previous
  rw [hfinal] at hf
  refine ⟨fun report => powerBoundAttempt (capState == .nearCap)
    (f (self.mark (self.consensus reports rechecked) reports.length report)), ?_, ?_⟩
  · obtain rfl : final = attempts.map f := hf
    simp only [analyse, hconfirm, hfinal]
    rw [hattempts, List.map_map, List.map_map]
    rfl
  · intro report hfresh hunusable
    have hmark : self.mark (self.consensus reports rechecked) reports.length report = report := by
      simp [mark, hunusable]
    dsimp only
    rw [hmark, hsame report hfresh]
    simp [powerBoundAttempt, hfresh]

/-- What a usable reading of a consensus is left with. -/
theorem settled_confirmed {report : F2StepReport} (nearCap : Bool) (attempts : Nat)
    (h : report.powerP99Confirmed = false) :
    (powerBoundAttempt nearCap (self.mark true attempts report)).powerP99Confirmed =
      self.measurementUsable report := by
  rw [powerBoundAttempt_confirmed, mark_confirmed h, Bool.true_and]

theorem settled_outcome {report : F2StepReport} (nearCap : Bool) (attempts : Nat)
    (h : report.powerP99Confirmed = false) :
    (powerBoundAttempt nearCap (self.mark true attempts report)).outcome =
      if self.measurementUsable report then f2PowerBoundClockDrop report.outcome nearCap
      else report.outcome := by
  rw [powerBoundAttempt, mark_confirmed h, Bool.true_and]
  split
  · exact congrArg (f2PowerBoundClockDrop · nearCap) (mark_true_outcome attempts report)
  · exact mark_true_outcome attempts report

end F2PowerRules

namespace PowerAttempts

open F2PowerRules

def verdict (self : PowerAttempts) (rules : F2PowerRules) (powerLimitW : Option Float32)
    (previous : Option F2PowerCapState) : Verdict :=
  rules.analyse (self.reports.head self.nonempty) self.reports self.rechecked powerLimitW previous

/-- The readings agree on a power near the limit; some passed, some lost the clock, and all that
lost it are usable. -/
structure MixedNearCap (bin : PowerAttempts) (rules : F2PowerRules)
    (powerLimitW : Option Float32) (previous : Option F2PowerCapState) : Prop where
  harmless : ∀ report ∈ bin.reports, report.outcome.terminalFailure = false
  agree : rules.attemptsHaveConsistentPair bin.reports
  nearCap : rules.attemptsCapState bin.reports powerLimitW previous = .nearCap
  passed : ∃ report ∈ bin.reports, rules.measurementUsable report ∧ report.outcome = .validated
  dropped : ∃ report ∈ bin.reports, report.outcome = .clockDrop
  usable : ∀ report ∈ bin.reports, report.outcome = .clockDrop → rules.measurementUsable report

variable {bin : PowerAttempts} {rules : F2PowerRules} {powerLimitW : Option Float32}
  {previous : Option F2PowerCapState}

/-- Two different outcomes are two readings. -/
theorem rechecked_of_mixed {a b : F2StepReport} (ha : a ∈ bin.reports) (hb : b ∈ bin.reports)
    (h : a.outcome ≠ b.outcome) : bin.rechecked = true := by
  by_contra honce
  obtain ⟨report, hreport⟩ := List.length_eq_one_iff.mp (bin.single (Bool.eq_false_iff.mpr honce))
  rw [hreport, List.mem_singleton] at ha hb
  exact h (by rw [ha, hb])

theorem not_any_terminalFailure {reports : List F2StepReport}
    (h : ∀ report ∈ reports, report.outcome.terminalFailure = false) :
    (reports.any fun report => report.outcome.terminalFailure) = false := by
  rw [List.any_eq_false]
  intro report hreport hfails
  rw [h report hreport] at hfails
  cases hfails

theorem MixedNearCap.consensus (h : bin.MixedNearCap rules powerLimitW previous) :
    rules.consensus bin.reports bin.rechecked = true := by
  obtain ⟨pass, hpass, -, hvalidated⟩ := h.passed
  obtain ⟨drop, hdrop, hclock⟩ := h.dropped
  have hrechecked : bin.rechecked = true := by
    refine rechecked_of_mixed hpass hdrop ?_
    rw [hvalidated, hclock]
    decide
  rw [F2PowerRules.consensus, not_any_terminalFailure h.harmless, if_neg Bool.false_ne_true,
    if_pos hrechecked]
  exact h.agree

/-- What a consensus with two different outcomes rests on. -/
theorem mixed_consensus {a b : F2StepReport} (ha : a ∈ bin.reports) (hb : b ∈ bin.reports)
    (hne : a.outcome ≠ b.outcome) (h : rules.consensus bin.reports bin.rechecked = true) :
    rules.attemptsHaveConsistentPair bin.reports := by
  rw [F2PowerRules.consensus, rechecked_of_mixed ha hb hne, if_pos rfl] at h
  split at h
  · cases h
  · exact h

theorem bad_line_iff {outcome : F2Outcome} (h : outcome.terminalFailure = false) :
    (mapOutcome outcome (outcome == .inconclusive)).isBad ↔ outcome = .clockDrop := by
  cases outcome
  case powerBoundClockDrop | clockDrop | inconclusive | validated => decide
  all_goals cases h

theorem f2PowerBoundClockDrop_terminalFailure (outcome : F2Outcome) (nearCap : Bool) :
    (f2PowerBoundClockDrop outcome nearCap).terminalFailure = outcome.terminalFailure := by
  unfold f2PowerBoundClockDrop
  split
  · rename_i h
    rw [h.1]
    rfl
  · rfl

theorem f2PowerBoundClockDrop_eq_clockDrop {outcome : F2Outcome} {nearCap : Bool} :
    f2PowerBoundClockDrop outcome nearCap = .clockDrop ↔ outcome = .clockDrop ∧ ¬ nearCap := by
  unfold f2PowerBoundClockDrop
  split
  · rename_i h
    simp [h.2]
  · rename_i h
    exact ⟨fun ho => ⟨ho, fun hnear => h ⟨ho, hnear⟩⟩, And.left⟩

/-- Near the limit only the unusable lines keep a lost clock. -/
theorem line_bad_iff {report : F2StepReport} (hreport : report ∈ bin.reports) (nearCap : Bool)
    (hterminal : report.outcome.terminalFailure = false) (attempts : Nat) :
    (powerBoundAttempt nearCap (rules.mark true attempts report)).discoveryOutcome.isBad ↔
      report.outcome = .clockDrop ∧ ¬ (rules.measurementUsable report ∧ nearCap) := by
  have houtcome := @settled_outcome rules report nearCap attempts (bin.fresh report hreport)
  rw [F2StepReport.discoveryOutcome, bad_line_iff, houtcome]
  · split
    · rename_i husable
      rw [f2PowerBoundClockDrop_eq_clockDrop]
      simp [husable]
    · rename_i husable
      simp [husable]
  · rw [houtcome]
    split
    · rw [f2PowerBoundClockDrop_terminalFailure, hterminal]
    · exact hterminal

/-- Nothing is overstated unless the readings agree on a decided power state. -/
theorem neverOverstates_of_dissent (h : rules.consensus bin.reports bin.rechecked = false) :
    (bin.verdict rules powerLimitW previous).NeverOverstates := by
  rintro ⟨attempt, hattempt, -, hconfirmed⟩
  rw [analyse_dissent _ bin.fresh h attempt hattempt] at hconfirmed
  cases hconfirmed

/-- A verdict on a decided power state: its lines, and the outcome decided on. -/
theorem verdict_decided (h : rules.consensus bin.reports bin.rechecked)
    (hcap : rules.attemptsCapState bin.reports powerLimitW previous ≠ .ambiguous) :
    let nearCap := rules.attemptsCapState bin.reports powerLimitW previous == .nearCap
    let verdict := bin.verdict rules powerLimitW previous
    (verdict.attempts = bin.reports.map fun report =>
      powerBoundAttempt nearCap (rules.mark true bin.reports.length report)) ∧
    verdict.decision = f2PowerBoundClockDrop
      (if bin.reports.any fun report => report.outcome == .clockDrop then .clockDrop
        else .validated) nearCap := by
  obtain ⟨aggregate, -, houtcome, p99, hverdict⟩ := @analyse_consensus rules _ _
    powerLimitW previous (bin.reports.head bin.nonempty) h
  rw [if_neg hcap] at hverdict
  refine ⟨?_, ?_⟩
  · rw [verdict, hverdict, List.map_map]
    rfl
  · rw [verdict, hverdict, ← houtcome]
    rfl

theorem neverOverstates_of_ambiguous (h : rules.consensus bin.reports bin.rechecked)
    (hcap : rules.attemptsCapState bin.reports powerLimitW previous = .ambiguous) :
    (bin.verdict rules powerLimitW previous).NeverOverstates := by
  obtain ⟨aggregate, -, -, p99, hverdict⟩ := @analyse_consensus rules _ _
    powerLimitW previous (bin.reports.head bin.nonempty) h
  rw [if_pos hcap] at hverdict
  rintro ⟨attempt, hattempt, -, hconfirmed⟩
  rw [verdict, hverdict] at hattempt
  obtain ⟨report, hreport, rfl⟩ := List.mem_map.mp hattempt
  obtain ⟨marked, -, rfl⟩ := List.mem_map.mp hreport
  rw [powerBoundAttempt_confirmed, unconfirm_confirmed] at hconfirmed
  cases hconfirmed

theorem MixedNearCap.overstates (h : bin.MixedNearCap rules powerLimitW previous) :
    ¬ (bin.verdict rules powerLimitW previous).NeverOverstates := by
  intro hnever
  have hcap : rules.attemptsCapState bin.reports powerLimitW previous ≠ .ambiguous := by
    rw [h.nearCap]
    decide
  obtain ⟨hattempts, hdecision⟩ := verdict_decided h.consensus hcap
  rw [h.nearCap, beq_self_eq_true] at hattempts hdecision
  obtain ⟨drop, hdrop, hclock⟩ := h.dropped
  have hany : bin.reports.any fun report => report.outcome == .clockDrop :=
    List.any_eq_true.mpr ⟨drop, hdrop, beq_iff_eq.mpr hclock⟩
  have hvalidated := hnever ?_ ?_
  · rw [hdecision, if_pos hany] at hvalidated
    exact absurd hvalidated (by decide)
  · obtain ⟨pass, hpass, husable, hpassed⟩ := h.passed
    refine ⟨_, hattempts ▸ List.mem_map_of_mem hpass, ?_, ?_⟩
    · rw [settled_outcome true _ (bin.fresh pass hpass), if_pos husable, hpassed]
      rfl
    · rw [settled_confirmed true _ (bin.fresh pass hpass), husable]
  · intro attempt hattempt
    rw [hattempts] at hattempt
    obtain ⟨report, hreport, rfl⟩ := List.mem_map.mp hattempt
    rw [Bool.eq_false_iff, Ne, line_bad_iff hreport true (h.harmless report hreport)]
    rintro ⟨hlost, hunusable⟩
    exact hunusable ⟨h.usable report hreport hlost, rfl⟩

/-- A pass that is confirmed against the decision comes from a mix near the limit. -/
theorem mixedNearCap_of_overstates (h : rules.consensus bin.reports bin.rechecked)
    (hcap : rules.attemptsCapState bin.reports powerLimitW previous ≠ .ambiguous)
    (hover : ¬ (bin.verdict rules powerLimitW previous).NeverOverstates) :
    bin.MixedNearCap rules powerLimitW previous := by
  obtain ⟨hattempts, hdecision⟩ := verdict_decided h hcap
  have hterminal : ∀ report ∈ bin.reports, report.outcome.terminalFailure = false := by
    simpa only [List.find?_eq_none, Bool.not_eq_true] using consensus_terminal h
  unfold Verdict.NeverOverstates at hover
  push Not at hover
  obtain ⟨⟨attempt, hattempt, houtcome, hconfirmed⟩, hlines, hdecided⟩ := hover
  rw [hattempts] at hattempt hlines
  obtain ⟨pass, hpass, rfl⟩ := List.mem_map.mp hattempt
  rw [settled_confirmed _ _ (bin.fresh pass hpass)] at hconfirmed
  rw [settled_outcome _ _ (bin.fresh pass hpass), if_pos hconfirmed] at houtcome
  have hpassed : pass.outcome = .validated := by
    unfold f2PowerBoundClockDrop at houtcome
    split at houtcome
    · cases houtcome
    · exact houtcome
  have hany : bin.reports.any fun report => report.outcome == .clockDrop := by
    by_contra hnone
    rw [hdecision, if_neg hnone] at hdecided
    exact hdecided (by simp [f2PowerBoundClockDrop])
  obtain ⟨drop, hdrop, hclock⟩ := List.any_eq_true.mp hany
  rw [beq_iff_eq] at hclock
  have hgood : ∀ report ∈ bin.reports, report.outcome = .clockDrop →
      rules.measurementUsable report ∧
        (rules.attemptsCapState bin.reports powerLimitW previous == .nearCap) = true := by
    intro report hreport hlost
    have hline := hlines _ (List.mem_map_of_mem hreport)
    rw [Bool.eq_false_iff, Ne, line_bad_iff hreport _ (hterminal report hreport)] at hline
    exact not_not.mp fun hunusable => hline ⟨hlost, hunusable⟩
  have hne : pass.outcome ≠ drop.outcome := by
    rw [hpassed, hclock]
    decide
  exact {
    harmless := hterminal
    agree := mixed_consensus hpass hdrop hne h
    nearCap := beq_iff_eq.mp (hgood drop hdrop hclock).2
    passed := ⟨pass, hpass, hconfirmed, hpassed⟩
    dropped := ⟨drop, hdrop, hclock⟩
    usable := fun report hreport hlost => (hgood report hreport hlost).1 }

/-- The lines of a bin say no more than its decision, a mix near the limit apart. -/
theorem neverOverstates_iff (bin : PowerAttempts) (rules : F2PowerRules)
    (powerLimitW : Option Float32) (previous : Option F2PowerCapState) :
    (bin.verdict rules powerLimitW previous).NeverOverstates ↔
      ¬ bin.MixedNearCap rules powerLimitW previous := by
  constructor
  · exact fun hnever hmixed => hmixed.overstates hnever
  · intro hmixed
    by_contra hover
    cases hconsensus : rules.consensus bin.reports bin.rechecked with
    | false => exact hover (neverOverstates_of_dissent hconsensus)
    | true =>
      by_cases hcap : rules.attemptsCapState bin.reports powerLimitW previous = .ambiguous
      · exact hover (neverOverstates_of_ambiguous hconsensus hcap)
      · exact hmixed (mixedNearCap_of_overstates hconsensus hcap hover)

/-- A dwell that ended clean, with its measured p99. -/
def powerReport (powerP99W : Float32) (outcome : F2Outcome) : F2StepReport where
  outcome := outcome
  armed := true
  applied := true
  verify := some .raiseVerified
  dwell := some (if outcome = .clockDrop then .clockDrop else .stable)
  avgClockMhz := some 1890
  p5ClockMhz := some 1890
  p95ClockMhz := some 1890
  powerW := some 217
  maxPowerW := some 219
  powerP99W := some powerP99W
  powerP99Confirmed := false
  powerP99Attempts := 0
  powerCappedFrac := some 0
  maxTempC := some 70
  thermalThrottled := false
  measuredVoltageMinMv := some 886
  measuredVoltageAvgMv := some 887
  measuredVoltageMaxMv := some 888
  measuredVoltageSampleCount := 20
  renderFrames := some 600
  renderFps := some 60
  dwellDurationMs := some 10000
  sampleCount := some 100
  qualificationCoverage := none
  evidenceProvenance := none
  resetOk := some true
  bootFlagCleared := true
  blacklisted := false
  validated := outcome == .validated

/-- The comparisons on 218 and 219 W under a limit of 220 W. -/
def nearLimitRules : F2PowerRules where
  finitePositive _ := true
  nearLimit _ _ := true
  belowLimit _ _ := false
  cappedHalf _ := false
  consistent _ _ := true
  greater _ b := b

/-- The first dwell held the clock, its repetition lost it. -/
def mixedAttempts : PowerAttempts where
  reports := [powerReport 218 .validated, powerReport 219 .clockDrop]
  rechecked := true
  nonempty := by decide
  fresh := by
    intro report hreport
    rcases List.mem_pair.mp hreport with rfl | rfl <;> rfl
  single := nofun

/-- The pass stays a confirmed line although the bin is left as bound by power. -/
theorem mixed_attempts_overstate :
    ¬ (mixedAttempts.verdict nearLimitRules (some 220) none).NeverOverstates := by
  intro hnever
  have hvalidated := hnever ⟨_, List.mem_cons_self, rfl, rfl⟩ ?_
  · exact absurd hvalidated (by decide)
  · intro attempt hattempt
    rcases List.mem_pair.mp hattempt with rfl | rfl <;> rfl

end PowerAttempts

end Nidavellir

import Nidavellir.AttemptDecision
import Nidavellir.FlagMotors
import Nidavellir.StartRecovery

namespace Nidavellir

open FlagTrail F2MultiStepOps
open Narrowing (Flow)

namespace F2PowerRules

variable (self : F2PowerRules)

theorem measurementUsable_deviceLost {report : F2StepReport} (h : report.outcome = .deviceLost) :
    self.measurementUsable report = false := by
  simp [measurementUsable, measurementContentUsable, h]

end F2PowerRules

section Transaction

variable {W : Type*} [F2World W] {lost : Bool}

/-- The flag of the running write is on disk, and the reports show a device that it lost. -/
def Shown (t : FlagTrail) (reports : List F2StepReport) : Prop :=
  ∃ lost, t.Running lost ∧ (lost = true → ∃ report ∈ reports, report.outcome = .deviceLost)

theorem Shown.append {t t' : FlagTrail} {reports : List F2StepReport} (h : Shown t reports)
    {report : F2StepReport} (ht : ∀ lost, t.Running lost →
      t'.Running (lost || report.outcome == .deviceLost)) : Shown t' (reports ++ [report]) := by
  obtain ⟨lost, hlost, hshown⟩ := h
  refine ⟨_, ht lost hlost, ?_⟩
  intro hor
  rcases Bool.or_eq_true_iff.mp hor with hlost | hnow
  · obtain ⟨earlier, hmem, ho⟩ := hshown hlost
    exact ⟨earlier, List.mem_append_left _ hmem, ho⟩
  · exact ⟨report, by simp, by simpa using hnow⟩

/-- A phase of the active write reports a device that it loses. -/
theorem runPhase_running {candidate : ActiveF2Candidate (RealF2MultiOps (Watched W))}
    (h : (ofEvents candidate.ops.events).Running lost) (dwellMs : Nat)
    (purpose : F2StressPurpose) :
    (ofEvents (candidate.runPhase dwellMs purpose).2.ops.events).Running
      (lost || (candidate.runPhase dwellMs purpose).1.outcome == .deviceLost) := by
  have hconfigured : (ofEvents (F2CandidateTransactionOps.configurePhase dwellMs purpose
    candidate.ops).events).Running lost := h
  rcases hdwell : F2Ops.dwell (F2CandidateTransactionOps.configurePhase dwellMs purpose
    candidate.ops) with ⟨d, ops⟩
  have hops := RealF2MultiOps.watchesFlag.dwelt hconfigured hdwell
  simp only [ActiveF2Candidate.runPhase, hdwell]
  rw [← deviceLost_beq_reported] at hops
  exact hops

theorem select_settled (i : Nat) (ops : RealF2MultiOps (Watched W))
    (h : (ofEvents ops.events).Settled) : (ofEvents (select i ops).2.events).Settled := by
  change (ofEvents (RealF2MultiOps.select i ops).2.events).Settled
  unfold RealF2MultiOps.select
  split
  next => exact h
  next =>
    dsimp only
    split
    next => exact h
    next =>
      split
      next => exact h
      next => split <;> exact h

namespace F2CandidateTransaction

def trail (self : F2CandidateTransaction (Watched W)) : FlagTrail :=
  ofEvents self.executor.ops.events

/-- The last cleanup left the flag on disk, and says so. -/
structure Kept (t : F2CandidateTransaction (Watched W)) : Prop where
  flag : ∃ lost, t.trail.Holds lost
  cleanup : ∃ cleanup, t.finalCleanup = some cleanup ∧ cleanup.retainBootFlag = true ∧
    cleanup.clean = false

/-- A candidate after a cleanup of its transaction. -/
def Over (t : F2CandidateTransaction (Watched W)) : Prop := t.trail.Settled ∨ t.Kept

/-- A transaction that is not active is over, and aborts the candidate if it left the flag. -/
structure Told (t : F2CandidateTransaction (Watched W)) : Prop where
  active : ∀ candidate, t.executor = .active candidate →
    Shown t.trail (t.running.map F2TimedPhaseReport.report)
  rest : ∀ ops, t.executor = .rest ops → t.trail.Settled ∨ t.Kept ∧ t.abortReason.isSome

/-- What holds while the attempts at a bin are measured: nothing is confirmed yet. -/
structure Measured (t : F2CandidateTransaction (Watched W)) : Prop extends t.Told where
  fresh : ∀ candidate, t.executor = .active candidate →
    candidate.baseReport.powerP99Confirmed = false ∧
      ∀ timed ∈ t.running, timed.report.powerP99Confirmed = false

variable {t : F2CandidateTransaction (Watched W)} {ops : RealF2MultiOps (Watched W)}

theorem finish_tells {candidate : ActiveF2Candidate (RealF2MultiOps (Watched W))}
    (h : t.executor = .active candidate)
    (hshown : Shown t.trail (t.running.map F2TimedPhaseReport.report)) :
    ∃ cleanup, t.finish.finalCleanup = some cleanup ∧ cleanup.Tells t.finish.trail ∧
      ∃ ops, t.finish.executor = .rest ops := by
  obtain ⟨lost, hlost, hreports⟩ := hshown
  have hrunning : (ofEvents candidate.ops.events).Running lost := by
    simpa [trail, h, F2Executor.ops] using hlost
  unfold finish
  rw [h]
  exact ⟨_, rfl, RealF2MultiOps.watchesFlag.finishF2TransactionReports hrunning hreports, _, rfl⟩

omit [F2World W] in
/-- A cleanup that tells the truth leaves no flag, or is known to have left it. -/
theorem over_of_tells {cleanup : F2TransactionCleanup} (hcleanup : t.finalCleanup = some cleanup)
    (htells : cleanup.Tells t.trail) : t.Over := by
  rcases htells.leaves with hsettled | ⟨hretain, hflag⟩
  · exact .inl hsettled
  · exact .inr ⟨hflag, cleanup, hcleanup, hretain, htells.unclean hretain⟩

theorem Told.finish (h : t.Told) : t.finish.Over := by
  cases hex : t.executor with
  | rest ops =>
    have hrest : t.finish = t := by
      unfold F2CandidateTransaction.finish
      rw [hex]
    rw [hrest]
    exact (h.rest ops hex).imp_right And.left
  | active candidate =>
    obtain ⟨cleanup, hcleanup, htells, -⟩ := finish_tells hex (h.active candidate hex)
    exact over_of_tells hcleanup htells

theorem Measured.discover (h : t.Measured) (dwellMs : Nat) : (t.discover dwellMs).Measured := by
  unfold F2CandidateTransaction.discover
  cases hex : t.executor with
  | rest ops => simpa [hex] using h
  | active candidate =>
    obtain ⟨hbase, hfresh⟩ := h.fresh candidate hex
    refine ⟨⟨?_, by simp⟩, ?_⟩
    · rintro _ ⟨rfl⟩
      rw [List.map_append]
      refine (h.active candidate hex).append fun lost hlost => ?_
      have hrunning : (ofEvents candidate.ops.events).Running lost := by
        simpa [trail, hex, F2Executor.ops] using hlost
      exact runPhase_running hrunning dwellMs .powerDiscovery
    · rintro _ ⟨rfl⟩
      refine ⟨hbase, ?_⟩
      intro timed hmem
      rcases List.mem_append.mp hmem with hmem | hmem
      · exact hfresh timed hmem
      · obtain rfl := List.mem_singleton.mp hmem
        exact hbase

theorem Measured.finishAttempt (h : t.Measured) : t.finishAttempt.Measured := by
  unfold F2CandidateTransaction.finishAttempt
  cases hex : t.executor with
  | rest ops => simpa [hex] using h
  | active candidate =>
    obtain ⟨⟨clean, retain, reason⟩, hcleanup, htells, ops, hrest⟩ :=
      finish_tells hex (h.active candidate hex)
    have hover : t.finish.Over := over_of_tells hcleanup htells
    simp only [hcleanup]
    cases clean with
    | false =>
      refine ⟨⟨by simp [hrest], fun _ _ => ?_⟩, by simp [hrest]⟩
      rcases hover with hsettled | ⟨hflag, hkept⟩
      · exact .inl hsettled
      · rw [hcleanup] at hkept
        exact .inr ⟨⟨hflag, hkept⟩, htells.reason rfl⟩
    | true =>
      refine ⟨⟨by simp [hrest], fun _ _ => ?_⟩, by simp [hrest]⟩
      rcases hover with hsettled | ⟨-, c, hc, hretain, hunclean⟩
      · exact .inl hsettled
      · obtain rfl := Option.some.inj (hcleanup.symm.trans hc)
        cases hunclean

variable [BuildEnv]

/-- A transaction that starts from rest. -/
theorem start_measured (t : F2CandidateTransaction (Watched W)) (failure : String)
    (hops : (ofEvents ops.events).Settled) : (t.start failure ops).Measured := by
  have hbegan := RealF2MultiOps.watchesFlag.beginF2CandidateTransaction hops
  unfold start
  cases hbegin : beginF2CandidateTransaction ops with
  | ok candidate =>
    rw [hbegin] at hbegan
    obtain ⟨hrunning, hfresh⟩ := hbegan
    refine ⟨⟨?_, by simp⟩, ?_⟩
    · rintro _ ⟨rfl⟩
      exact ⟨false, hrunning, by simp⟩
    · rintro _ ⟨rfl⟩
      exact ⟨hfresh, by simp⟩
  | error failed =>
    obtain ⟨ops', report, cleanup⟩ := failed
    rw [hbegin] at hbegan
    cases hbegan with
    | failed htells =>
      refine ⟨⟨by simp, ?_⟩, by simp⟩
      rintro _ ⟨rfl⟩
      exact (over_of_tells rfl htells).imp_right fun hkept => ⟨hkept, rfl⟩

/-- However often a bin is tested again. -/
theorem Measured.retest (h : t.Measured) (dwellMs i : Nat)
    (resolved : List F2StepReport → Bool) (left : Nat) :
    (retest dwellMs i resolved t left).Measured := by
  induction left generalizing t with
  | zero => exact h
  | succ left ih =>
    unfold F2CandidateTransaction.retest
    cases habort : t.abortReason with
    | some reason => exact h
    | none =>
      cases hex : t.executor with
      | active candidate => exact h
      | rest ops =>
        have hops : (ofEvents ops.events).Settled := by
          rcases h.rest ops hex with hsettled | ⟨-, habort'⟩
          · simpa [trail, hex, F2Executor.ops] using hsettled
          · simp [habort] at habort'
        have hops' := select_settled i ops hops
        rcases hselect : select i ops with ⟨e | ⟨⟩, ops'⟩
        · rw [hselect] at hops'
          simp only [hselect]
          refine ⟨⟨by simp, ?_⟩, by simp⟩
          rintro _ ⟨rfl⟩
          exact .inl hops'
        · rw [hselect] at hops'
          have hstart := start_measured t "P99RetryStartFailed" hops'
          have hdiscover := hstart.discover dwellMs
          simp only [hselect]
          split
          next =>
            split
            next => exact hdiscover
            next => exact ih hdiscover.finishAttempt
          next => exact hstart

end F2CandidateTransaction

/-- Each attempt that lost the device and confirmed nothing is still one. -/
def KeepsLost (reports attempts : List F2StepReport) : Prop :=
  List.Forall₂ (fun report attempt => report.powerP99Confirmed = false →
    report.outcome = .deviceLost → attempt.powerP99Confirmed = false ∧
      attempt.outcome = .deviceLost) reports attempts

theorem keepsLost_map {g : F2StepReport → F2StepReport}
    (hg : ∀ report, report.powerP99Confirmed = false → report.outcome = .deviceLost →
      g report = report) (reports : List F2StepReport) : KeepsLost reports (reports.map g) := by
  refine List.forall₂_map_right_iff.mpr (List.forall₂_same.mpr ?_)
  intro report _ hfresh hlost
  rw [hg report hfresh hlost]
  exact ⟨hfresh, hlost⟩

theorem keepsLost_provisional (reports : List F2StepReport) :
    KeepsLost reports (provisionalAttempts reports) := by
  refine List.forall₂_iff_get.mpr ⟨by simp [provisionalAttempts], ?_⟩
  intro i hi hi' hfresh hlost
  simp only [List.get_eq_getElem, provisionalAttempts, List.getElem_modify] at hfresh hlost ⊢
  split
  next => exact ⟨hfresh, hlost⟩
  next => exact ⟨hfresh, hlost⟩

theorem KeepsLost.trans {reports attempts attempts' : List F2StepReport}
    (h : KeepsLost reports attempts) (h' : KeepsLost attempts attempts') :
    KeepsLost reports attempts' := by
  induction h generalizing attempts' with
  | nil => exact h'
  | cons hhead _ ih =>
    cases h' with
    | cons hhead' htail' =>
      refine .cons ?_ (ih htail')
      intro hfresh hlost
      obtain ⟨hfresh, hlost⟩ := hhead hfresh hlost
      exact hhead' hfresh hlost

theorem KeepsLost.drop {reports attempts : List F2StepReport} (h : KeepsLost reports attempts)
    (n : Nat) : KeepsLost (reports.drop n) (attempts.drop n) := List.forall₂_drop n h

/-- The verdict of the analysis does not hide a lost device. -/
theorem KeepsLost.analysed {running : List F2TimedPhaseReport} {attempts : List F2StepReport}
    (h : KeepsLost (running.map F2TimedPhaseReport.report) attempts)
    (hfresh : ∀ timed ∈ running, timed.report.powerP99Confirmed = false)
    (hlost : ∃ report ∈ running.map F2TimedPhaseReport.report, report.outcome = .deviceLost) :
    ∃ report ∈ (running.zipWith F2TimedPhaseReport.analysed attempts).map
      F2TimedPhaseReport.report, report.outcome = .deviceLost := by
  induction running generalizing attempts with
  | nil => simp at hlost
  | cons timed running ih =>
    cases h with
    | cons hhead htail =>
      obtain ⟨report, hmem, ho⟩ := hlost
      rw [List.map_cons, List.mem_cons] at hmem
      rw [List.zipWith_cons_cons, List.map_cons]
      rcases hmem with rfl | hmem
      · exact ⟨_, List.mem_cons_self, (hhead (hfresh timed (by simp)) ho).2⟩
      · obtain ⟨report', hmem', ho'⟩ := ih htail
          (fun timed htimed => hfresh timed (List.mem_cons_of_mem _ htimed)) ⟨report, hmem, ho⟩
        exact ⟨report', List.mem_cons_of_mem _ hmem', ho'⟩

namespace F2CandidateTransaction

variable {t : F2CandidateTransaction (Watched W)}

omit [F2World W] in
/-- The analysis of a measured bin leaves what its transaction tells. -/
theorem Measured.analysed (h : t.Measured) {attempts : List F2StepReport}
    (hattempts : KeepsLost t.attempts attempts) : (t.analysed attempts).Told := by
  refine ⟨?_, fun ops hex => (h.rest ops hex).imp_right fun ⟨⟨hflag, hkept⟩, habort⟩ =>
    ⟨⟨hflag, hkept⟩, habort⟩⟩
  intro candidate hex
  obtain ⟨lost, hlost, hshown⟩ := h.active candidate hex
  refine ⟨lost, hlost, fun hl => ?_⟩
  have hrunning : KeepsLost (t.running.map F2TimedPhaseReport.report)
      (attempts.drop t.finished.length) := by
    have hdrop := hattempts.drop t.finished.length
    simpa [F2CandidateTransaction.attempts, phaseReports] using hdrop
  exact hrunning.analysed (h.fresh candidate hex).2 (hshown hl)

end F2CandidateTransaction

/-- Marking a dwell does not hide a lost device. -/
theorem checkMargin_deviceLost {targetMhz : Nat} {pattern : F2QualificationPattern}
    {history : F2QualificationMarginHistory} {report : F2StepReport} :
    ((checkMargin targetMhz pattern history report).1.outcome == .deviceLost) =
      (report.outcome == .deviceLost) := by
  unfold checkMargin
  split
  next => rfl
  next hp5 =>
    have hvalidated : report.outcome = .validated := by
      by_contra hne
      simp [hne] at hp5
    split
    next => simp [hvalidated]
    next => rfl

def F2QualifierState.trail (s : F2QualifierState (Watched W)) : FlagTrail :=
  ofEvents s.active.ops.events

theorem F2Qualifier.askStop_trail (s : F2QualifierState (Watched W)) :
    ∃ requested, (askStop s).2.trail = s.trail.after (.stop requested) :=
  ⟨_, ofEvents_concat _ _⟩

theorem F2Qualifier.dwell_running (qualifier : F2Qualifier) (pattern : F2QualificationPattern)
    (goldens : RenderGoldens) (passIndex retries : Nat) {s : F2QualifierState (Watched W)}
    (h : s.trail.Running lost) :
    (qualifier.dwell pattern goldens passIndex retries s).2.trail.Running
      (lost || (qualifier.dwell pattern goldens passIndex retries s).1.outcome ==
        .deviceLost) := by
  have hphase := runPhase_running h
    (qualificationAttemptDwellMs qualifier.qualificationDwellMs retries)
    (.v8Qualification pattern goldens)
  unfold F2Qualifier.dwell
  dsimp only
  rw [checkMargin_deviceLost]
  exact hphase

/-- The dwells of a pattern show a device that they lose. -/
theorem F2Qualifier.pattern_shown (qualifier : F2Qualifier) (pattern : F2QualificationPattern)
    (goldens : RenderGoldens) (passIndex : Nat) (s : F2QualifierState (Watched W))
    {reports : List F2StepReport} (h : Shown s.trail reports) :
    Shown (Retry.run inconclusiveRetries askStop (qualifier.dwell pattern goldens passIndex)
        0 s).2.2.trail
      (reports ++ (Retry.run inconclusiveRetries askStop
        (qualifier.dwell pattern goldens passIndex) 0 s).1) := by
  have hasked : ∀ s : F2QualifierState (Watched W), ∀ reports, Shown s.trail reports →
      Shown (askStop s).2.trail reports := by
    rintro s reports ⟨lost, hlost, hshown⟩
    obtain ⟨requested, htrail⟩ := askStop_trail s
    exact ⟨lost, htrail ▸ hlost.stop requested, hshown⟩
  refine Retry.run_induction inconclusiveRetries askStop
    (qualifier.dwell pattern goldens passIndex)
    (P := fun _ s r => ∀ reports, Shown s.trail reports → Shown r.2.2.trail (reports ++ r.1))
    ?_ ?_ ?_ 0 s reports h
  · intro n s result s' hask reports h
    have h' := hasked s reports h
    rw [hask] at h'
    simpa using h'
  · intro n s s' result hask _ reports h
    have h' := hasked s reports h
    rw [hask] at h'
    exact h'.append fun lost hlost => qualifier.dwell_running pattern goldens passIndex n hlost
  · intro n s s' dwells rest hask _ ih reports h
    have h' := hasked s reports h
    rw [hask] at h'
    have hdwelt := h'.append fun lost hlost =>
      qualifier.dwell_running pattern goldens passIndex n hlost
    simpa using ih _ hdwelt

theorem F2Qualifier.runPatterns_shown (qualifier : F2Qualifier) (goldens : RenderGoldens)
    (passIndex : Nat) (patterns : List F2QualificationPattern)
    (s : F2QualifierState (Watched W)) {reports : List F2StepReport}
    (h : Shown s.trail reports) :
    Shown (qualifier.runPatterns goldens passIndex patterns s).2.2.trail
      (reports ++ qualificationDwells (qualifier.runPatterns goldens passIndex patterns s).1) := by
  induction patterns generalizing passIndex s reports with
  | nil => simpa [runPatterns, qualificationDwells] using h
  | cons pattern patterns ih =>
    have hpattern := qualifier.pattern_shown pattern goldens passIndex s h
    unfold runPatterns
    split
    next dwells outcome s' hrun =>
      rw [hrun] at hpattern
      simpa [qualificationDwells] using hpattern
    next dwells s' hrun =>
      rw [hrun] at hpattern
      simpa [qualificationDwells] using ih (passIndex + 1) s' hpattern

theorem F2Qualifier.run_shown (qualifier : F2Qualifier) (s : F2QualifierState (Watched W))
    {reports : List F2StepReport} (h : Shown s.trail reports) :
    Shown (qualifier.run s).2.2.trail (reports ++ qualificationDwells (qualifier.run s).1) := by
  unfold run
  split
  next => simpa [qualificationDwells] using h
  next goldens _ => exact qualifier.runPatterns_shown goldens 1 _ s h

namespace F2DiscoveryCall

omit [F2World W] in
theorem qualificationReports_report (groups : List F2PatternDwells) :
    (qualificationReports groups).map F2TimedPhaseReport.report = qualificationDwells groups := by
  simp [qualificationReports, Function.comp_def]

variable {call : F2DiscoveryCall} {t : F2CandidateTransaction (Watched W)}

/-- A qualification shows what it loses under the write that it keeps active. -/
theorem qualify_told (h : t.Told) (memory : F2DescentMemory) (anchorMv : Nat) (eligible : Bool) :
    (call.qualify memory anchorMv eligible t).transaction.Told := by
  unfold qualify
  split
  next =>
    split
    next => exact h
    next =>
      split
      next => exact h
      next candidate hex =>
        have hshown := h.active candidate hex
        have hstop : Shown (ofEvents (candidate.ops.through F2World.stopRequested).2.events)
            (t.running.map F2TimedPhaseReport.report) := by
          obtain ⟨lost, hlost, hreports⟩ := hshown
          have hrunning : (ofEvents candidate.ops.events).Running lost := by
            simpa [F2CandidateTransaction.trail, hex, F2Executor.ops] using hlost
          refine ⟨lost, ?_, hreports⟩
          have hstopped := hrunning.stop (F2World.stopRequested candidate.ops.world.ops).1
          rw [← ofEvents_concat] at hstopped
          exact hstopped
        dsimp only
        split
        next =>
          refine ⟨?_, by simp⟩
          rintro _ ⟨rfl⟩
          exact hstop
        next =>
          have hrun := call.qualifier.run_shown
            ⟨{ candidate with ops := (candidate.ops.through F2World.stopRequested).2 },
              memory.marginHistory⟩ hstop
          refine ⟨?_, by simp⟩
          rintro _ ⟨rfl⟩
          rw [List.map_append, qualificationReports_report]
          exact hrun
  next => exact h

variable [BuildEnv]

theorem measure_measured (memory : F2DescentMemory) (i : Nat)
    {ops : RealF2MultiOps (Watched W)} (h : (ofEvents ops.events).Settled) :
    (call.measure memory i ops).1.Measured := by
  have hfirst := (F2CandidateTransaction.start_measured { executor := .rest ops }
    "TransactionStartFailed" h).discover call.discoveryDwellMs
  unfold measure
  dsimp only
  split
  next => exact hfirst.finishAttempt.retest _ _ _ _
  next => exact hfirst

/-- One candidate, from its first arm to its last cleanup. -/
theorem trial_over (memory : F2DescentMemory) (i anchorMv : Nat)
    (ops : RealF2MultiOps (Watched W)) (h : (ofEvents ops.events).Settled) :
    (call.trial memory i anchorMv ops).transaction.Over := by
  have hmeasured := call.measure_measured memory i h
  unfold trial
  dsimp only
  refine (qualify_told ?_ _ _ _).finish
  refine hmeasured.analysed ?_
  obtain ⟨g, hg, hsame⟩ := call.rules.analyse_attempts _ _ _ _ _
  rw [hg]
  have hkeeps := keepsLost_map (g := g) (fun report hfresh hlost =>
    hsame report hfresh (call.rules.measurementUsable_deviceLost hlost))
  split
  next => exact (keepsLost_provisional _).trans (hkeeps _)
  next => exact hkeeps _

end F2DiscoveryCall

end Transaction

end Nidavellir

import Nidavellir.DetectorLabFrame

namespace Nidavellir.DetectorLab

open Interference SafeLoopStore

variable {card : VfCard} {session : DetectorSession} {run : SingleDwell} {s s' : Lab}

theorem Lab.IsStock.same (h : s.IsStock card) (hq : s.SamePoint s') : s'.IsStock card where
  hw := hq.hw ▸ h.hw
  disarmed := hq.bootFlag.trans h.disarmed
  inactive := hq.manual ▸ h.inactive

theorem Lab.OnPoint.same (h : s.OnPoint card session) (hq : s.SamePoint s') :
    s'.OnPoint card session where
  point := hq.hw ▸ h.point
  armed := hq.bootFlag ▸ h.armed

theorem Lab.Kept.same (h : s.Kept card session run) (hq : s.SamePoint s') :
    s'.Kept card session run where
  approved := h.approved.of_eq hq.judged hq.manual
  place := h.place.imp (fun hheld => ⟨hheld.onPoint.same hq, hq.request ▸ hheld.early⟩)
    fun hdep => ⟨hq.hw ▸ hdep.hw, hq.request ▸ hdep.request, fun hreq =>
      hq.bootFlag.trans (hdep.disarmed (hq.request ▸ hreq))⟩

theorem Lab.Unverified.of_eq (h : s.Unverified) (hmanual : s'.manual = s.manual) :
    s'.Unverified :=
  ⟨hmanual ▸ h.active, hmanual ▸ h.unverified, hmanual ▸ h.reset⟩

theorem Lab.Ended.same (h : s.Ended card) (hq : s.SamePoint s') : s'.Ended card := by
  rcases h with hstock | hunverified | ⟨session, run, hkept, hresult⟩
  · exact .inl (hstock.same hq)
  · exact .inr (.inl (hunverified.of_eq hq.manual))
  · exact .inr (.inr ⟨session, run, hkept.same hq, hq.result.trans hresult⟩)

variable (card) in
/-- What may happen between two actions of a worker. -/
def Lab.Moves (s s' : Lab) : Prop :=
  s.Quiet s' ∨ ∃ a : RequestAction card, s.allows a ∧ s.requestStep a = some s'

/-- The worker holds `running`; a request under way has set `cancel`. -/
structure Lab.Live (s : Lab) : Prop where
  running : s.running = true
  cancel : s.request ≠ .idle → s.cancel = true

theorem Lab.Live.framed (h : s.Live) (hf : s.Frame s') : s'.Live where
  running := hf.running.trans h.running
  cancel hne := hf.cancel (h.cancel (hf.request ▸ hne))

theorem Lab.Live.moves (h : s.Live) (hm : s.Moves card s') : s'.Live := by
  rcases hm with hq | ⟨a, -, hs⟩
  · exact h.framed hq.toFrame
  · have hreq := Lab.requested hs
    exact ⟨hreq.running.trans h.running, fun _ => hreq.cancel h.cancel⟩

/-- A request cancels, whatever else it does. -/
theorem Lab.Live.quiet_or_cancelled (h : s.Live) (hm : s.Moves card s') :
    s.Quiet s' ∨ s'.cancel = true :=
  hm.imp_right fun ⟨_, _, hs⟩ => (Lab.requested hs).cancel h.cancel

abbrev LabAssertion (card : VfCard) := Assertion (Lab.Moves card)

namespace LabAssertion

variable (card)

/-- What the worker holds on to while it is live. -/
def whileLive (P : Lab → Prop) (h : ∀ s s', Lab.Live s → Lab.Moves card s s' → P s → P s') :
    LabAssertion card where
  holds s := s.Live ∧ P s
  stable hm hs := ⟨hs.1.moves hm, h _ _ hs.1 hm hs.2⟩

/-- What holds until a request cancels the session. -/
def untilCancelled (P : Lab → Prop) (h : ∀ s s', Lab.Quiet s s' → P s → P s') :
    LabAssertion card :=
  whileLive card (fun s => s.cancel = true ∨ P s) fun _ _ hlive hm hs => by
    rcases hlive.quiet_or_cancelled hm with hq | hc
    · exact hs.imp hq.cancel (h _ _ hq)
    · exact .inl hc

def live : LabAssertion card := whileLive card (fun _ => True) fun _ _ _ _ => id

def released : LabAssertion card :=
  whileLive card (fun s => card.AtStock s.hw) fun _ _ _ hm hs => by
    rcases hm with hq | ⟨a, -, hstep⟩
    · exact hq.hw ▸ hs
    · exact (Lab.requested hstep).atStock hs

def disarmed : LabAssertion card :=
  whileLive card (fun s => card.AtStock s.hw ∧ s.dir.bootFlag = .absent) fun _ _ _ hm hs => by
    rcases hm with hq | ⟨a, -, hstep⟩
    · exact ⟨hq.hw ▸ hs.1, hq.bootFlag.trans hs.2⟩
    · have hreq := Lab.requested hstep
      exact ⟨hreq.atStock hs.1, hreq.bootFlag.elim (fun he => he.trans hs.2) id⟩

def stock : LabAssertion card :=
  whileLive card (Lab.IsStock card) fun _ _ _ hm hs => by
    rcases hm with hq | ⟨a, -, hstep⟩
    · exact hs.same hq.toSamePoint
    · exact hs.requested (Lab.requested hstep)

/-- The flag of the point is armed, the card still at stock. -/
def armed (session : DetectorSession) : LabAssertion card :=
  whileLive card (fun s => card.AtStock s.hw ∧ (s.cancel = true ∨
      ∃ offsetMhz timestamp, s.dir.bootFlag = .holds ⟨pointIntent session.targetMhz
        session.resolvedVoltageMv offsetMhz, "detector_lab", timestamp⟩))
    fun _ _ hlive hm hs => by
      refine ⟨((released card).stable hm ⟨hlive, hs.1⟩).2, ?_⟩
      rcases hlive.quiet_or_cancelled hm with hq | hc
      · exact hs.2.imp hq.cancel fun hflag => hq.bootFlag ▸ hflag
      · exact .inl hc

def applied (session : DetectorSession) : LabAssertion card :=
  untilCancelled card (Lab.OnPoint card session) fun _ _ hq hs => hs.same hq.toSamePoint

def reported (session : DetectorSession) : LabAssertion card :=
  untilCancelled card (fun s => s.OnPoint card session ∧ s.Reports session) fun _ _ hq hs =>
    ⟨hs.1.same hq.toSamePoint, ⟨hq.manual ▸ hs.2.active, hq.manual ▸ hs.2.verified,
      hq.manual ▸ hs.2.target, hq.manual ▸ hs.2.requested, hq.manual ▸ hs.2.resolved⟩⟩

/-- The worker has passed its last check with a dwell that it will call stable. -/
def passed (session : DetectorSession) (run : SingleDwell) : LabAssertion card :=
  whileLive card (fun s => s.IsStock card ∨ s.Kept card session run) fun _ _ _ hm hs => by
    rcases hm with hq | ⟨a, hok, hstep⟩
    · exact hs.imp (fun h => h.same hq.toSamePoint) fun h => h.same hq.toSamePoint
    · rcases hs with hstock | hkept
      · exact .inl (hstock.requested (Lab.requested hstep))
      · exact (hkept.requested hok hstep).symm

def ended : LabAssertion card :=
  whileLive card (Lab.Ended card) fun _ _ _ hm hs => by
    rcases hm with hq | ⟨a, hok, hstep⟩
    · exact hs.same hq.toSamePoint
    · exact hs.requested hok hstep

end LabAssertion

open LabAssertion

variable {pre : LabAssertion card} {α : Type}

theorem triple_quiet {p : LabProg α} (h : p.Keeps Lab.Quiet) : Triple pre p fun _ => pre :=
  .of_keeps (h.mono fun _ _ => .inl)

theorem attempt_quiet {p : LabM α} (h : p.run.Keeps Lab.Quiet)
    (herr : ∀ s, pre s → s.Live) : Attempt pre p (fun _ => pre) (live card) :=
  .of_keeps (h.mono fun _ _ => .inl) fun s hs => ⟨herr s hs, trivial⟩

theorem resetHardware_spec :
    Attempt (live card) (resetHardware card) (fun _ => released card) (live card) :=
  Triple.perform fun r s hs => by
    by_cases hfailed : r.failed
    · simp only [hfailed, if_true]
      exact ⟨hs.1.framed ⟨rfl, rfl, rfl, id, rfl, rfl, rfl⟩, trivial⟩
    · simp only [hfailed, Bool.false_eq_true, if_false]
      exact ⟨hs.1.framed ⟨rfl, rfl, rfl, id, rfl, rfl, rfl⟩,
        r.atStock_leaves (.inl (by simpa using hfailed))⟩

theorem disarm_spec :
    Attempt (released card) disarm (fun _ => LabAssertion.disarmed card) (live card) :=
  Triple.perform fun r s hs => by
    have hlive : Lab.Live { s with dir := clearBootFlag r s.dir } :=
      hs.1.framed ⟨rfl, rfl, rfl, id, rfl, rfl, rfl⟩
    cases r with
    | done => exact ⟨hlive, hs.2, rfl⟩
    | failed error torn => exact ⟨hlive, trivial⟩

theorem resetAndDisarm_spec :
    Attempt (live card) (resetAndDisarm card) (fun _ => LabAssertion.disarmed card)
      (live card) := by
  refine .bind resetHardware_spec fun _ => ?_
  exact .bind (.lift (triple_quiet clearAppliedProfile_quiet)) fun _ => disarm_spec

theorem replaceStatus_spec {status : ManualPointStatus} (h : status.active = false) :
    Triple (LabAssertion.disarmed card) (replaceStatus status) fun _ => stock card :=
  .perform fun _ _ hs => ⟨hs.1.framed ⟨rfl, rfl, rfl, id, rfl, rfl, rfl⟩, hs.2.1, hs.2.2, h⟩

/-- Where the worker leaves `run_lab` without an error. -/
abbrev labDone (card : VfCard) : Unit → LabAssertion card := fun _ => ended card

theorem finishStopped_spec :
    Attempt (LabAssertion.disarmed card) finishStopped (labDone card) (live card) := by
  refine .bind (.lift (replaceStatus_spec rfl)) fun _ => ?_
  refine .bind (attempt_quiet (appendJournal_quiet _) fun s hs => hs.1) fun _ => ?_
  refine .lift (.perform fun _ s hs => ?_)
  exact ⟨hs.1.framed ⟨rfl, rfl, rfl, id, rfl, rfl, rfl⟩,
    .inl ⟨hs.2.hw, hs.2.disarmed, hs.2.inactive⟩⟩

theorem finishStopped_of_stock :
    Attempt (stock card) finishStopped (labDone card) (live card) :=
  finishStopped_spec.strengthen fun _ hs => ⟨hs.1, hs.2.hw, hs.2.disarmed⟩

theorem stopAtStock_spec (h : ∀ s, pre s → s.Live) :
    Attempt pre (do resetAndDisarm card; finishStopped) (labDone card) (live card) := by
  have hreset : Attempt (live card) (resetAndDisarm card) (fun _ => LabAssertion.disarmed card)
      (live card) := resetAndDisarm_spec
  exact .bind (hreset.strengthen fun s hs => ⟨h s hs, trivial⟩) fun _ => finishStopped_spec

theorem arm_spec (offsetMhz : Int) :
    Attempt (stock card) (arm session.targetMhz session.resolvedVoltageMv offsetMhz
      "detector_lab") (fun _ => armed card session) (live card) :=
  Triple.perform fun r s hs => by
    obtain ⟨result, timestamp⟩ := r
    cases result with
    | done =>
      exact ⟨hs.1.framed ⟨rfl, rfl, rfl, id, rfl, rfl, rfl⟩, hs.2.hw,
        .inr ⟨offsetMhz, timestamp, rfl⟩⟩
    | failed error torn => exact ⟨hs.1.framed ⟨rfl, rfl, rfl, id, rfl, rfl, rfl⟩, trivial⟩

theorem applyAnchoredUndervolt_spec :
    Attempt (armed card session)
      (DetectorLab.applyAnchoredUndervolt card session.targetMhz session.resolvedVoltageMv)
      (fun _ => LabAssertion.applied card session) (live card) :=
  Triple.perform fun r s hs => by
    cases r with
    | some left => exact ⟨hs.1.framed ⟨rfl, rfl, rfl, id, rfl, rfl, rfl⟩, trivial⟩
    | none =>
      generalize happly : applyAnchoredUndervoltPoint card session.targetMhz
        session.resolvedVoltageMv s.hw = answer
      obtain ⟨result, hw⟩ := answer
      cases result with
      | error e => exact ⟨hs.1.framed ⟨rfl, rfl, rfl, id, rfl, rfl, rfl⟩, trivial⟩
      | ok =>
        exact ⟨hs.1.framed ⟨rfl, rfl, rfl, id, rfl, rfl, rfl⟩,
          hs.2.2.imp id fun hflag => ⟨⟨s.hw, hs.2.1, happly⟩, hflag⟩⟩

theorem applyResolvedPoint_spec (offsetMhz : Int) :
    Attempt (stock card) (applyResolvedPoint card session.targetMhz session.resolvedVoltageMv
      offsetMhz "detector_lab") (fun _ => LabAssertion.applied card session) (live card) :=
  .bind (arm_spec offsetMhz) fun _ => applyAnchoredUndervolt_spec

theorem reportApplied_spec :
    Triple (LabAssertion.applied card session) (reportApplied session)
      fun _ => reported card session :=
  .perform fun _ _ hs => ⟨hs.1.framed ⟨rfl, rfl, rfl, id, rfl, rfl, rfl⟩,
    hs.2.imp id fun hpoint => ⟨⟨hpoint.point, hpoint.armed⟩, ⟨rfl, rfl, rfl, rfl, rfl⟩⟩⟩

/-- What the worker knows after its last check. -/
def checked (card : VfCard) (session : DetectorSession) (run : SingleDwell) :
    Bool → LabAssertion card
  | true => live card
  | false => if run.passes session.resolvedVoltageMv then passed card session run else live card

theorem cancelledAfter_spec :
    Triple (reported card session) (cancelledAfter run) (checked card session run) := by
  unfold cancelledAfter
  split
  case isTrue => exact .ret fun s hs => ⟨hs.1, trivial⟩
  case isFalse hcompleted =>
    refine .perform fun _ s hs => ?_
    split
    case isTrue => exact ⟨hs.1, trivial⟩
    case isFalse hcancel =>
      dsimp only [checked]
      have hidle : s.request = .idle := by
        by_contra hne
        exact hcancel (hs.1.cancel hne)
      obtain ⟨hpoint, hreports⟩ := hs.2.resolve_left hcancel
      split
      case isTrue hpasses =>
        refine ⟨hs.1.framed ⟨rfl, rfl, rfl, id, rfl, rfl, rfl⟩, .inr ⟨⟨rfl, ?_, hpasses, ?_⟩,
          .inl ⟨⟨hpoint.point, hpoint.armed⟩, ?_⟩⟩⟩
        · simpa using hcompleted
        · exact ⟨hreports.active, hreports.verified, hreports.target, hreports.requested,
            hreports.resolved⟩
        · rw [show ({ s with judged := some run } : Lab).request = .idle from hidle]
          rfl
      case isFalse => exact ⟨hs.1.framed ⟨rfl, rfl, rfl, id, rfl, rfl, rfl⟩, trivial⟩

theorem returnToStock_spec :
    Attempt (live card) (returnToStock card run) (fun _ => stock card) (live card) :=
  .bind resetAndDisarm_spec fun _ => .lift (replaceStatus_spec rfl)

/-- Only a dwell that passes is kept. -/
theorem keepOrReturn_spec :
    Attempt (checked card session run false) (keepOrReturn card session run)
      (fun _ => if run.passes session.resolvedVoltageMv then passed card session run
        else stock card) (live card) := by
  unfold keepOrReturn checked
  by_cases hpasses : run.passes session.resolvedVoltageMv
  · have hkeep : (run.detectedFailure ||
        (run.inconclusiveReason session.resolvedVoltageMv).isSome) = false := by
      simpa [SingleDwell.passes] using hpasses
    simp only [hpasses, hkeep, if_true, Bool.false_eq_true, if_false]
    refine .lift (.perform fun _ s hs => ?_)
    refine ⟨hs.1.framed ⟨rfl, rfl, rfl, id, rfl, rfl, rfl⟩, ?_⟩
    rcases hs.2 with hstock | hkept
    · exact .inl ⟨hstock.hw, hstock.disarmed, hstock.inactive⟩
    · have hr := hkept.approved.reports
      refine .inr ⟨⟨hkept.approved.judged, hkept.approved.completed, hpasses,
        ⟨hr.active, hr.verified, hr.target, hr.requested, hr.resolved⟩⟩, ?_⟩
      exact hkept.place.imp
        (fun hheld => ⟨⟨hheld.onPoint.point, hheld.onPoint.armed⟩, hheld.early⟩)
        fun hdep => ⟨hdep.hw, hdep.request, hdep.disarmed⟩
  · have hreturn : (run.detectedFailure ||
        (run.inconclusiveReason session.resolvedVoltageMv).isSome) = true := by
      unfold SingleDwell.passes at hpasses
      simpa only [Bool.not_eq_true', Bool.not_eq_false] using hpasses
    simp only [hpasses, hreturn, if_true, Bool.false_eq_true, if_false]
    exact returnToStock_spec

theorem judge_spec :
    Attempt (checked card session run false) (judge card session run) (labDone card)
      (live card) := by
  have hlive : ∀ s, checked card session run false s → s.Live := by
    intro s hs
    by_cases hpasses : run.passes session.resolvedVoltageMv <;>
      simp only [checked, hpasses, if_true, Bool.false_eq_true, if_false] at hs <;> exact hs.1
  refine .bind (attempt_quiet (appendJournal_quiet _) hlive) fun _ => ?_
  refine .bind keepOrReturn_spec fun _ => ?_
  refine .lift (.perform fun _ s hs => ?_)
  split at hs
  case isTrue hpasses =>
    refine ⟨hs.1.framed ⟨rfl, rfl, rfl, id, rfl, rfl, rfl⟩, ?_⟩
    rcases hs.2 with hstock | hkept
    · exact .inl ⟨hstock.hw, hstock.disarmed, hstock.inactive⟩
    · refine .inr (.inr ⟨session, run, ⟨hkept.approved.of_eq rfl rfl, ?_⟩, ?_⟩)
      · exact hkept.place.imp
          (fun hheld => ⟨⟨hheld.onPoint.point, hheld.onPoint.armed⟩, hheld.early⟩)
          fun hdep => ⟨hdep.hw, hdep.request, hdep.disarmed⟩
      · exact congrArg some (SingleDwell.resultKey_of_passes hpasses)
  case isFalse =>
    exact ⟨hs.1.framed ⟨rfl, rfl, rfl, id, rfl, rfl, rfl⟩,
      .inl ⟨hs.2.hw, hs.2.disarmed, hs.2.inactive⟩⟩

theorem runRecipe_spec :
    Attempt (LabAssertion.applied card session) (runRecipe card session) (labDone card)
      (live card) := by
  have hlive : ∀ s, reported card session s → s.Live := fun _ hs => hs.1
  refine .bind (.lift reportApplied_spec) fun _ => ?_
  refine .bind (.lift (triple_quiet restartTimer_quiet)) fun _ => ?_
  refine .bind (.lift (triple_quiet (updateStatus_quiet (fun _ => rfl) fun _ => rfl))) fun _ => ?_
  refine .bind (attempt_quiet (appendJournal_quiet _) hlive) fun _ => ?_
  refine .bind (.lift (triple_quiet (updateStatus_quiet (fun _ => rfl) fun _ => rfl))) fun _ => ?_
  refine .bind (attempt_quiet external_quiet hlive) fun run => ?_
  refine .bind (.lift cancelledAfter_spec) fun cancelled => ?_
  cases cancelled with
  | true => exact stopAtStock_spec fun _ hs => hs.1
  | false => exact judge_spec

theorem runPoint_spec :
    Attempt (stock card) (runPoint card session) (labDone card) (live card) := by
  refine .bind (attempt_quiet external_quiet fun _ hs => hs.1) fun ⟨resolvedVoltageMv, offsetMhz⟩ =>
    ?_
  dsimp only
  split
  case isTrue => exact .throw fun _ hs => ⟨hs.1, trivial⟩
  case isFalse =>
    refine .bind (.lift (triple_quiet loadCancel_quiet)) fun cancelled => ?_
    cases cancelled with
    | true => exact finishStopped_of_stock
    | false =>
      refine .bind (applyResolvedPoint_spec offsetMhz) fun _ => ?_
      refine .bind (.lift (triple_quiet loadCancel_quiet)) fun cancelled => ?_
      cases cancelled with
      | true => exact stopAtStock_spec fun _ hs => hs.1
      | false => exact runRecipe_spec

theorem controlStock_spec {point : LabM Unit}
    (h : Attempt (stock card) point (labDone card) (live card)) :
    Attempt (stock card) (controlStock session point) (labDone card) (live card) := by
  unfold controlStock
  split
  · refine .bind (attempt_quiet runStockControlV25_quiet fun _ hs => hs.1) fun _ => ?_
    refine .bind (.lift (triple_quiet loadCancel_quiet)) fun cancelled => ?_
    cases cancelled with
    | true => exact finishStopped_of_stock
    | false => exact h
  · exact h

theorem runLab_spec : Attempt (live card) (runLab card session) (labDone card) (live card) := by
  have hlive : ∀ s, stock card s → s.Live := fun _ hs => hs.1
  refine .bind resetAndDisarm_spec fun _ => ?_
  refine .bind (.lift (replaceStatus_spec rfl)) fun _ => ?_
  refine .bind (attempt_quiet (appendJournal_quiet _) hlive) fun _ => ?_
  refine .bind (attempt_quiet external_quiet hlive) fun _ => ?_
  refine .bind (attempt_quiet (appendJournal_quiet _) hlive) fun _ => ?_
  refine .bind (.lift (triple_quiet loadCancel_quiet)) fun cancelled => ?_
  cases cancelled with
  | true => exact finishStopped_of_stock
  | false => exact controlStock_spec runPoint_spec

/-- Stock, or a status that says that the recovery failed. -/
def recovered (card : VfCard) : LabAssertion card :=
  whileLive card (fun s => s.IsStock card ∨ s.Unverified) fun _ _ _ hm hs => by
    rcases hm with hq | ⟨a, hok, hstep⟩
    · exact hs.imp (fun h => h.same hq.toSamePoint) fun h => h.of_eq hq.manual
    · rcases hs with hstock | hunverified
      · exact .inl (hstock.requested (Lab.requested hstep))
      · exact (hunverified.requested hok (Lab.requested hstep)).symm

theorem recoverStock_spec {note : String → String} {failed : String}
    (h : failed = environmentErrorNote ∨ failed = tdrErrorNote) :
    Triple (live card) (recoverStock card note failed) fun _ => recovered card := by
  refine .bind resetAndDisarm_spec fun r => ?_
  cases r with
  | ok =>
    refine .bind (replaceStatus_spec rfl) fun _ => ?_
    exact .ret fun _ hs => ⟨hs.1, .inl hs.2⟩
  | error e =>
    have hreport : Triple (live card) (updateManual fun manual =>
        { manual with active := true, verified := false, note := failed })
        fun _ => recovered card :=
      .perform fun _ _ hs =>
        ⟨hs.1.framed ⟨rfl, rfl, rfl, id, rfl, rfl, rfl⟩, .inr ⟨rfl, rfl, h⟩⟩
    exact .bind hreport fun _ => .ret fun _ => id

theorem updateStatus_recovered {update : DetectorLabStatus → DetectorLabStatus}
    (h : ∀ current, (update current).running = current.running) :
    Triple (recovered card) (updateStatus update) fun _ => ended card :=
  .perform fun _ s hs => ⟨hs.1.framed ⟨rfl, h s.status, rfl, id, rfl, rfl, rfl⟩,
    hs.2.elim (fun hstock => .inl ⟨hstock.hw, hstock.disarmed, hstock.inactive⟩)
      fun hunverified => .inr (.inl (hunverified.of_eq rfl))⟩

theorem finishEnvironmentError_spec (error : String) :
    Triple (live card) (finishEnvironmentError card error) fun _ => ended card := by
  refine .bind (recoverStock_spec (.inl rfl)) fun _ => ?_
  refine .bind (triple_quiet (appendJournal_quiet _)) fun _ => ?_
  exact updateStatus_recovered fun _ => rfl

theorem finishTdrError_spec (event : String) :
    Triple (live card) (finishTdrError card event) fun _ => ended card := by
  refine .bind (triple_quiet (.perform fun _ s => .refl s)) fun _ => ?_
  refine .bind (recoverStock_spec (.inr rfl)) fun _ => ?_
  refine .bind (triple_quiet (appendJournal_quiet _)) fun _ => ?_
  exact updateStatus_recovered fun _ => rfl

/-- Whatever the requests do meanwhile, a worker ends where a session may end. -/
theorem worker_spec : Triple (live card) (worker card session) fun _ => ended card := by
  have hlab : Triple (live card) (runLab card session).run
      (Assertion.either (labDone card) (live card)) := runLab_spec
  refine .bind hlab fun result => ?_
  refine .bind (triple_quiet (.perform fun _ s => .refl s)) fun event => ?_
  cases event with
  | some event =>
    refine .bind (triple_quiet (noteDetectorReset_quiet event)) fun _ => ?_
    refine (finishTdrError_spec event).strengthen fun s hs => ?_
    cases result with
    | ok => exact ⟨hs.1, trivial⟩
    | error e => exact hs
  | none =>
    cases result with
    | ok => exact .ret fun _ => id
    | error e => exact finishEnvironmentError_spec e

end Nidavellir.DetectorLab

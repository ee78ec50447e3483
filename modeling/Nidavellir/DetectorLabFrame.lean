import Nidavellir.DetectorLabPoint

namespace Nidavellir.DetectorLab

open Interference SafeLoopStore

/-- Every action of a worker. -/
structure Lab.Frame (s s' : Lab) : Prop where
  running : s'.running = s.running
  statusRunning : s'.status.running = s.status.running
  request : s'.request = s.request
  cancel : s.cancel = true → s'.cancel = true
  record : s'.dir.record = s.dir.record
  ledger : s'.ledger = s.ledger
  observations : s'.observations = s.observations

/-- Two states that agree on all that the end of a session speaks of. -/
structure Lab.SamePoint (s s' : Lab) : Prop where
  request : s'.request = s.request
  hw : s'.hw = s.hw
  bootFlag : s'.dir.bootFlag = s.dir.bootFlag
  manual : s'.manual = s.manual
  judged : s'.judged = s.judged
  result : s'.status.result = s.status.result

/-- An action that touches neither the point nor the result. -/
structure Lab.Quiet (s s' : Lab) : Prop extends s.Frame s', s.SamePoint s'

theorem Lab.Frame.refl (s : Lab) : s.Frame s := ⟨rfl, rfl, rfl, id, rfl, rfl, rfl⟩

theorem Lab.Quiet.refl (s : Lab) : s.Quiet s := ⟨.refl s, rfl, rfl, rfl, rfl, rfl⟩

variable {card : VfCard} {session : DetectorSession}

theorem updateStatus_frame {update : DetectorLabStatus → DetectorLabStatus}
    (h : ∀ current, (update current).running = current.running) :
    (updateStatus update).Keeps Lab.Frame :=
  .modify fun s => ⟨rfl, h s.status, rfl, id, rfl, rfl, rfl⟩

theorem updateStatus_quiet {update : DetectorLabStatus → DetectorLabStatus}
    (h : ∀ current, (update current).running = current.running)
    (hresult : ∀ current, (update current).result = current.result) :
    (updateStatus update).Keeps Lab.Quiet :=
  .modify fun s => ⟨⟨rfl, h s.status, rfl, id, rfl, rfl, rfl⟩, rfl, rfl, rfl, rfl,
    hresult s.status⟩

theorem external_quiet {α : Type} : (external : LabM α).run.Keeps Lab.Quiet :=
  .perform fun _ s => .refl s

theorem loadCancel_quiet : loadCancel.Keeps Lab.Quiet := .perform fun _ s => .refl s

theorem restartTimer_quiet : restartTimer.Keeps Lab.Quiet :=
  .perform fun _ _ => ⟨⟨rfl, rfl, rfl, id, rfl, rfl, rfl⟩, rfl, rfl, rfl, rfl, rfl⟩

theorem noteDetectorReset_quiet (event : String) : (noteDetectorReset event).Keeps Lab.Quiet :=
  .modify fun _ => ⟨⟨rfl, rfl, rfl, id, rfl, rfl, rfl⟩, rfl, rfl, rfl, rfl, rfl⟩

theorem clearAppliedProfile_quiet : clearAppliedProfile.Keeps Lab.Quiet :=
  .perform fun _ _ => ⟨⟨rfl, rfl, rfl, id, rfl, rfl, rfl⟩, rfl, rfl, rfl, rfl, rfl⟩

theorem appendJournal_quiet (event : String) : (appendJournal event).run.Keeps Lab.Quiet :=
  .perform fun r s => by
    split
    · exact ⟨⟨rfl, rfl, rfl, id, rfl, rfl, rfl⟩, rfl, rfl, rfl, rfl, rfl⟩
    · exact .refl s

theorem keeps_frame {α : Type} {p : LabProg α} (h : p.Keeps Lab.Quiet) : p.Keeps Lab.Frame :=
  h.mono fun _ _ => Lab.Quiet.toFrame

theorem updateManual_frame (update : ManualPointStatus → ManualPointStatus) :
    (updateManual update).Keeps Lab.Frame :=
  .modify fun _ => ⟨rfl, rfl, rfl, id, rfl, rfl, rfl⟩

theorem replaceStatus_frame (status : ManualPointStatus) :
    (replaceStatus status).Keeps Lab.Frame :=
  .modify fun _ => ⟨rfl, rfl, rfl, id, rfl, rfl, rfl⟩

theorem resetAndDisarm_frame : (resetAndDisarm card).run.Keeps Lab.Frame := by
  refine .attempt_bind (.perform fun _ _ => ⟨rfl, rfl, rfl, id, rfl, rfl, rfl⟩) fun _ => ?_
  refine .attempt_bind (.lift (keeps_frame clearAppliedProfile_quiet))
    fun _ => ?_
  exact .perform fun _ _ => ⟨rfl, rfl, rfl, id, rfl, rfl, rfl⟩

theorem applyResolvedPoint_frame (targetMhz resolvedVoltageMv : Nat) (offsetMhz : Int)
    (source : String) :
    (applyResolvedPoint card targetMhz resolvedVoltageMv offsetMhz source).run.Keeps
      Lab.Frame := by
  refine .attempt_bind (.perform fun _ _ => ⟨rfl, rfl, rfl, id, rfl, rfl, rfl⟩) fun _ => ?_
  refine .perform fun r s => ?_
  cases r with
  | none => exact ⟨rfl, rfl, rfl, id, rfl, rfl, rfl⟩
  | some left => exact ⟨rfl, rfl, rfl, id, rfl, rfl, rfl⟩

theorem finishStopped_frame : finishStopped.run.Keeps Lab.Frame := by
  refine .attempt_bind (.lift (replaceStatus_frame _)) fun _ => ?_
  refine .attempt_bind (keeps_frame (appendJournal_quiet _)) fun _ => ?_
  exact .lift (updateStatus_frame fun _ => rfl)

theorem runSegments_quiet (segments : List String) (index : Nat) (journalError : Option String) :
    (runSegments segments index journalError).Keeps Lab.Quiet := by
  induction segments generalizing index journalError with
  | nil => trivial
  | cons phase rest ih =>
    refine .bind (updateStatus_quiet (fun _ => rfl) fun _ => rfl) fun _ => ?_
    refine .bind (appendJournal_quiet _) fun r => ?_
    cases r with
    | ok => exact ih (index + 1) journalError
    | error e =>
      refine .bind (.modify fun _ => ?_) fun _ => ih (index + 1) (some e)
      exact ⟨⟨rfl, rfl, rfl, fun _ => rfl, rfl, rfl, rfl⟩, rfl, rfl, rfl, rfl, rfl⟩

theorem stockControlVerdict_quiet (run : StressRun) :
    (stockControlVerdict run).run.Keeps Lab.Quiet := by
  unfold stockControlVerdict
  split
  · trivial
  · split
    · trivial
    · exact .lift (updateStatus_quiet (fun _ => rfl) fun _ => rfl)

theorem runStockControlV25_quiet : runStockControlV25.run.Keeps Lab.Quiet := by
  refine .attempt_bind (.lift (updateStatus_quiet (fun _ => rfl) fun _ => rfl)) fun _ => ?_
  refine .attempt_bind (appendJournal_quiet _) fun _ => ?_
  refine .attempt_bind external_quiet fun _ => ?_
  refine .attempt_bind external_quiet fun segments => ?_
  refine .attempt_bind (.lift (runSegments_quiet segments 0 none)) fun journalError => ?_
  refine .attempt_bind external_quiet fun run => ?_
  cases journalError with
  | some e => trivial
  | none =>
    refine .attempt_bind (appendJournal_quiet _) fun _ => ?_
    refine .attempt_bind (.lift loadCancel_quiet) fun cancelled => ?_
    cases cancelled with
    | true => trivial
    | false => exact stockControlVerdict_quiet run

theorem cancelledAfter_frame (run : SingleDwell) : (cancelledAfter run).Keeps Lab.Frame := by
  unfold cancelledAfter
  split
  · trivial
  · refine .perform fun _ s => ?_
    split
    · exact .refl s
    · exact ⟨rfl, rfl, rfl, id, rfl, rfl, rfl⟩

theorem returnToStock_frame (run : SingleDwell) : (returnToStock card run).run.Keeps Lab.Frame :=
  .attempt_bind resetAndDisarm_frame fun _ => .lift (replaceStatus_frame _)

theorem keepOrReturn_frame (run : SingleDwell) :
    (keepOrReturn card session run).run.Keeps Lab.Frame := by
  unfold keepOrReturn
  split
  · exact returnToStock_frame run
  · exact .lift (updateManual_frame _)

theorem judge_frame (run : SingleDwell) : (judge card session run).run.Keeps Lab.Frame := by
  refine .attempt_bind (keeps_frame (appendJournal_quiet _)) fun _ => ?_
  exact .attempt_bind (keepOrReturn_frame run) fun _ => .lift (updateStatus_frame fun _ => rfl)

theorem runRecipe_frame : (runRecipe card session).run.Keeps Lab.Frame := by
  refine .attempt_bind (.lift (.perform fun _ _ => ⟨rfl, rfl, rfl, id, rfl, rfl, rfl⟩)) fun _ => ?_
  refine .attempt_bind (.lift (keeps_frame restartTimer_quiet)) fun _ => ?_
  refine .attempt_bind (.lift (updateStatus_frame fun _ => rfl)) fun _ => ?_
  refine .attempt_bind (keeps_frame (appendJournal_quiet _)) fun _ => ?_
  refine .attempt_bind (.lift (updateStatus_frame fun _ => rfl)) fun _ => ?_
  refine .attempt_bind (keeps_frame external_quiet) fun run => ?_
  refine .attempt_bind (.lift (cancelledAfter_frame run)) fun cancelled => ?_
  cases cancelled with
  | true => exact .attempt_bind resetAndDisarm_frame fun _ => finishStopped_frame
  | false => exact judge_frame run

theorem runPoint_frame : (runPoint card session).run.Keeps Lab.Frame := by
  refine .attempt_bind (keeps_frame external_quiet) fun ⟨mv, offsetMhz⟩ => ?_
  dsimp only
  split
  · trivial
  refine .attempt_bind (.lift (keeps_frame loadCancel_quiet))
    fun cancelled => ?_
  cases cancelled with
  | true => exact finishStopped_frame
  | false =>
    refine .attempt_bind (applyResolvedPoint_frame _ _ _ _) fun _ => ?_
    refine .attempt_bind (.lift (keeps_frame loadCancel_quiet))
      fun cancelled => ?_
    cases cancelled with
    | true => exact .attempt_bind resetAndDisarm_frame fun _ => finishStopped_frame
    | false => exact runRecipe_frame

theorem controlStock_frame {point : LabM Unit} (h : point.run.Keeps Lab.Frame) :
    (controlStock session point).run.Keeps Lab.Frame := by
  unfold controlStock
  split
  · refine .attempt_bind (keeps_frame runStockControlV25_quiet) fun _ => ?_
    refine .attempt_bind (.lift (keeps_frame loadCancel_quiet))
      fun cancelled => ?_
    cases cancelled with
    | true => exact finishStopped_frame
    | false => exact h
  · exact h

theorem runLab_frame : (runLab card session).run.Keeps Lab.Frame := by
  refine .attempt_bind resetAndDisarm_frame fun _ => ?_
  refine .attempt_bind (.lift (replaceStatus_frame _)) fun _ => ?_
  refine .attempt_bind (keeps_frame (appendJournal_quiet _)) fun _ => ?_
  refine .attempt_bind (keeps_frame external_quiet) fun _ => ?_
  refine .attempt_bind (keeps_frame (appendJournal_quiet _)) fun _ => ?_
  refine .attempt_bind (.lift (keeps_frame loadCancel_quiet))
    fun cancelled => ?_
  cases cancelled with
  | true => exact finishStopped_frame
  | false => exact controlStock_frame runPoint_frame

theorem recoverStock_frame (recovered : String → String) (failed : String) :
    (recoverStock card recovered failed).Keeps Lab.Frame := by
  refine .bind resetAndDisarm_frame fun r => ?_
  cases r with
  | ok => exact .bind (replaceStatus_frame _) fun _ => trivial
  | error e => exact .bind (updateManual_frame _) fun _ => trivial

theorem finishEnvironmentError_frame (error : String) :
    (finishEnvironmentError card error).Keeps Lab.Frame := by
  refine .bind (recoverStock_frame _ _) fun _ => ?_
  refine .bind (keeps_frame (appendJournal_quiet _)) fun _ => ?_
  exact updateStatus_frame fun _ => rfl

theorem finishTdrError_frame (event : String) :
    (finishTdrError card event).Keeps Lab.Frame := by
  refine .bind (.perform fun _ s => .refl s) fun _ => ?_
  refine .bind (recoverStock_frame _ _) fun _ => ?_
  refine .bind (keeps_frame (appendJournal_quiet _)) fun _ => ?_
  exact updateStatus_frame fun _ => rfl

/-- No action of a worker touches `running`, the record, the ledger or the observations. -/
theorem worker_frame : (worker card session).Keeps Lab.Frame := by
  refine .bind runLab_frame fun result => ?_
  refine .bind (.perform fun _ s => .refl s) fun event => ?_
  cases event with
  | some event =>
    exact .bind (keeps_frame (noteDetectorReset_quiet event))
      fun _ => finishTdrError_frame event
  | none =>
    cases result with
    | ok => trivial
    | error e => exact finishEnvironmentError_frame e

end Nidavellir.DetectorLab

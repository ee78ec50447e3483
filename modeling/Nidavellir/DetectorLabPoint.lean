import Nidavellir.DetectorSessions

namespace Nidavellir

open PointWrites

theorem VfCard.atStock_released (card : VfCard) (hw : Hardware) :
    card.AtStock (card.released hw) where
  clockCap := rfl
  voltageLock := rfl
  memOffset := rfl
  coreOffset := rfl
  offsets := by
    intro bin hbin
    have hkeys : (card.table.map fun bin => (bin.index, (0 : Int))).map Prod.fst =
        card.table.map VfBin.index := by
      rw [List.map_map]
      rfl
    exact writeAll_of_mem (hkeys ▸ card.distinct) (List.mem_map.mpr ⟨bin, hbin, rfl⟩)

namespace DetectorLab

open Interference SafeLoopStore

variable {card : VfCard} {session : DetectorSession} {run : SingleDwell} {s s' : Lab}

theorem HardwareReset.atStock_leaves (self : HardwareReset card) {hw : Hardware}
    (h : self.failed = false ∨ card.AtStock hw) : card.AtStock (self.leaves hw) := by
  unfold HardwareReset.leaves
  split
  case isTrue hf =>
    exact self.fault.atStock hw (h.resolve_left (by simp [hf]))
  case isFalse => exact card.atStock_released hw

/-- The dwell is one that the worker calls stable. -/
def SingleDwell.passes (run : SingleDwell) (resolvedVoltageMv : Nat) : Bool :=
  !(run.detectedFailure || (run.inconclusiveReason resolvedVoltageMv).isSome)

/-- What the claim of a stable point rests on. -/
structure SingleDwell.Accepted (run : SingleDwell) (resolvedVoltageMv : Nat) : Prop where
  workload : run.result = .stable
  coverage : ∃ coverage, run.qualificationCoverage = some coverage ∧ coverage.verdict = .pass
  samples : 3 ≤ run.voltSamples.length
  ceiling : ∀ mv ∈ run.voltSamples, mv ≤ resolvedVoltageMv

theorem SingleDwell.not_crashed (h : run.result = .stable) : run.crashed = false := by
  unfold SingleDwell.result at h
  split at h
  next => cases h
  next hran => exact Bool.eq_false_iff.mpr hran

theorem SingleDwell.voltageReason_eq_none {resolvedVoltageMv : Nat}
    (h : run.voltageReason resolvedVoltageMv = none) :
    3 ≤ run.voltSamples.length ∧ ∀ mv ∈ run.voltSamples, mv ≤ resolvedVoltageMv := by
  unfold SingleDwell.voltageReason SingleDwell.voltSampleCount SingleDwell.voltMaxMv at h
  split at h
  · cases h
  case isFalse hcount =>
    refine ⟨by omega, fun mv hmv => ?_⟩
    split at h
    case h_1 observed hmax =>
      split at h
      case isTrue hle => exact (List.max?_eq_some_iff.mp hmax).2 mv hmv |>.trans hle
      case isFalse => cases h
    case h_2 => cases h

theorem SingleDwell.accepted_of_passes {resolvedVoltageMv : Nat}
    (h : run.passes resolvedVoltageMv) : run.Accepted resolvedVoltageMv := by
  simp only [SingleDwell.passes, Bool.not_eq_true', Bool.or_eq_false_iff,
    Option.isSome_eq_false_iff, Option.isNone_iff_eq_none] at h
  obtain ⟨hfail, hreason⟩ := h
  simp only [SingleDwell.inconclusiveReason, hfail, Bool.false_eq_true, if_false,
    Option.orElse_eq_orElse, Option.orElse_eq_or, Option.or_eq_none_iff] at hreason
  obtain ⟨hvoltage, hcoverage⟩ := hreason
  simp only [SingleDwell.detectedFailure, Bool.or_eq_false_iff, Bool.not_eq_false'] at hfail
  have hresult : run.result = .stable := by
    simpa [StabilityResult.isStable] using hfail.1
  obtain ⟨hcount, hceiling⟩ := SingleDwell.voltageReason_eq_none hvoltage
  obtain ⟨coverage, hsome⟩ :=
    Option.isSome_iff_exists.mp (run.covered (SingleDwell.not_crashed hresult))
  refine ⟨hresult, ⟨coverage, hsome, ?_⟩, hcount, hceiling⟩
  by_contra hverdict
  simp [SingleDwell.coverageReason, hsome, hverdict] at hcoverage

theorem SingleDwell.resultKey_of_passes {resolvedVoltageMv : Nat}
    (h : run.passes resolvedVoltageMv) : run.resultKey resolvedVoltageMv = "stable" := by
  simp only [SingleDwell.passes, Bool.not_eq_true', Bool.or_eq_false_iff] at h
  have hcoverage : run.coverageFailed = false := by
    have := h.1
    simp only [SingleDwell.detectedFailure, Bool.or_eq_false_iff] at this
    exact this.2
  simp [SingleDwell.resultKey, h.1, h.2, hcoverage]

namespace Lab

/-- The GPU is at stock, the flag is disarmed and the manual status inactive. -/
structure IsStock (card : VfCard) (s : Lab) : Prop where
  hw : card.AtStock s.hw
  disarmed : s.dir.bootFlag = .absent
  inactive : s.manual.active = false

/-- The verified point of the session is on the card and its flag is armed. -/
structure OnPoint (card : VfCard) (session : DetectorSession) (s : Lab) : Prop where
  point : ∃ hw, card.AtStock hw ∧ applyAnchoredUndervoltPoint card session.targetMhz
    session.resolvedVoltageMv hw = (.ok (), s.hw)
  armed : ∃ offsetMhz timestamp, s.dir.bootFlag = .holds
    ⟨pointIntent session.targetMhz session.resolvedVoltageMv offsetMhz, "detector_lab", timestamp⟩

structure Reports (session : DetectorSession) (s : Lab) : Prop where
  active : s.manual.active = true
  verified : s.manual.verified = true
  target : s.manual.targetMhz = some session.targetMhz
  requested : s.manual.requestedVoltageMv = some session.requestedVoltageMv
  resolved : s.manual.resolvedVoltageMv = some session.resolvedVoltageMv

/-- A recovery of the worker failed and the status says so. -/
structure Unverified (s : Lab) : Prop where
  active : s.manual.active = true
  unverified : s.manual.verified = false
  reset : s.manual.note = environmentErrorNote ∨ s.manual.note = tdrErrorNote

/-- The worker judged the dwell stable and the point is still reported. -/
structure Approved (session : DetectorSession) (run : SingleDwell) (s : Lab) : Prop where
  judged : s.judged = some run
  completed : run.cancelled = false
  passes : run.passes session.resolvedVoltageMv
  reports : s.Reports session

end Lab

/-- The requests of which the condition speaks: a `ResetGpuTuning` does not fail while the worker
approves the point, and it does not report stock over a failed recovery of the worker's. -/
def Lab.allows (s : Lab) : RequestAction card → Prop
  | .resetHardware result => result.failed → ∀ session run, ¬ s.Approved session run
  | .clearBootFlag result =>
    s.request ≠ .recordSaved none ∨ result.error.isSome → ∀ session run, ¬ s.Approved session run
  | .markReset =>
    s.manual.active = true → s.manual.verified = false →
      card.AtStock s.hw ∧ s.dir.bootFlag = .absent
  | _ => True

structure Lab.Requested (a : RequestAction card) (s s' : Lab) : Prop where
  running : s'.running = s.running
  statusRunning : s'.status.running = s.status.running
  result : s'.status.result = s.status.result
  judged : s'.judged = s.judged
  ledger : s'.ledger = s.ledger
  observations : s'.observations = s.observations
  blacklist : (loadRecord s'.dir).blacklist ⊆ (loadRecord s.dir).blacklist
  cancel : (s.request ≠ .idle → s.cancel = true) → s'.cancel = true
  atStock : card.AtStock s.hw → card.AtStock s'.hw
  bootFlag : s'.dir.bootFlag = s.dir.bootFlag ∨ s'.dir.bootFlag = .absent
  manual : s'.manual = s.manual ∨ a = .markReset ∧
    s'.manual.active = false ∧ s'.hw = s.hw ∧ s'.dir.bootFlag = s.dir.bootFlag

theorem loadRecord_saveRecord (record : SafeLoopRecord) (result : FileResult) (dir : DataDir) :
    loadRecord (saveRecord record result dir) = record ∨
      loadRecord (saveRecord record result dir) = {} ∨
      loadRecord (saveRecord record result dir) = loadRecord dir := by
  cases result with
  | done => exact .inl rfl
  | failed error torn =>
    cases torn with
    | true => exact .inr (.inl rfl)
    | false => exact .inr (.inr rfl)

theorem blacklist_saveLatch (result : FileResult) (dir : DataDir) :
    (loadRecord (saveRecord (loadRecord dir).clearRecoveryLatch result dir)).blacklist ⊆
      (loadRecord dir).blacklist := by
  rcases loadRecord_saveRecord (loadRecord dir).clearRecoveryLatch result dir with h | h | h <;>
    rw [h]
  · exact List.Subset.refl _
  · exact List.nil_subset _
  · exact List.Subset.refl _

theorem Lab.requested {a : RequestAction card} (h : s.requestStep a = some s') :
    s.Requested a s' := by
  cases a with
  | cancelLab thenReset =>
    simp only [Lab.requestStep] at h
    split at h
    · cases h
      exact ⟨rfl, rfl, rfl, rfl, rfl, rfl, List.Subset.refl _, fun _ => rfl, id, .inl rfl, .inl rfl⟩
    · cases h
  | noteStopping =>
    simp only [Lab.requestStep] at h
    split at h
    case h_1 thenReset hstop =>
      cases h
      refine ⟨rfl, ?_, ?_, rfl, rfl, rfl, List.Subset.refl _, fun hc => hc (by simp [hstop]), id,
        .inl rfl, .inl rfl⟩ <;> dsimp only <;> split <;> rfl
    case h_2 => cases h
  | resetHardware result =>
    simp only [Lab.requestStep] at h
    split at h
    case isTrue hreq =>
      cases h
      exact ⟨rfl, rfl, rfl, rfl, rfl, rfl, List.Subset.refl _, fun hc => hc (by simp [hreq]),
        fun hw => result.atStock_leaves (.inr hw), .inl rfl, .inl rfl⟩
    case isFalse => cases h
  | clearApplied result =>
    simp only [Lab.requestStep] at h
    split at h
    case isTrue hreq =>
      cases h
      exact ⟨rfl, rfl, rfl, rfl, rfl, rfl, List.Subset.refl _, fun hc => hc (by simp [hreq]), id,
        .inl rfl, .inl rfl⟩
    case isFalse => cases h
  | saveRecord result =>
    simp only [Lab.requestStep] at h
    split at h
    case isTrue hreq =>
      cases h
      exact ⟨rfl, rfl, rfl, rfl, rfl, rfl, blacklist_saveLatch result s.dir,
        fun hc => hc (by simp [hreq]), id, .inl rfl, .inl rfl⟩
    case isFalse => cases h
  | clearBootFlag result =>
    simp only [Lab.requestStep] at h
    split at h
    case h_1 recordError hreq =>
      cases h
      refine ⟨rfl, rfl, rfl, rfl, rfl, rfl, List.Subset.refl _, fun hc => hc (by simp [hreq]), id,
        ?_, .inl rfl⟩
      rcases result.remove_cases s.dir.bootFlag with ⟨-, hr⟩ | ⟨-, hr⟩
      · exact .inr hr
      · exact .inl hr
    case h_2 => cases h
  | markReset =>
    simp only [Lab.requestStep] at h
    split at h
    case isTrue hreq =>
      cases h
      exact ⟨rfl, rfl, rfl, rfl, rfl, rfl, List.Subset.refl _, fun hc => hc (by simp [hreq]), id,
        .inl rfl, .inr ⟨rfl, rfl, rfl, rfl⟩⟩
    case isFalse => cases h

theorem Lab.IsStock.requested {a : RequestAction card} (h : s.IsStock card)
    (hs : s.Requested a s') : s'.IsStock card where
  hw := hs.atStock h.hw
  disarmed := hs.bootFlag.elim (fun he => he.trans h.disarmed) id
  inactive := hs.manual.elim (fun he => he ▸ h.inactive) fun he => he.2.1

theorem Lab.Unverified.requested {a : RequestAction card} (h : s.Unverified) (hok : s.allows a)
    (hs : s.Requested a s') : s'.Unverified ∨ s'.IsStock card := by
  rcases hs.manual with he | ⟨rfl, hinactive, hhw, hflag⟩
  · exact .inl ⟨he ▸ h.active, he ▸ h.unverified, he ▸ h.reset⟩
  · obtain ⟨hstock, hdisarmed⟩ := hok h.active h.unverified
    exact .inr ⟨hhw ▸ hstock, hflag ▸ hdisarmed, hinactive⟩

/-- A reset that has not written the card yet. -/
def Request.early : Request → Bool
  | .idle | .stopping _ | .resetting => true
  | _ => false

namespace Lab

/-- A reset is on its way from an approved point to stock. -/
structure Departing (card : VfCard) (s : Lab) : Prop where
  hw : card.AtStock s.hw
  request : s.request.early = false
  disarmed : s.request = .flagCleared → s.dir.bootFlag = .absent

structure Held (card : VfCard) (session : DetectorSession) (s : Lab) : Prop where
  onPoint : s.OnPoint card session
  early : s.request.early = true

/-- The approved point is on the card, or a reset is taking it back. -/
structure Kept (card : VfCard) (session : DetectorSession) (run : SingleDwell) (s : Lab) :
    Prop where
  approved : s.Approved session run
  place : s.Held card session ∨ s.Departing card

/-- Where a session may end. -/
def Ended (card : VfCard) (s : Lab) : Prop :=
  s.IsStock card ∨ s.Unverified ∨
    ∃ session run, s.Kept card session run ∧ s.status.result = some "stable"

end Lab

theorem Lab.Approved.of_eq (h : s.Approved session run) (hjudged : s'.judged = s.judged)
    (hmanual : s'.manual = s.manual) : s'.Approved session run where
  judged := hjudged.trans h.judged
  completed := h.completed
  passes := h.passes
  reports := ⟨hmanual ▸ h.reports.active, hmanual ▸ h.reports.verified,
    hmanual ▸ h.reports.target, hmanual ▸ h.reports.requested, hmanual ▸ h.reports.resolved⟩

theorem Lab.Kept.requested {a : RequestAction card} (h : s.Kept card session run)
    (hok : s.allows a) (hs : s.requestStep a = some s') :
    s'.Kept card session run ∨ s'.IsStock card := by
  obtain ⟨happ, hplace⟩ := h
  cases a with
  | cancelLab thenReset =>
    simp only [Lab.requestStep] at hs
    split at hs
    case isTrue hreq =>
      cases hs
      refine .inl ⟨happ.of_eq rfl rfl, .inl ?_⟩
      rcases hplace with hheld | hdep
      · exact ⟨⟨hheld.onPoint.point, hheld.onPoint.armed⟩, rfl⟩
      · exact absurd hdep.request (by simp [hreq, Request.early])
    case isFalse => cases hs
  | noteStopping =>
    simp only [Lab.requestStep] at hs
    split at hs
    case h_1 thenReset hreq =>
      cases hs
      refine .inl ⟨happ.of_eq rfl rfl, .inl ?_⟩
      rcases hplace with hheld | hdep
      · refine ⟨⟨hheld.onPoint.point, hheld.onPoint.armed⟩, ?_⟩
        cases thenReset <;> rfl
      · exact absurd hdep.request (by simp [hreq, Request.early])
    case h_2 => cases hs
  | resetHardware result =>
    simp only [Lab.requestStep] at hs
    split at hs
    case isTrue hreq =>
      cases hs
      have hdone : result.failed = false := by
        by_contra hfailed
        exact hok (by simpa using hfailed) session run happ
      refine .inl ⟨happ.of_eq rfl rfl, .inr ⟨result.atStock_leaves (.inl hdone), ?_, ?_⟩⟩
      · simp [hdone, Request.early]
      · simp [hdone]
    case isFalse => cases hs
  | clearApplied result =>
    simp only [Lab.requestStep] at hs
    split at hs
    case isTrue hreq =>
      cases hs
      refine .inl ⟨happ.of_eq rfl rfl, .inr ?_⟩
      rcases hplace with hheld | hdep
      · exact absurd hheld.early (by simp [hreq, Request.early])
      · exact ⟨hdep.hw, rfl, by rintro ⟨⟩⟩
    case isFalse => cases hs
  | saveRecord result =>
    simp only [Lab.requestStep] at hs
    split at hs
    case isTrue hreq =>
      cases hs
      refine .inl ⟨happ.of_eq rfl rfl, .inr ?_⟩
      rcases hplace with hheld | hdep
      · exact absurd hheld.early (by simp [hreq, Request.early])
      · exact ⟨hdep.hw, rfl, by rintro ⟨⟩⟩
    case isFalse => cases hs
  | clearBootFlag result =>
    have hdone : s.request = .recordSaved none ∧ result.error = none := by
      by_contra hnot
      refine hok ?_ session run happ
      by_cases hreq : s.request = .recordSaved none
      · exact .inr (Option.isSome_iff_ne_none.mpr fun he => hnot ⟨hreq, he⟩)
      · exact .inl hreq
    obtain ⟨hreq, herror⟩ := hdone
    simp only [Lab.requestStep, hreq, herror, Option.isSome_none, Bool.or_self,
      Bool.false_eq_true, if_false, Option.some.injEq] at hs
    subst hs
    refine .inl ⟨happ.of_eq rfl rfl, .inr ?_⟩
    rcases hplace with hheld | hdep
    · exact absurd hheld.early (by simp [hreq, Request.early])
    · refine ⟨hdep.hw, rfl, fun _ => ?_⟩
      cases result with
      | done => rfl
      | failed error torn => cases herror
  | markReset =>
    simp only [Lab.requestStep] at hs
    split at hs
    case isTrue hreq =>
      cases hs
      rcases hplace with hheld | hdep
      · exact absurd hheld.early (by simp [hreq, Request.early])
      · exact .inr ⟨hdep.hw, hdep.disarmed hreq, rfl⟩
    case isFalse => cases hs

theorem Lab.Ended.requested {a : RequestAction card} (h : s.Ended card) (hok : s.allows a)
    (hs : s.requestStep a = some s') : s'.Ended card := by
  have hreq := Lab.requested hs
  rcases h with hstock | hunverified | ⟨session, run, hkept, hresult⟩
  · exact .inl (hstock.requested hreq)
  · rcases hunverified.requested hok hreq with hu | hstock
    · exact .inr (.inl hu)
    · exact .inl hstock
  · rcases hkept.requested hok hs with hk | hstock
    · exact .inr (.inr ⟨session, run, hk, hreq.result.trans hresult⟩)
    · exact .inl hstock

end DetectorLab

end Nidavellir

import Nidavellir.Lib.Runs
import Nidavellir.SafeLoop

namespace Nidavellir

open Runs

inductive SafeLoopCall
  | boot (bootFlag : Option BootFlag) (bugcheck : CrashClass)
  | markValidated (point : TuningPoint)
  | clearRecoveryLatch
  | recordForgeIncident (incident : ForgeIncident)
  | acknowledgeForgeIncident

def SafeLoopRecord.after (record : SafeLoopRecord) : SafeLoopCall → SafeLoopRecord
  | .boot bootFlag bugcheck => (recover record bootFlag bugcheck).1
  | .markValidated point => record.markValidated point
  | .clearRecoveryLatch => record.clearRecoveryLatch
  | .recordForgeIncident incident => (record.recordForgeIncident incident).1
  | .acknowledgeForgeIncident => record.acknowledgeForgeIncident.1

/-- Boots and operator calls on the persisted record, from the default record. -/
def safeLoop : Machine SafeLoopRecord SafeLoopCall where
  init record := record = {}
  step record call record' := record' = record.after call

def SafeLoopRecord.safe (record : SafeLoopRecord) (point : TuningPoint) : Prop :=
  point.isStock ∨ ¬ record.isBlacklisted point

def SafeLoopRecord.LastValidatedSafe (record : SafeLoopRecord) : Prop :=
  ∀ point, record.lastValidated = some point → record.safe point

/-- A step that leaves the last validated point outside the blacklist: what is validated is not
blacklisted, and no crash is learnt within its radius of the last validated point. -/
def SafeLoopRecord.sparesLastValidated (record : SafeLoopRecord) : SafeLoopCall → Prop
  | .boot (some flag) bugcheck =>
    tripsSafeMode record flag bugcheck ∨ record.isBlacklisted flag.intent ∨
      ∀ point, record.lastValidated = some point →
        point.isStock ∨ ¬ (BlacklistRegion.around flag.intent defaultBlacklistRadius).contains point
  | .markValidated point => record.safe point
  | _ => True

theorem recover_lastValidated (record : SafeLoopRecord) (bootFlag : Option BootFlag)
    (bugcheck : CrashClass) :
    (recover record bootFlag bugcheck).1.lastValidated = record.lastValidated := by
  unfold recover applyRecovery
  split <;> rfl

theorem recover_point (record : SafeLoopRecord) (bootFlag : Option BootFlag)
    (bugcheck : CrashClass) :
    (recover record bootFlag bugcheck).2 = TuningPoint.stock ∨
      record.lastValidated = some (recover record bootFlag bugcheck).2 := by
  cases bootFlag with
  | none =>
    unfold recover decideRecovery
    dsimp only
    split
    next => exact Or.inl rfl
    next =>
      split
      next => exact Or.inl rfl
      next hl => exact Or.inr hl
      next => exact Or.inl rfl
  | some flag =>
    rw [recover, decideRecovery_armed]
    split
    next => exact Or.inl rfl
    next =>
      cases hl : record.lastValidated with
      | none => exact Or.inl (by simp [applyRecovery, SafeLoopRecord.recoveryTarget, hl])
      | some point => exact Or.inr (by simp [applyRecovery, SafeLoopRecord.recoveryTarget, hl])

theorem recover_blacklist (record : SafeLoopRecord) (bootFlag : Option BootFlag)
    (bugcheck : CrashClass) :
    (recover record bootFlag bugcheck).1.blacklist = record.blacklist ∨
      ∃ flag, bootFlag = some flag ∧ tripsSafeMode record flag bugcheck = false ∧
        record.isBlacklisted flag.intent = false ∧
        (recover record bootFlag bugcheck).1.blacklist =
          record.blacklist ++ [.around flag.intent defaultBlacklistRadius] := by
  cases bootFlag with
  | none =>
    unfold recover decideRecovery
    dsimp only
    split
    next => exact Or.inl rfl
    next => split <;> exact Or.inl rfl
  | some flag =>
    rw [recover, decideRecovery_armed]
    split
    next => exact Or.inl rfl
    next ht =>
      rw [applyRecovery_blacklistAndRecede_blacklist]
      split
      next => exact Or.inl rfl
      next hb => exact Or.inr ⟨flag, rfl, by simpa using ht, by simpa using hb, rfl⟩

theorem SafeLoopRecord.LastValidatedSafe.congr {record record' : SafeLoopRecord}
    (h : record.LastValidatedSafe) (hl : record'.lastValidated = record.lastValidated)
    (hb : record'.blacklist = record.blacklist) : record'.LastValidatedSafe := by
  intro point hpoint
  rcases h point (hl ▸ hpoint) with hstock | hout
  · exact Or.inl hstock
  · exact Or.inr (by rwa [isBlacklisted, hb])

theorem SafeLoopRecord.LastValidatedSafe.boot {record : SafeLoopRecord}
    (h : record.LastValidatedSafe) {bootFlag : Option BootFlag} {bugcheck : CrashClass}
    (hok : record.sparesLastValidated (.boot bootFlag bugcheck)) :
    (recover record bootFlag bugcheck).1.LastValidatedSafe := by
  intro point hpoint
  rw [recover_lastValidated] at hpoint
  rcases h point hpoint with hstock | hout
  · exact Or.inl hstock
  rcases recover_blacklist record bootFlag bugcheck with hbl | ⟨flag, rfl, ht, hb, hbl⟩
  · exact Or.inr (by rwa [isBlacklisted, hbl])
  · rcases hok with ht' | hb' | hfar
    · simp [ht] at ht'
    · simp [hb] at hb'
    · rcases hfar point hpoint with hstock | hfar
      · exact Or.inl hstock
      · have hold : record.blacklist.any (·.contains point) = false :=
          Bool.eq_false_iff.mpr hout
        have hnew : (BlacklistRegion.around flag.intent defaultBlacklistRadius).contains point =
            false := Bool.eq_false_iff.mpr hfar
        refine Or.inr ?_
        rw [isBlacklisted, hbl, List.any_append, hold, List.any_cons, hnew]
        simp

theorem SafeLoopRecord.LastValidatedSafe.after {record : SafeLoopRecord}
    (h : record.LastValidatedSafe) {call : SafeLoopCall}
    (hok : record.sparesLastValidated call) : (record.after call).LastValidatedSafe := by
  cases call with
  | boot bootFlag bugcheck => exact h.boot hok
  | markValidated point =>
    intro p hp
    obtain rfl := Option.some.inj hp
    exact hok
  | clearRecoveryLatch => exact h
  | recordForgeIncident incident =>
    exact h.congr (by simp [SafeLoopRecord.after]) (by simp [SafeLoopRecord.after])
  | acknowledgeForgeIncident =>
    exact h.congr (by simp [SafeLoopRecord.after]) (by simp [SafeLoopRecord.after])

theorem safeLoop_lastValidatedSafe {calls : List SafeLoopCall} {record : SafeLoopRecord}
    (h : (safeLoop.guarded SafeLoopRecord.sparesLastValidated).Run calls record) :
    record.LastValidatedSafe := by
  refine h.invariant (I := SafeLoopRecord.LastValidatedSafe) ?_ ?_
  · rintro _ rfl point hpoint
    simp at hpoint
  · intro record call record' hinv hs
    obtain ⟨hok, rfl⟩ := hs
    exact hinv.after hok

/-- Over a run that spares the last validated point, recovery returns no blacklisted point. -/
theorem safeLoop_recovery_outside_blacklist {calls : List SafeLoopCall} {record : SafeLoopRecord}
    (h : (safeLoop.guarded SafeLoopRecord.sparesLastValidated).Run calls record)
    {bootFlag : Option BootFlag} {bugcheck : CrashClass}
    (hok : record.sparesLastValidated (.boot bootFlag bugcheck))
    (hstock : ¬ (recover record bootFlag bugcheck).2.isStock) :
    ∀ region ∈ (recover record bootFlag bugcheck).1.blacklist,
      ¬ region.contains (recover record bootFlag bugcheck).2 := by
  rcases recover_point record bootFlag bugcheck with heq | hlast
  · exact absurd (heq ▸ by decide) hstock
  · have hsafe := (safeLoop_lastValidatedSafe h).boot hok _
      ((recover_lastValidated record bootFlag bugcheck).trans hlast)
    rcases hsafe with hs | hout
    · exact absurd hs hstock
    · simpa [SafeLoopRecord.isBlacklisted] using hout

def lastGood : TuningPoint := .fromAxes [("gpu_freq_mhz", 1800), ("gpu_voltage_mv", 800)]

/-- A crash far from the validated point leaves that point to be reapplied. -/
theorem safeLoop_recovery_reapplies_validated :
    let crash : SafeLoopCall :=
      .boot (some ⟨.fromAxes [("gpu_freq_mhz", 1900)], "gpu_apply", ""⟩) .unknown
    let record := (({} : SafeLoopRecord).after (.markValidated lastGood)).after crash
    record.blacklist ≠ [] ∧ (recover record none .unknown).2 = lastGood ∧
      ∀ region ∈ (recover record none .unknown).1.blacklist,
        ¬ region.contains (recover record none .unknown).2 := by
  intro crash record
  have hrun : (safeLoop.guarded SafeLoopRecord.sparesLastValidated).Run
      ([] ++ [.markValidated lastGood] ++ [crash]) record := by
    refine .next (.next (.start rfl) ⟨Or.inr (by decide), rfl⟩) ⟨Or.inr (Or.inr ?_), rfl⟩
    rintro p ⟨⟩
    exact Or.inr (by decide)
  exact ⟨by decide, by decide,
    safeLoop_recovery_outside_blacklist hrun (by trivial) (by decide)⟩

/-- A crash at the validated point recedes to that very point. -/
theorem safeLoop_recovery_recedes_to_crash :
    ¬ ∀ (calls : List SafeLoopCall) (record : SafeLoopRecord), safeLoop.Run calls record →
      ∀ (bootFlag : Option BootFlag) (bugcheck : CrashClass),
        ¬ (recover record bootFlag bugcheck).2.isStock →
          ∀ region ∈ (recover record bootFlag bugcheck).1.blacklist,
            ¬ region.contains (recover record bootFlag bugcheck).2 := by
  intro h
  have := h [.markValidated lastGood] _ (.next (.start rfl) rfl)
    (some ⟨lastGood, "gpu_apply", ""⟩) .unknown
  revert this
  decide

/-- The logs of the record stay within their caps. -/
structure SafeLoopRecord.Bounded (record : SafeLoopRecord) : Prop where
  crashLog : record.crashLog.length ≤ 32
  forgeIncidents : record.forgeIncidents.length ≤ 64

theorem SafeLoopRecord.acknowledgeStored_length (id : String) (stored : List ForgeIncident) :
    (acknowledgeStored id stored).length = stored.length := by
  induction stored with
  | nil => rfl
  | cons incident stored ih =>
    unfold acknowledgeStored
    split
    next => rfl
    next => simp [ih]

theorem applyRecovery_bounded {record : SafeLoopRecord} (h : record.Bounded)
    (action : RecoveryAction) : (applyRecovery record action).1.Bounded := by
  cases action with
  | blacklistAndRecede => exact ⟨pushCapped_length_le _ _ _, h.forgeIncidents⟩
  | _ => exact ⟨h.crashLog, h.forgeIncidents⟩

theorem SafeLoopRecord.Bounded.after {record : SafeLoopRecord} (h : record.Bounded)
    (call : SafeLoopCall) : (record.after call).Bounded := by
  cases call with
  | boot bootFlag bugcheck => exact applyRecovery_bounded h _
  | markValidated point => exact ⟨h.crashLog, h.forgeIncidents⟩
  | clearRecoveryLatch => exact ⟨h.crashLog, h.forgeIncidents⟩
  | recordForgeIncident incident =>
    simp only [SafeLoopRecord.after, SafeLoopRecord.recordForgeIncident]
    split
    next => exact h
    next => exact ⟨h.crashLog, pushCapped_length_le _ _ _⟩
  | acknowledgeForgeIncident =>
    simp only [SafeLoopRecord.after, SafeLoopRecord.acknowledgeForgeIncident]
    split
    next => exact h
    next incident _ =>
      have hlen := SafeLoopRecord.acknowledgeStored_length incident.id record.forgeIncidents
      exact ⟨h.crashLog, hlen.le.trans h.forgeIncidents⟩

theorem safeLoop_bounded {calls : List SafeLoopCall} {record : SafeLoopRecord}
    (h : safeLoop.Run calls record) : record.Bounded := by
  refine h.invariant (I := SafeLoopRecord.Bounded) ?_ ?_
  · rintro _ rfl
    exact ⟨Nat.zero_le _, Nat.zero_le _⟩
  · rintro record call _ hbound rfl
    exact hbound.after call

theorem SafeLoopRecord.after_blacklist_prefix (record : SafeLoopRecord) (call : SafeLoopCall) :
    record.blacklist <+: (record.after call).blacklist := by
  cases call with
  | boot bootFlag bugcheck => exact applyRecovery_blacklist_prefix record _
  | markValidated point => exact List.prefix_refl _
  | clearRecoveryLatch => exact List.prefix_refl _
  | recordForgeIncident incident => simp [SafeLoopRecord.after]
  | acknowledgeForgeIncident => simp [SafeLoopRecord.after]

/-- A region learnt once is kept over the rest of the run. -/
theorem safeLoop_blacklist_prefix {earlier later : List SafeLoopCall} {record : SafeLoopRecord}
    (h : safeLoop.Run (earlier ++ later) record) :
    ∃ before, safeLoop.Run earlier before ∧ before.blacklist <+: record.blacklist := by
  refine h.mono_of (p := fun _ => True)
    (r := fun before after => before.blacklist <+: after.blacklist) ?_ ?_ ?_ fun _ _ => trivial
  · exact fun record => List.prefix_refl _
  · exact fun _ _ _ => List.IsPrefix.trans
  · rintro record call _ - rfl
    exact record.after_blacklist_prefix call

/-- Every recovery of the boots answers stock and leaves the record in Safe Mode. -/
def SafeLoopRecord.staysHandsOff (record : SafeLoopRecord) :
    List (Option BootFlag × CrashClass) → Prop
  | [] => True
  | boot :: boots =>
    (recover record boot.1 boot.2).2 = TuningPoint.stock ∧
      (recover record boot.1 boot.2).1.safeMode = true ∧
      (recover record boot.1 boot.2).1.state = .safeMode ∧
      (recover record boot.1 boot.2).1.staysHandsOff boots

/-- No boot finds the flag of a supervised probe, and one flag more exhausts the budget. -/
def SafeLoopRecord.flagsTrip (record : SafeLoopRecord)
    (boots : List (Option BootFlag × CrashClass)) : Prop :=
  ∀ boot ∈ boots, ∀ flag, boot.1 = some flag →
    supervisedForgeTdr flag boot.2 = false ∧
      safeModeCrashThreshold ≤ record.consecutiveCrashes + 1

theorem recover_safeMode_clean {record : SafeLoopRecord} (h : record.safeMode = true)
    (bugcheck : CrashClass) :
    recover record none bugcheck =
      ({ record with safeMode := true, state := .safeMode }, TuningPoint.stock) := by
  have hdecide : decideRecovery none bugcheck record = .remainSafeMode TuningPoint.stock := by
    simp [decideRecovery, h]
  rw [recover, hdecide]
  rfl

theorem recover_trips {record : SafeLoopRecord} {flag : BootFlag} {bugcheck : CrashClass}
    (h : tripsSafeMode record flag bugcheck = true) :
    recover record (some flag) bugcheck =
      ({ record with
          consecutiveCrashes := saturatingAdd record.consecutiveCrashes 1
          safeMode := true
          state := .safeMode }, TuningPoint.stock) := by
  rw [recover, decideRecovery_armed, if_pos h]
  rfl

theorem recover_recedes_state {record : SafeLoopRecord} {flag : BootFlag}
    {bugcheck : CrashClass} (h : tripsSafeMode record flag bugcheck = false) :
    (recover record (some flag) bugcheck).1.state = .unstable := by
  have hnot : ¬ tripsSafeMode record flag bugcheck = true := by simp [h]
  rw [recover, decideRecovery_armed, if_neg hnot]
  rfl

theorem tripsSafeMode_iff {record : SafeLoopRecord} {flag : BootFlag} {bugcheck : CrashClass} :
    tripsSafeMode record flag bugcheck = true ↔
      supervisedForgeTdr flag bugcheck = false ∧
        safeModeCrashThreshold ≤ record.consecutiveCrashes + 1 := by
  simp [tripsSafeMode]

/-- The streak never falls below the budget once it has exhausted it. -/
theorem threshold_le_saturatingAdd {crashes : Nat} :
    safeModeCrashThreshold ≤ crashes + 1 →
      safeModeCrashThreshold ≤ saturatingAdd crashes 1 + 1 := by
  unfold safeModeCrashThreshold saturatingAdd u32Max
  omega

theorem SafeLoopRecord.flagsTrip_congr {record record' : SafeLoopRecord}
    (h : safeModeCrashThreshold ≤ record.consecutiveCrashes + 1 ↔
      safeModeCrashThreshold ≤ record'.consecutiveCrashes + 1)
    (boots : List (Option BootFlag × CrashClass)) :
    record.flagsTrip boots ↔ record'.flagsTrip boots := by
  simp only [flagsTrip, h]

/-- A record in Safe Mode keeps its hands off exactly over the boots whose flags all trip
Safe Mode again. -/
theorem safeMode_latched_iff (record : SafeLoopRecord) (h : record.safeMode = true)
    (boots : List (Option BootFlag × CrashClass)) :
    record.staysHandsOff boots ↔ record.flagsTrip boots := by
  induction boots generalizing record with
  | nil => simp [SafeLoopRecord.staysHandsOff, SafeLoopRecord.flagsTrip]
  | cons boot boots ih =>
    obtain ⟨bootFlag, bugcheck⟩ := boot
    cases bootFlag with
    | none =>
      have hclean := recover_safeMode_clean h bugcheck
      have hrest := ih { record with safeMode := true, state := .safeMode } rfl
      have hhead : record.flagsTrip ((none, bugcheck) :: boots) ↔ record.flagsTrip boots := by
        simp [SafeLoopRecord.flagsTrip]
      rw [SafeLoopRecord.staysHandsOff, hclean, hrest, hhead]
      simp only [true_and]
      exact SafeLoopRecord.flagsTrip_congr Iff.rfl boots
    | some flag =>
      have hhead : record.flagsTrip ((some flag, bugcheck) :: boots) ↔
          tripsSafeMode record flag bugcheck = true ∧ record.flagsTrip boots := by
        simp [SafeLoopRecord.flagsTrip, tripsSafeMode_iff]
      cases ht : tripsSafeMode record flag bugcheck with
      | true =>
        have hstreak := (tripsSafeMode_iff.mp ht).2
        rw [SafeLoopRecord.staysHandsOff, recover_trips ht, ih _ rfl, hhead, ht]
        simp only [true_and]
        exact SafeLoopRecord.flagsTrip_congr
          (iff_of_true (threshold_le_saturatingAdd hstreak) hstreak) boots
      | false =>
        rw [hhead, ht]
        refine iff_of_false ?_ (by simp)
        intro hstays
        have hstate := hstays.2.2.1
        rw [recover_recedes_state ht] at hstate
        simp at hstate

def crashAt (phase : String) : Option BootFlag × CrashClass :=
  (some ⟨.fromAxes [("gpu_freq_mhz", 1900)], phase, "2026-07-15T00:00:00Z"⟩, .unknown)

/-- Safe Mode reached by three crashes outlasts a clean boot and a fourth crash. -/
theorem safeMode_latched_after_crashes :
    ({ safeMode := true, consecutiveCrashes := 3 } : SafeLoopRecord).staysHandsOff
      [(none, .unknown), crashAt "gpu_apply"] := by
  rw [safeMode_latched_iff _ rfl]
  intro boot hboot flag hflag
  rcases List.mem_pair.mp hboot with rfl | rfl
  · simp at hflag
  · obtain rfl := Option.some.inj hflag
    exact ⟨by decide, by decide⟩

/-- In Safe Mode the flag of a supervised probe still recedes to the last validated point. -/
theorem safeMode_left_by_supervised_flag :
    ¬ ∀ calls record, safeLoop.Run calls record → record.safeMode = true →
      ∀ boots, record.staysHandsOff boots := by
  intro h
  have hrun : safeLoop.Run ([] ++ [.markValidated lastGood] ++
      [.boot (crashAt "gpu_apply").1 .unknown] ++ [.boot (crashAt "gpu_apply").1 .unknown] ++
      [.boot (crashAt "gpu_apply").1 .unknown]) _ :=
    .next (.next (.next (.next (.start rfl) rfl) rfl) rfl) rfl
  have hstays := h _ _ hrun (by decide) [crashAt supervisedF2ForgePhase]
  have hpoint := hstays.1
  revert hpoint
  decide

end Nidavellir

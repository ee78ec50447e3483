import Nidavellir.AttemptDecision
import Nidavellir.CrashCondemnation
import Nidavellir.FlagCalibration
import Nidavellir.FlagGate

namespace Nidavellir

open FlagTrail Runs

inductive ForgeStage
  | targets
  | backfill
  | apply
  | repair
  | closing
  | ended (clearBootFlag : Bool)
deriving DecidableEq

/-- A Forge between two of its calls, with what the last summary said of the flag. -/
structure ForgeWatch (W : Type*) where
  world : Watched W
  stage : ForgeStage := .targets
  forgeAborted : Bool := false
  retainBootFlag : Bool := false
  lastRetains : Bool := false

/-- The calls of a Forge on the card, and its ways from one stage to the next. What it calls them
with is left open: the observations are those in the store when the call is made. -/
inductive ForgeWatchStep
  | target (call : F2ClockCall) (conservativeStartMv : Option Nat) (log : List F2Observation)
  | frontier (complete : Bool)
  | backfill (call : F2PowerCalibrationCall) (log : List F2Observation)
  | synthesize (powerCalibrated : Bool)
  | gate (call : F2ApplyQualificationCall) (requiredPasses : Nat)
  | climb (call : F2PowerCalibrationCall) (log : List F2Observation)
  | fastDrop (call : F2PowerCalibrationCall) (log : List F2Observation)
  | resynthesize
  | finish
  | finalReset

/-- A quarantined pair must pass again after it passed. -/
def F2ApplyQualificationCall.passes {W : Type*} [F2World W] [BuildEnv]
    (call : F2ApplyQualificationCall) : Nat → W → F2ApplyQualificationSummary × W
  | 0, w => call.run w
  | again + 1, w =>
    let (summary, w) := call.run w
    if summary.qualified then passes call again w else (summary, w)

/-- A failure of the gate from which the pair may be repaired. -/
def F2ApplyQualificationSummary.repairable (self : F2ApplyQualificationSummary) : Bool :=
  "ExactApplyPowerCeilingExceeded".toList.isPrefixOf self.stopReason.toList ||
    self.blacklistRefused || f2GateFailureSupportsVerticalRepair self.stopReason

namespace ForgeWatch

variable {W : Type*}

def afterTarget (s : ForgeWatch W) (summary : F2ClockDiscoverySummary) : ForgeWatch W :=
  if summary.aborted then
    { s with
      stage := .closing, forgeAborted := true
      retainBootFlag := s.retainBootFlag || summary.retainBootFlag }
  else if summary.completed then s else { s with stage := .closing }

def afterBackfill (s : ForgeWatch W) (summary : F2PowerCalibrationSummary) : ForgeWatch W :=
  if summary.confirmed then s
  else
    { s with
      stage := .closing
      forgeAborted := s.forgeAborted || summary.aborted
      retainBootFlag := s.retainBootFlag || summary.retainBootFlag }

def afterGate (s : ForgeWatch W) (summary : F2ApplyQualificationSummary) : ForgeWatch W :=
  let s := { s with retainBootFlag := s.retainBootFlag || summary.retainBootFlag }
  if summary.qualified then s
  else if !summary.blacklistRefused && (summary.aborted || summary.cancelled) then
    { s with stage := .closing, forgeAborted := s.forgeAborted || summary.aborted }
  else if summary.repairable then { s with stage := .repair }
  else { s with stage := .closing }

def afterClimb (s : ForgeWatch W) (summary : F2PowerCalibrationSummary) : ForgeWatch W :=
  let s := { s with retainBootFlag := s.retainBootFlag || summary.retainBootFlag }
  if summary.aborted then { s with stage := .closing, forgeAborted := true }
  else { s with stage := .apply }

def afterFastDrop (s : ForgeWatch W) (summary : F2PowerCalibrationSummary) : ForgeWatch W :=
  let s := { s with retainBootFlag := s.retainBootFlag || summary.retainBootFlag }
  if summary.aborted && summary.retainBootFlag then
    { s with stage := .closing, forgeAborted := true }
  else { s with stage := .apply }

variable [F2World W] [BuildEnv]

/-- `measure_multiclock_undervolt_forge` from its first target on; `resetAll` restores stock. -/
def step (resetAll : W → Except String Unit × W) (s : ForgeWatch W) :
    ForgeWatchStep → Option (ForgeWatch W)
  | .target call conservativeStartMv log =>
    if s.stage = .targets then
      let run := (call.runTarget conservativeStartMv log s.world).last
      some ({ s with world := run.world, lastRetains := run.summary.retainBootFlag }.afterTarget
        run.summary)
    else none
  | .frontier complete =>
    if s.stage = .targets then some { s with stage := if complete then .backfill else .closing }
    else none
  | .backfill call log =>
    if s.stage = .backfill then
      let (summary, world) := call.run log s.world
      some ({ s with world, lastRetains := summary.retainBootFlag }.afterBackfill summary)
    else none
  | .synthesize powerCalibrated =>
    if s.stage = .backfill then
      some { s with stage := if powerCalibrated then .apply else .closing }
    else none
  | .gate call requiredPasses =>
    if s.stage = .apply then
      let (summary, world) := call.passes (requiredPasses - 1) s.world
      some ({ s with world, lastRetains := summary.retainBootFlag }.afterGate summary)
    else none
  | .climb call log =>
    if s.stage = .repair then
      let (summary, world) := call.run log s.world
      some ({ s with world, lastRetains := summary.retainBootFlag }.afterClimb summary)
    else none
  | .fastDrop call log =>
    if s.stage = .repair then
      let (summary, world) := call.run log s.world
      some ({ s with world, lastRetains := summary.retainBootFlag }.afterFastDrop summary)
    else none
  | .resynthesize => if s.stage = .repair then some { s with stage := .apply } else none
  | .finish => if s.stage = .apply then some { s with stage := .closing } else none
  | .finalReset =>
    if s.stage = .closing then
      let (reset, world) := s.world.quiet resetAll
      let clearBootFlag := !s.retainBootFlag
      some { s with
        world := if reset.isOk && clearBootFlag then (F2World.clearBootFlag world).2 else world
        stage := .ended clearBootFlag }
    else none

end ForgeWatch

/-- The flag that is on disk, as it was armed. -/
def FlagTrail.bootFlag (t : FlagTrail) (timestamp : String) : Option BootFlag :=
  t.current.map fun candidate =>
    (ArmedOperation.f2Probe candidate.target.targetMhz candidate.target.candidate).bootFlag
      timestamp

/-- A start of the service with this flag learns the crash of the candidate, or enters Safe Mode
over it. -/
def ArmedCandidate.AccountedBy (self : ArmedCandidate) (flag : Option BootFlag) : Prop :=
  ∀ (record : SafeLoopRecord) (bugcheck : CrashClass),
    let record' := (recover record flag bugcheck).1
    record'.isBlacklisted (f2Intent self.target.targetMhz self.target.candidate) ∧
      record'.crashLog.getLast? = some bugcheck ∨ record'.safeMode = true

section Survives

variable {W : Type*}

/-- What becomes of the flag of an unclean candidate. -/
structure ForgeWatch.Survives (s : ForgeWatch W) (candidate : ArmedCandidate) : Prop where
  reported : s.lastRetains = true
  retained : s.retainBootFlag = true
  uncleared : ∀ clearBootFlag, s.stage = .ended clearBootFlag → clearBootFlag = false
  onDisk : s.world.trail.current = some candidate
  accounted : ∀ timestamp, candidate.AccountedBy (s.world.trail.bootFlag timestamp)

def ForgeWatch.FlagSurvives (s : ForgeWatch W) : Prop :=
  ∀ candidate ∈ s.world.trail.candidates, candidate.unclean → s.Survives candidate

/-- The Forge is over and keeps the flag. -/
structure ForgeWatch.Keeps (s : ForgeWatch W) : Prop where
  stage : s.stage = .closing ∨ s.stage = .ended false
  retained : s.retainBootFlag = true
  reported : s.lastRetains = true

def ForgeWatch.Sound (s : ForgeWatch W) : Prop := s.world.trail.LeavesKnown s.Keeps

/-- An armed flag is accounted for by any start that finds it. -/
theorem FlagTrail.accountedBy_bootFlag {t : FlagTrail} {candidate : ArmedCandidate}
    (h : t.current = some candidate) (timestamp : String) :
    candidate.AccountedBy (t.bootFlag timestamp) := by
  intro record bugcheck
  rw [FlagTrail.bootFlag, h, Option.map_some]
  dsimp only
  let flag := (ArmedOperation.f2Probe candidate.target.targetMhz
    candidate.target.candidate).bootFlag timestamp
  cases htrips : tripsSafeMode record flag bugcheck with
  | false => exact .inl ((recover_accounts_iff record flag bugcheck).mpr (.inl htrips))
  | true =>
    right
    rw [recover, decideRecovery_armed, if_pos htrips]
    rfl

theorem ForgeWatch.Sound.flagSurvives {s : ForgeWatch W} (h : s.Sound) : s.FlagSurvives := by
  intro candidate hmem hunclean
  have hcurrent := unclean_mem (h.imp_right And.left) hmem hunclean
  rcases h with hsettled | ⟨-, hstage, hretained, hreported⟩
  · rw [hsettled.current] at hcurrent
    cases hcurrent
  · refine ⟨hreported, hretained, ?_, hcurrent, fun timestamp =>
      accountedBy_bootFlag hcurrent timestamp⟩
    intro clearBootFlag hended
    rw [hended] at hstage
    rcases hstage with hclosing | hclosing
    · cases hclosing
    · exact ForgeStage.ended.inj hclosing

namespace ForgeWatch

variable {world : Watched W}

theorem afterTarget_world (s : ForgeWatch W) (summary : F2ClockDiscoverySummary) :
    (s.afterTarget summary).world = s.world := by
  unfold afterTarget
  split
  next => rfl
  next => split <;> rfl

theorem afterGate_world (s : ForgeWatch W) (summary : F2ApplyQualificationSummary) :
    (s.afterGate summary).world = s.world := by
  unfold afterGate
  dsimp only
  split
  next => rfl
  next =>
    split
    next => rfl
    next => split <;> rfl

/-- A target that left the flag ends the Forge, which keeps it. -/
theorem afterTarget_sound {run : F2ClockCallRun (Watched W)} (h : run.Leaves)
    (hmissed : ¬ run.world.trail.Unrecorded) (s : ForgeWatch W) :
    ({ s with
      world := run.world, lastRetains := run.summary.retainBootFlag }.afterTarget
        run.summary).Sound := by
  unfold afterTarget
  rcases h with hsettled | ⟨hflag, haborted, hretains | hunrecorded⟩
  · split
    next => exact .inl hsettled
    next => split <;> exact .inl hsettled
  · rw [if_pos haborted]
    exact .inr ⟨hflag, .inl rfl, by simp [hretains], hretains⟩
  · exact absurd hunrecorded hmissed

theorem afterBackfill_sound {summary : F2PowerCalibrationSummary}
    (h : world.trail.LeavesKnown summary.SaysLeft) (s : ForgeWatch W) :
    ({ s with world, lastRetains := summary.retainBootFlag }.afterBackfill summary).Sound := by
  unfold afterBackfill
  rcases h with hsettled | ⟨hflag, hunconfirmed, -, hretains⟩
  · split <;> exact .inl hsettled
  · rw [if_neg (by simp [hunconfirmed])]
    exact .inr ⟨hflag, .inl rfl, by simp [hretains], hretains⟩

theorem afterGate_sound {summary : F2ApplyQualificationSummary}
    (h : world.trail.LeavesKnown (summary.Known world.trail)) (hmissed : ¬ world.trail.Missed)
    (s : ForgeWatch W) :
    ({ s with world, lastRetains := summary.retainBootFlag }.afterGate summary).Sound := by
  unfold afterGate
  rcases h with hsettled | ⟨hflag, hunqualified, ⟨haborted, hrefused, hretains⟩ | hmiss⟩
  · dsimp only
    split
    next => exact .inl hsettled
    next =>
      split
      next => exact .inl hsettled
      next => split <;> exact .inl hsettled
  · simp only [hunqualified, haborted, hrefused, hretains]
    exact .inr ⟨hflag, .inl rfl, by simp, rfl⟩
  · exact absurd hmiss hmissed

theorem afterClimb_sound {summary : F2PowerCalibrationSummary}
    (h : world.trail.LeavesKnown summary.SaysLeft) (s : ForgeWatch W) :
    ({ s with world, lastRetains := summary.retainBootFlag }.afterClimb summary).Sound := by
  unfold afterClimb
  dsimp only
  rcases h with hsettled | ⟨hflag, -, haborted, hretains⟩
  · split <;> exact .inl hsettled
  · rw [if_pos haborted]
    exact .inr ⟨hflag, .inl rfl, by simp [hretains], hretains⟩

theorem afterFastDrop_sound {summary : F2PowerCalibrationSummary}
    (h : world.trail.LeavesKnown summary.SaysLeft) (s : ForgeWatch W) :
    ({ s with world, lastRetains := summary.retainBootFlag }.afterFastDrop summary).Sound := by
  unfold afterFastDrop
  dsimp only
  rcases h with hsettled | ⟨hflag, -, haborted, hretains⟩
  · split <;> exact .inl hsettled
  · rw [if_pos (by simp [haborted, hretains])]
    exact .inr ⟨hflag, .inl rfl, by simp [hretains], hretains⟩

end ForgeWatch

end Survives

section Forge

variable {W : Type*} [F2World W] [BuildEnv]

/-- A Forge on a card, for every sequence of its calls. -/
def forgeWatch (resetAll : W → Except String Unit × W) (w : W) :
    Machine (ForgeWatch W) ForgeWatchStep :=
  .ofStep { world := ⟨w, []⟩ } (ForgeWatch.step resetAll)

/-- No observation of a discovery or of a gate is lost while the flag of an unclean candidate is
on disk, and a gate sees no stop then. -/
def ForgeWatch.MissesNothing (resetAll : W → Except String Unit × W) (s : ForgeWatch W)
    (a : ForgeWatchStep) : Prop :=
  ∀ s', s.step resetAll a = some s' →
    match a with
    | .target .. => ¬ s'.world.trail.Unrecorded
    | .gate .. => ¬ s'.world.trail.Missed
    | _ => True

variable {resetAll : W → Except String Unit × W} {s s' : ForgeWatch W} {a : ForgeWatchStep}

theorem F2ApplyQualificationCall.passes_leaves (call : F2ApplyQualificationCall) (again : Nat)
    {w : Watched W} (h : w.trail.Settled) :
    (call.passes again w).2.trail.LeavesKnown
      ((call.passes again w).1.Known (call.passes again w).2.trail) := by
  induction again generalizing w with
  | zero => exact call.run_leaves h
  | succ again ih =>
    have hrun := call.run_leaves h
    unfold passes
    dsimp only
    split
    next hqualified =>
      rcases hrun with hsettled | ⟨-, hunqualified, -⟩
      · exact ih hsettled
      · rw [hqualified] at hunqualified
        cases hunqualified
    next => exact hrun

namespace ForgeWatch

/-- A step from a clean start. -/
theorem sound_of_settled (h : s.world.trail.Settled) (hmissed : s.MissesNothing resetAll a)
    (hstep : s.step resetAll a = some s') : s'.Sound := by
  have hnothing := hmissed s' hstep
  cases a with
  | target call conservativeStartMv log =>
    simp only [step, Option.ite_none_right_eq_some, Option.some.injEq] at hstep
    obtain ⟨-, rfl⟩ := hstep
    refine afterTarget_sound (call.runTarget_leaves conservativeStartMv log h) ?_ s
    simpa only [afterTarget_world] using hnothing
  | backfill call log =>
    simp only [step, Option.ite_none_right_eq_some, Option.some.injEq] at hstep
    obtain ⟨-, rfl⟩ := hstep
    exact afterBackfill_sound (call.run_leaves log h) s
  | gate call requiredPasses =>
    simp only [step, Option.ite_none_right_eq_some, Option.some.injEq] at hstep
    obtain ⟨-, rfl⟩ := hstep
    refine afterGate_sound (call.passes_leaves _ h) ?_ s
    simpa only [afterGate_world] using hnothing
  | climb call log =>
    simp only [step, Option.ite_none_right_eq_some, Option.some.injEq] at hstep
    obtain ⟨-, rfl⟩ := hstep
    exact afterClimb_sound (call.run_leaves log h) s
  | fastDrop call log =>
    simp only [step, Option.ite_none_right_eq_some, Option.some.injEq] at hstep
    obtain ⟨-, rfl⟩ := hstep
    exact afterFastDrop_sound (call.run_leaves log h) s
  | finalReset =>
    simp only [step, Option.ite_none_right_eq_some, Option.some.injEq] at hstep
    obtain ⟨-, rfl⟩ := hstep
    refine .inl ?_
    dsimp only
    split
    next =>
      rw [clearBootFlag_trail]
      exact Settled.quiet (t := s.world.trail) h (by simp)
    next => exact h
  | frontier complete | synthesize powerCalibrated | resynthesize | finish =>
    simp only [step, Option.ite_none_right_eq_some, Option.some.injEq] at hstep
    obtain ⟨-, rfl⟩ := hstep
    exact .inl h

/-- After the flag was left, only the final reset is still to come, and it leaves it too. -/
theorem sound_of_keeps (h : s.Sound) (hkeeps : s.Keeps) (hstep : s.step resetAll a = some s') :
    s'.Sound := by
  obtain ⟨hstage, hretained, hreported⟩ := hkeeps
  cases a with
  | finalReset =>
    simp only [step, hretained, Option.ite_none_right_eq_some, Option.some.injEq, Bool.not_true,
      Bool.and_false, Bool.false_eq_true, if_false] at hstep
    obtain ⟨-, rfl⟩ := hstep
    exact h.imp_right fun hleft => ⟨hleft.1, .inr rfl, rfl, hreported⟩
  | target | frontier | backfill | synthesize | gate | climb | fastDrop | resynthesize | finish =>
    simp only [step, Option.ite_none_right_eq_some] at hstep
    rcases hstage with hclosing | hended
    · rw [hclosing] at hstep
      cases hstep.1
    · rw [hended] at hstep
      cases hstep.1

theorem step_sound (h : s.Sound) (hmissed : s.MissesNothing resetAll a)
    (hstep : s.step resetAll a = some s') : s'.Sound := by
  rcases id h with hsettled | ⟨-, hkeeps⟩
  · exact sound_of_settled hsettled hmissed hstep
  · exact sound_of_keeps h hkeeps hstep

end ForgeWatch

/-- The flag of an unclean candidate survives every run in which no such observation is lost and no
gate is stopped at such a moment. -/
theorem boot_flag_survives (w : W) {l : List ForgeWatchStep}
    (hrun : ((forgeWatch resetAll w).guarded (ForgeWatch.MissesNothing resetAll)).Run l s) :
    s.FlagSurvives := by
  have hstart : ∀ s, ((forgeWatch resetAll w).guarded (ForgeWatch.MissesNothing resetAll)).init s →
      s.Sound := by
    rintro s rfl
    exact .inl settled_start
  have hsound : s.Sound := by
    refine Machine.Run.invariant (I := ForgeWatch.Sound) hstart ?_ hrun
    intro s a s' hsound hguarded
    exact ForgeWatch.step_sound hsound hguarded.1 hguarded.2
  exact hsound.flagSurvives

end Forge

open PowerAttempts

/-- A card that is lost under load. -/
structure LostCard where
  appended : Except String Unit

instance : F2World LostCard where
  readStores self := ({ record := {}, bootFlagArmed := false, events := [] }, self)
  stopRequested self := (false, self)
  armBootFlag _ self := (.ok (), self)
  applyPositiveOffset _ self := (.ok (), self)
  verify _ self := (.raiseVerified, self)
  dwell _ self := ((F2Ops.dwell ({ outcome := .deviceLost } : Scripted)).1, self)
  resetToStock _ self := (.ok (), self)
  clearBootFlag self := (.ok (), self)
  blacklistPoint _ _ self := (.ok (), self)
  appendObservation _ self := (self.appended, self)

/-- A discovery at 1725 MHz whose only candidate is the 850 mV bin. -/
def lostCall : F2ClockCall where
  runId := "run"
  gpuKey := "gpu-a"
  ledgerRunScoped := false
  resumeCurrentRun := false
  sane := [(0, 850, 1710)]
  limits := ⟨30, 15, 850, 1900⟩
  targetMhz := 1725
  startMv := none
  powerLimitW := none
  discoveryDwellMs := 15000
  qualificationDwellMs := 60000
  qualificationPasses := 0
  renderGoldens := none
  timestamp := "t"
  rules := nearLimitRules

/-- The only bin loses the card, and the flag of it is still there when the Forge has ended. -/
theorem lost_flag_survives :
    let _ : BuildEnv := ⟨"0.1.0", "unknown"⟩
    ∃ s : ForgeWatch LostCard, s.stage = .ended false ∧ s.FlagSurvives ∧
      ∃ candidate ∈ s.world.trail.candidates, candidate.unclean := by
  intro build
  let resetAll (card : LostCard) : Except String Unit × LostCard := (.ok (), card)
  let card : LostCard := ⟨.ok ()⟩
  let run := (lostCall.runTarget none [] (⟨card, []⟩ : Watched LostCard)).last
  let returned : ForgeWatch LostCard :=
    { world := run.world, lastRetains := run.summary.retainBootFlag }
  let tested := returned.afterTarget run.summary
  have htested : ((forgeWatch resetAll card).guarded (ForgeWatch.MissesNothing resetAll)).step
      { world := ⟨card, []⟩ } (.target lostCall none []) tested := by
    refine ⟨?_, rfl⟩
    rintro s' ⟨⟩
    show ¬ tested.world.trail.Unrecorded
    rw [ForgeWatch.afterTarget_world, Unrecorded]
    decide +kernel
  have hclosing : tested.stage = .closing := by decide +kernel
  have hretained : tested.retainBootFlag = true := by decide +kernel
  have hunclean : tested.world.trail.candidates.any ArmedCandidate.unclean = true := by
    rw [ForgeWatch.afterTarget_world]
    decide +kernel
  have hreset : ForgeWatch.step resetAll tested .finalReset =
      some { tested with world := (tested.world.quiet resetAll).2, stage := .ended false } := by
    rw [ForgeWatch.step, if_pos hclosing, hretained]
    rfl
  have hrun := ((Machine.Run.start rfl).next htested).next ⟨fun _ _ => trivial, hreset⟩
  exact ⟨_, rfl, boot_flag_survives card hrun, List.any_eq_true.mp hunclean⟩

/-- The observation of the lost card is not appended, and the final reset clears its flag. -/
theorem unrecorded_flag_lost :
    let _ : BuildEnv := ⟨"0.1.0", "unknown"⟩
    ¬ ∀ (resetAll : LostCard → Except String Unit × LostCard) (card : LostCard)
        (l : List ForgeWatchStep) (s : ForgeWatch LostCard),
      (forgeWatch resetAll card).Run l s → s.FlagSurvives := by
  intro build h
  let resetAll (card : LostCard) : Except String Unit × LostCard := (.ok (), card)
  let card : LostCard := ⟨.error "disk full"⟩
  let steps : List ForgeWatchStep := [.target lostCall none [], .finalReset]
  let ended := steps.foldlM (ForgeWatch.step resetAll) { world := ⟨card, []⟩ }
  have hlost : ended.any (fun s => s.world.trail.current.isNone &&
      s.world.trail.candidates.any ArmedCandidate.unclean) = true := by decide +kernel
  cases hended : ended with
  | none =>
    rw [hended] at hlost
    cases hlost
  | some s =>
    rw [hended, Option.any_some, Bool.and_eq_true] at hlost
    obtain ⟨hnone, hany⟩ := hlost
    obtain ⟨candidate, hmem, hunclean⟩ := List.any_eq_true.mp hany
    have hrun := Machine.run_ofStep_iff.mpr hended
    have hondisk := (h resetAll card steps s hrun candidate hmem hunclean).onDisk
    rw [hondisk] at hnone
    cases hnone

end Nidavellir

import Nidavellir.ExactApplyClosure
import Nidavellir.ForgeHandle

namespace Nidavellir

open Runs

section Progress

variable {Point : Type}

def PowerSweepProgress.profiles (prog : PowerSweepProgress Point) : List (Option Point) :=
  [prog.godforge, prog.brokkrs, prog.deepCalm]

/-- What a run shows of the previous one while it measures: nothing when it starts clean. -/
def PowerSweepProgress.carried (previous : PowerSweepProgress Point) (learning : ForgeLearning)
    (resumeRequested : Bool) : PowerSweepProgress Point :=
  if learning ≠ .cleanRun ∨ resumeRequested = true then
    { (idle : PowerSweepProgress Point) with
      points := previous.points
      recommended := previous.recommended
      godforge := previous.godforge
      brokkrs := previous.brokkrs
      deepCalm := previous.deepCalm
      powerBoundCollapse := previous.powerBoundCollapse }
  else .idle

/-- A resumed run continues the sequence of the paused one. -/
def PowerSweepProgress.resumedRunSequence (previous : PowerSweepProgress Point)
    (resumeRequested : Bool) (runId : String) : List String :=
  let resumed :=
    if resumeRequested then
      if previous.runSequence.isEmpty then previous.runId.toList else previous.runSequence
    else []
  if resumed.isEmpty then [runId] else resumed

/-- The progress that `measure_multiclock_undervolt_forge` starts with. -/
def PowerSweepProgress.measuring (previous : PowerSweepProgress Point) (run : ForgeRun)
    (learning : ForgeLearning) (resumeRequested : Bool)
    (compatibility : Option ForgeResumeCompatibility) : PowerSweepProgress Point :=
  { previous.carried learning resumeRequested with
    learning := some learning.id
    resumeCompatibility := compatibility
    resumeAvailable := false
    resumeBlockReason := some "Forge em execução; use Stop para criar uma pausa retomável"
    profilesQualified := false
    running := true
    phase := "power"
    mode := some run.mode.id
    runId := some run.runId
    runSequence := previous.resumedRunSequence resumeRequested run.runId
    frontierComplete := false }

end Progress

def f2ProfilePointsHaveCurrentApplyQualification (profiles : List (Option PowerSweepPoint)) :
    Bool :=
  profiles.all Option.isSome && (profiles.filterMap id).all PowerSweepPoint.approved

def f2ProfilesMeetQualification (policy : F2ForgeModePolicy)
    (profiles : List (Option PowerSweepPoint)) (confidenceThreshold : ℚ) : Bool :=
  let requiredConfirmations := f2RequiredQualificationPasses policy
  decide (0 < requiredConfirmations) && profiles.all Option.isSome &&
    ((profiles.filterMap id).all fun point =>
      decide (confidenceThreshold ≤ point.confidence.getD 0) &&
        decide (requiredConfirmations ≤ point.validationCount.getD 0)) &&
    f2ProfilePointsHaveCurrentApplyQualification profiles

section Publish

variable (run : ForgeRun) (observations : List F2Observation)

/-- The published power is the greatest p99 of discovery and of this run's complete gate; the flag
says that the gate raised it. -/
def publishF2ProfilePowerFromApplyQualification (point : PowerSweepPoint) :
    Except String (PowerSweepPoint × Bool) :=
  let targetMhz := point.target
  match point.vfTableVoltageMv with
  | none => .error (toString targetMhz ++ " MHz has no exact Apply anchor")
  | some applyMv =>
    let pair := toString targetMhz ++ " MHz @ " ++ toString applyMv ++ " mV"
    match point.powerP99W.filter (0 < ·) with
    | none => .error (pair ++ " has no calibrated p99")
    | some discoveryP99 =>
      match currentCompleteApplyGateP99AtAnchor run.watts observations run.runId targetMhz applyMv
          run.gpuKey with
      | none => .error (pair ++ " has no complete current v24 gate p99 measurement")
      | some qualificationP99 =>
        let publishedP99 := max discoveryP99 qualificationP99
        .ok ({ point with
          powerP99W := some publishedP99
          perfPerWatt := point.sustained / publishedP99 }, decide (discoveryP99 < publishedP99))

def publishF2ProfileSetPowerFromApplyQualification : List (Option PowerSweepPoint) →
    Except String (List (Option PowerSweepPoint) × Nat)
  | [] => .ok ([], 0)
  | none :: rest => do
    let (published, changed) ← publishF2ProfileSetPowerFromApplyQualification rest
    .ok (none :: published, changed)
  | some point :: rest => do
    let (point, raised) ← publishF2ProfilePowerFromApplyQualification run observations point
    let (published, changed) ← publishF2ProfileSetPowerFromApplyQualification rest
    .ok (some point :: published, changed + raised.toNat)

end Publish

/-- The ways to the final reset: the frontier was cut short, its power is not calibrated, or the
exact-Apply closure has ended. -/
inductive ForgeEnding
  | partialFrontier (forgeComplete forgeAborted retainBootFlag : Bool)
  | uncalibrated (points : Classified) (forgeAborted retainBootFlag : Bool)
  | closed (loop : ApplyLoop) (finalProfiles : Option ForgeProfiles)

namespace PowerSweepProgress

variable (prog : PowerSweepProgress PowerSweepPoint) (run : ForgeRun)

/-- Without a final set, or when its publication fails, the carried profiles stay. -/
def published (loop : ApplyLoop) (finalProfiles : Option ForgeProfiles) :
    PowerSweepProgress PowerSweepPoint :=
  let prog := match finalProfiles with
    | none => prog
    | some profiles =>
      match publishF2ProfileSetPowerFromApplyQualification run loop.observations profiles.all with
      | .ok ([godforge, brokkrs, deepCalm], _) =>
        { prog with
          powerBoundCollapse := profiles.powerBoundCollapse
          godforge, brokkrs, deepCalm
          recommended := brokkrs }
      | _ => prog
  { prog with
    profilesQualified := f2ProfilesMeetQualification run.policy prog.profiles
      ForgePolicy.balanced.confidenceThreshold
    points := loop.classified.map Prod.fst }

def atEnd (ending : ForgeEnding) (resetOk pause : Bool) : PowerSweepProgress PowerSweepPoint :=
  match ending with
  | .partialFrontier forgeComplete forgeAborted retainBootFlag =>
    prog.finished forgeComplete forgeAborted retainBootFlag resetOk pause
  | .uncalibrated points forgeAborted retainBootFlag =>
    PowerSweepProgress.finished { prog with
      godforge := none, brokkrs := none, deepCalm := none, recommended := none,
      profilesQualified := false, points := points.map Prod.fst }
      true forgeAborted retainBootFlag resetOk pause
  | .closed loop finalProfiles =>
    (prog.published run loop finalProfiles).finished true loop.forgeAborted loop.retainBootFlag
      resetOk pause

end PowerSweepProgress

def ForgeEnding.Reached (run : ForgeRun) (frontier : ClassifiedFrontier)
    (observations : List F2Observation) : ForgeEnding → Prop
  | .closed loop finalProfiles =>
    (∃ l, (run.exactApply frontier.points observations).Run l loop) ∧
      loop.phase = .ended finalProfiles
  | _ => True

/-- A run that ends qualified had a final set and published it: three points that its own gate
approved and soaked, at pairs it did not exclude. -/
def PublishesOwn (run : ForgeRun) (ending : ForgeEnding)
    (ended : PowerSweepProgress PowerSweepPoint) : Prop :=
  ended.profilesQualified = true → ∃ loop profiles changed,
    ending = .closed loop (some profiles) ∧
    publishF2ProfileSetPowerFromApplyQualification run loop.observations profiles.all =
      .ok (ended.profiles, changed) ∧
    ∀ profile ∈ ended.profiles, ∃ point key, profile = some point ∧
      f2ApplyKey point = some key ∧ point.approved = true ∧
      run.enduranceQualified loop.observations key = true ∧ key ∉ loop.excludedApplyPairs

section Publication

variable {run : ForgeRun} {observations : List F2Observation}

theorem publishF2ProfilePower_ok {point published : PowerSweepPoint} {raised : Bool}
    (h : publishF2ProfilePowerFromApplyQualification run observations point =
      .ok (published, raised)) :
    f2ApplyKey published = f2ApplyKey point ∧ published.approved = point.approved := by
  unfold publishF2ProfilePowerFromApplyQualification at h
  simp only at h
  split at h
  next => cases h
  next =>
    split at h
    next => cases h
    next =>
      split at h
      next => cases h
      next =>
        obtain ⟨rfl, -⟩ := Prod.mk.inj (Except.ok.inj h)
        exact ⟨rfl, rfl⟩

theorem publishF2ProfileSet_ok {profiles published : List (Option PowerSweepPoint)}
    {changed : Nat}
    (h : publishF2ProfileSetPowerFromApplyQualification run observations profiles =
      .ok (published, changed)) :
    published.length = profiles.length ∧ (none ∈ published → none ∈ profiles) ∧
      ∀ point, some point ∈ published → ∃ old, some old ∈ profiles ∧
        f2ApplyKey point = f2ApplyKey old ∧ point.approved = old.approved := by
  induction profiles generalizing published changed with
  | nil =>
    obtain ⟨rfl, -⟩ := Prod.mk.inj (Except.ok.inj h)
    simp
  | cons profile rest ih =>
    cases hrest : publishF2ProfileSetPowerFromApplyQualification run observations rest with
    | error e =>
      cases profile with
      | none => simp [publishF2ProfileSetPowerFromApplyQualification, hrest, bind, Except.bind] at h
      | some point =>
        cases hpoint : publishF2ProfilePowerFromApplyQualification run observations point <;>
          simp [publishF2ProfileSetPowerFromApplyQualification, hrest, hpoint, bind,
            Except.bind] at h
    | ok result =>
      obtain ⟨hlength, hnone, hsome⟩ := ih hrest
      cases profile with
      | none =>
        simp only [publishF2ProfileSetPowerFromApplyQualification, hrest, bind,
          Except.bind] at h
        obtain ⟨rfl, -⟩ := Prod.mk.inj (Except.ok.inj h)
        refine ⟨by simp [hlength], fun _ => List.mem_cons_self, fun point hpoint => ?_⟩
        obtain ⟨old, hold, hsame⟩ := hsome point (by simpa using hpoint)
        exact ⟨old, List.mem_cons_of_mem _ hold, hsame⟩
      | some point =>
        cases hpoint : publishF2ProfilePowerFromApplyQualification run observations point with
        | error e =>
          simp [publishF2ProfileSetPowerFromApplyQualification, hpoint, bind, Except.bind] at h
        | ok raised =>
          simp only [publishF2ProfileSetPowerFromApplyQualification, hrest, hpoint, bind,
            Except.bind] at h
          obtain ⟨rfl, -⟩ := Prod.mk.inj (Except.ok.inj h)
          refine ⟨by simp [hlength], fun hmem => ?_, fun other hother => ?_⟩
          · exact List.mem_cons_of_mem _ (hnone (by simpa using hmem))
          · rcases List.mem_cons.mp hother with heq | hother
            · obtain rfl := Option.some.inj heq
              exact ⟨point, List.mem_cons_self, publishF2ProfilePower_ok hpoint⟩
            · obtain ⟨old, hold, hsame⟩ := hsome other hother
              exact ⟨old, List.mem_cons_of_mem _ hold, hsame⟩

end Publication

section Ending

variable {prog : PowerSweepProgress PowerSweepPoint} {run : ForgeRun}
  {forgeComplete forgeAborted retainBootFlag resetOk pause : Bool}

theorem PowerSweepProgress.finished_profiles {Point : Type} {prog : PowerSweepProgress Point} :
    (prog.finished forgeComplete forgeAborted retainBootFlag resetOk pause).profilesQualified =
        (resetOk && prog.profilesQualified) ∧
      (resetOk = true →
        (prog.finished forgeComplete forgeAborted retainBootFlag resetOk pause).profiles =
          prog.profiles) := by
  unfold PowerSweepProgress.finished PowerSweepProgress.offerResume
  cases resetOk with
  | false =>
    refine ⟨?_, fun hno => by cases hno⟩
    simp only [Bool.false_and, Bool.and_false, Bool.false_eq_true, if_false]
  | true =>
    simp only [if_true, Bool.true_and, forall_const]
    split
    next => exact ⟨rfl, rfl⟩
    next => exact ⟨rfl, rfl⟩

theorem PowerSweepProgress.published_qualified {loop : ApplyLoop}
    {finalProfiles : Option ForgeProfiles}
    (hcarried : f2ProfilesMeetQualification run.policy prog.profiles
      ForgePolicy.balanced.confidenceThreshold = false)
    (h : (prog.published run loop finalProfiles).profilesQualified = true) :
    ∃ profiles changed, finalProfiles = some profiles ∧
      publishF2ProfileSetPowerFromApplyQualification run loop.observations profiles.all =
        .ok ((prog.published run loop finalProfiles).profiles, changed) := by
  unfold PowerSweepProgress.published at h ⊢
  cases finalProfiles with
  | none => exact absurd h (by simp [hcarried])
  | some profiles =>
    simp only at h ⊢
    split at h
    next godforge brokkrs deepCalm changed hok => exact ⟨profiles, changed, rfl, hok⟩
    next => exact absurd h (by simp [hcarried])

end Ending

def cancelledAnswers : ApplyAnswers where
  gate := fun _ =>
    { summary := { qualified := false, cancelled := true, stopReason := "Cancelled" } }
  calibration := noCalibration

namespace ApplyLoop

variable {run : ForgeRun} {s : ApplyLoop} {key : ApplyPair} {point : PowerSweepPoint}
  {profiles : ForgeProfiles} {rest : List PowerSweepPoint}

theorem gatePasses_cancelled {key : ApplyPair} :
    (s.gatePasses key cancelledAnswers).summary = (cancelledAnswers.gate 0).summary := by
  unfold gatePasses runGate
  cases cancelledAnswers.condemned.requiredApplyPasses key.1 key.2
      f2QualificationContractVersion - 1 with
  | zero => rfl
  | succ left => rfl

theorem cancelled_honest : s.Honest run cancelledAnswers := by
  intro key _ hqualified
  rw [gatePasses_cancelled] at hqualified
  cases hqualified

/-- A pair without approval and without a dominator goes to the gate, which ends the run. -/
theorem advance_cancelled {changed : Bool}
    (hphase : s.phase = .qualify profiles (point :: rest) changed)
    (hkey : f2ApplyKey point = some key)
    (hfresh : ∀ entry ∈ s.classified, entry.1.approved = false) :
    (s.advance run cancelledAnswers).phase = .ended none := by
  have hopen : s.alreadyQualified run key = false := by
    rw [Bool.eq_false_iff]
    intro hdone
    obtain ⟨⟨entry, hentry, -, happroved⟩, -⟩ := alreadyQualified_iff.mp hdone
    rw [hfresh entry hentry] at happroved
    cases happroved
  have hdominator : f2ApprovedDominator point s.classified = none := by
    cases hsome : f2ApprovedDominator point s.classified with
    | none => rfl
    | some dominator =>
      obtain ⟨entry, hentry, -, happroved, -⟩ := f2ApprovedDominator_spec hsome
      rw [hfresh entry hentry] at happroved
      cases happroved
  have hsummary := @gatePasses_cancelled s key
  unfold gatePasses at hsummary
  unfold advance
  rw [hphase]
  simp only [qualifyPoint, hkey, hopen, hdominator, Bool.false_eq_true, if_false, hsummary]
  rfl

end ApplyLoop

namespace ForgeRun

variable {run : ForgeRun} {frontier : ClassifiedFrontier} {observations : List F2Observation}

/-- Every frontier has a run that ends without a final set. -/
theorem exactApply_ends_none : ∃ l s,
    (run.exactApply frontier.points observations).Run l s ∧ s.phase = .ended none := by
  have hstart : (run.exactApply frontier.points observations).Run []
      (run.start frontier.points observations) := .start rfl
  have hstep {s : ApplyLoop} (hopen : ¬ s.hasEnded) :
      (run.exactApply frontier.points observations).step s cancelledAnswers
        (s.advance run cancelledAnswers) := ⟨hopen, ApplyLoop.cancelled_honest, rfl⟩
  have hopen : ¬ (run.start frontier.points observations).hasEnded := by
    rintro ⟨_, hended⟩
    cases hended
  have hfirst := hstart.next (hstep hopen)
  rcases @ApplyLoop.synthesize_cases run (run.start frontier.points observations) with
    heq | ⟨profiles, heq, hcomplete, hselectable⟩
  · refine ⟨_, _, hfirst, ?_⟩
    show ((run.start frontier.points observations).synthesize run).phase = .ended none
    rw [heq]
  · obtain ⟨godforge, hgodforge⟩ : ∃ point, some point ∈ profiles.all := by
      cases hgodforge : profiles.godforge with
      | none => exact absurd (by simp [ForgeProfiles.all, hgodforge]) hcomplete
      | some point => exact ⟨point, by simp [ForgeProfiles.all, hgodforge]⟩
    obtain ⟨-, -, key, hkey, -⟩ := hselectable godforge hgodforge
    obtain ⟨kept, hkept, -⟩ := exists_mem_f2UniqueProfilePoints hgodforge hkey
    obtain ⟨point, rest, hselected⟩ := List.exists_cons_of_ne_nil (List.ne_nil_of_mem hkept)
    obtain ⟨-, pair, hpair⟩ := mem_f2UniqueProfilePoints
      (hselected ▸ List.mem_cons_self : point ∈ f2UniqueProfilePoints profiles.all)
    change (run.exactApply frontier.points observations).Run _
      ((run.start frontier.points observations).synthesize run) at hfirst
    rw [heq, hselected] at hfirst
    refine ⟨_, _, hfirst.next (hstep ?_), ?_⟩
    · rintro ⟨_, hended⟩
      cases hended
    refine ApplyLoop.advance_cancelled rfl hpair fun entry hentry => ?_
    rw [PowerSweepPoint.approved, frontier.fresh entry hentry, Bool.false_and]

end ForgeRun

/-- A run publishes only what it qualified itself exactly when the profiles it carries over do not
already pass for qualified. -/
theorem forge_publishes_own_iff (run : ForgeRun) (frontier : ClassifiedFrontier)
    (observations : List F2Observation) (previous : PowerSweepProgress PowerSweepPoint)
    (learning : ForgeLearning) (resumeRequested : Bool)
    (compatibility : Option ForgeResumeCompatibility) :
    (∀ ending resetOk pause, ForgeEnding.Reached run frontier observations ending →
      PublishesOwn run ending
        ((previous.measuring run learning resumeRequested compatibility).atEnd run ending resetOk
          pause)) ↔
      f2ProfilesMeetQualification run.policy
        (previous.carried learning resumeRequested).profiles
        ForgePolicy.balanced.confidenceThreshold = false := by
  constructor
  · intro h
    rw [Bool.eq_false_iff]
    intro hcarried
    obtain ⟨l, s, hrun, hphase⟩ := @ForgeRun.exactApply_ends_none run frontier observations
    have hpublishes := h (.closed s none) true false ⟨⟨l, hrun⟩, hphase⟩
    have hqualified : ((previous.measuring run learning resumeRequested compatibility).atEnd run
        (.closed s none) true false).profilesQualified = true := by
      rw [PowerSweepProgress.atEnd, PowerSweepProgress.finished_profiles.1]
      exact hcarried
    obtain ⟨loop, profiles, changed, hending, -⟩ := hpublishes hqualified
    cases hending
  · intro hcarried ending resetOk pause hreached hqualified
    cases ending with
    | partialFrontier forgeComplete forgeAborted retainBootFlag =>
      rw [PowerSweepProgress.atEnd, PowerSweepProgress.finished_profiles.1] at hqualified
      cases resetOk <;> cases hqualified
    | uncalibrated points forgeAborted retainBootFlag =>
      rw [PowerSweepProgress.atEnd, PowerSweepProgress.finished_profiles.1] at hqualified
      cases resetOk <;> cases hqualified
    | closed loop finalProfiles =>
      obtain ⟨⟨l, hrun⟩, hphase⟩ := hreached
      rw [PowerSweepProgress.atEnd, PowerSweepProgress.finished_profiles.1,
        Bool.and_eq_true] at hqualified
      obtain ⟨hreset, hqualified⟩ := hqualified
      have hcarried' : f2ProfilesMeetQualification run.policy
          (previous.measuring run learning resumeRequested compatibility).profiles
            ForgePolicy.balanced.confidenceThreshold = false := hcarried
      obtain ⟨profiles, changed, rfl, hok⟩ :=
        PowerSweepProgress.published_qualified hcarried' hqualified
      obtain ⟨hcomplete, hproved⟩ := ForgeRun.exactApply_final hrun hphase
      obtain ⟨-, hnone, hsome⟩ := publishF2ProfileSet_ok hok
      have hkept : ((previous.measuring run learning resumeRequested compatibility).atEnd run
          (.closed loop (some profiles)) resetOk pause).profiles =
            ((previous.measuring run learning resumeRequested compatibility).published run loop
              (some profiles)).profiles :=
        PowerSweepProgress.finished_profiles.2 hreset
      refine ⟨loop, profiles, changed, rfl, by rw [hkept, hok], fun profile hprofile => ?_⟩
      rw [hkept] at hprofile
      cases profile with
      | none => exact absurd (hnone hprofile) hcomplete
      | some point =>
        obtain ⟨old, hold, hkeyEq, happrovedEq⟩ := hsome point hprofile
        obtain ⟨key, hkey, hnot, happroved, hsoak, -, -⟩ := hproved old hold
        exact ⟨point, key, rfl, hkeyEq.trans hkey, happrovedEq.trans happroved, hsoak, hnot⟩

def earlierProgress : PowerSweepProgress PowerSweepPoint :=
  let point := { samplePoint 1900 900 150 with
    applyQualified := true
    applyQualificationVersion := some f2QualificationContractVersion }
  { phase := "finished", runId := some "run-earlier", profilesQualified := true,
    godforge := some point, brokkrs := some point, deepCalm := some point }

def failingAnswers (stopReason : String) : ApplyAnswers where
  gate := fun _ => { summary := { qualified := false, stopReason := stopReason } }
  calibration := noCalibration

def staleEnd (s : ApplyLoop) : PowerSweepProgress PowerSweepPoint :=
  (earlierProgress.measuring sampleForge .persistent false none).atEnd sampleForge
    (.closed s none) true false

def ApplyLoop.endsWithoutSet (s : ApplyLoop) : Bool :=
  match s.phase with
  | .ended none => true
  | _ => false

theorem ApplyLoop.phase_of_endsWithoutSet {s : ApplyLoop} (h : s.endsWithoutSet = true) :
    s.phase = .ended none := by
  unfold endsWithoutSet at h
  split at h
  next hphase => exact hphase
  next => cases h

/-- The gate rejects the pair of the earlier profiles, the run has no other one, and yet it ends
with them as qualified. -/
theorem forge_publishes_stale : ∃ l s,
    (sampleForge.exactApply sampleFrontier.points []).Run l s ∧ s.phase = .ended none ∧
      s.gates = [(1900, 900)] ∧ (1900, 900) ∈ s.excludedApplyPairs ∧
      (staleEnd s).profilesQualified = true ∧ (staleEnd s).phase = "finished" ∧
      (staleEnd s).profiles = earlierProgress.profiles ∧
      ¬ PublishesOwn sampleForge (.closed s none) (staleEnd s) := by
  have hany : ((List.replicate 3 (failingAnswers "ExactApplyRejected: SilentError")).foldlM
      (ApplyLoop.follow sampleForge) (sampleForge.start sampleFrontier.points [])).any
        (fun s => s.endsWithoutSet && decide (s.gates = [(1900, 900)] ∧
          (1900, 900) ∈ s.excludedApplyPairs ∧ (staleEnd s).profilesQualified = true ∧
          (staleEnd s).phase = "finished" ∧
          (staleEnd s).profiles = earlierProgress.profiles)) = true := by decide +kernel
  obtain ⟨s, hrun, hend⟩ := ForgeRun.exists_run_of_any hany
  rw [Bool.and_eq_true, decide_eq_true_eq] at hend
  obtain ⟨hphase, hgates, hexcluded, hqualified, hended, hprofiles⟩ := hend
  refine ⟨_, s, hrun, ApplyLoop.phase_of_endsWithoutSet hphase, hgates, hexcluded, hqualified,
    hended, hprofiles, fun h => ?_⟩
  obtain ⟨loop, profiles, changed, hending, -⟩ := h hqualified
  cases hending

end Nidavellir

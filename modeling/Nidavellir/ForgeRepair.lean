import Nidavellir.ForgeDominance

namespace Nidavellir

open Runs

/-- The outcome texts that make a repair skip a bin. -/
def hardFailureWords : List String := ["tdr", "device", "crash", "wedge"]

theorem repairStepBins_of_not_hard {stopReason : String}
    (h : mentions stopReason hardFailureWords = false) : repairStepBins stopReason = 1 := by
  rw [repairStepBins, if_neg (by simpa [hardFailureWords] using h)]

namespace ApplyLoop

variable (run : ForgeRun) (s : ApplyLoop) (answers : ApplyAnswers)

def approvedPairs : List ApplyPair := keysOf (s.classified.filter fun entry => entry.1.approved)

/-- The bin is where the repair of the pair leads, and no observation of the log measured it. -/
def ClimbsUnmeasured (log : List F2Observation) (key : ApplyPair) (profileMaxMv mv : Nat) : Prop :=
  key.2 < mv ∧ mv ≤ profileMaxMv ∧
    pairCondemned answers.record answers.condemnedAfter key.1 mv = false ∧
    (∀ lower ∈ run.saneBaseCurve, key.2 < lower.mv → lower.mv < mv →
      pairCondemned answers.record answers.condemnedAfter key.1 lower.mv = true) ∧
    measuredPowerAtPair run.watts log run.gpuKey key.1 mv = none ∧
    ¬ (0 < run.powerLimitW ∧ offCapCeilingW run.powerLimitW <
      (measuredPowerAtPair run.watts log run.gpuKey key.1 key.2).getD 0)

/-- The ground on which a failed pair is repaired soundly: the failure is no driver reset, the run
has neither tried a bin above it without a condemnation nor approved the pair below it, and a bin
that needs a power measurement gets one. -/
@[mk_iff]
structure OpenGround (profiles : ForgeProfiles) (key : ApplyPair) : Prop where
  soft : mentions (s.gatePasses key answers).summary.stopReason hardFailureWords = false
  above : ∀ bin ∈ run.saneBaseCurve, key.2 < bin.mv →
    bin.mv ≤ f2ProfileRepairMaxMv (f2ProfileRole profiles key) profiles key run.saneBaseCurve →
    (key.1, bin.mv) ∈ s.excludedApplyPairs ∨ (key.1, bin.mv) ∈ s.approvedPairs →
    pairCondemned answers.record answers.condemnedAfter key.1 bin.mv = true
  below : ∀ pair ∈ s.approvedPairs, pair.2 = key.2 → pair.1 < key.1 →
    ∃ other ∈ keysOf s.classified, pair.1 < other.1 ∧ other.1 < key.1
  measured : ∀ bin ∈ run.saneBaseCurve,
    ClimbsUnmeasured run answers (s.gatePasses key answers).observations key
      (f2ProfileRepairMaxMv (f2ProfileRole profiles key) profiles key run.saneBaseCurve) bin.mv →
    answers.calibration.summary.aborted = true ∨
      answers.calibration.summary.confirmed = true ∧
        (measuredPowerAtPair run.watts ((s.gatePasses key answers).observations ++
          answers.calibration.appended) run.gpuKey key.1 bin.mv).isSome = true

def passProfiles : Option ForgeProfiles :=
  match s.phase with
  | .qualify profiles _ _ => some profiles
  | _ => none

/-- The step does not fail a pair, or fails it on open ground. -/
def RepairsOnOpenGround : Prop :=
  ∀ key ∈ s.gatesNext run, ∀ profiles ∈ s.passProfiles,
    (s.gatePasses key answers).summary.qualified = true ∨ OpenGround run s answers profiles key

instance (log : List F2Observation) (key : ApplyPair) (profileMaxMv mv : Nat) :
    Decidable (ClimbsUnmeasured run answers log key profileMaxMv mv) :=
  inferInstanceAs (Decidable (_ ∧ _))

local instance : LawfulBEq ApplyPair := inferInstanceAs (LawfulBEq (Nat × Nat))

instance (profiles : ForgeProfiles) (key : ApplyPair) :
    Decidable (OpenGround run s answers profiles key) :=
  decidable_of_iff _ (openGround_iff run s answers profiles key).symm

instance : Decidable (s.RepairsOnOpenGround run answers) :=
  inferInstanceAs (Decidable (∀ key ∈ s.gatesNext run, _))

/-- The bin needs no try any more: it is condemned, was tried in vain in this run, or draws more
than may be published, as already a lower bin of its clock does. -/
def Exhausted (s' : ApplyLoop) (key : ApplyPair) (mv : Nat) : Prop :=
  pairCondemned answers.record answers.condemnedAfter key.1 mv = true ∨
    (key.1, mv) ∈ s'.gates ∧ (key.1, mv) ∈ s'.excludedApplyPairs ∨
    0 < run.powerLimitW ∧ ∃ measuredMv w, key.2 ≤ measuredMv ∧ measuredMv ≤ mv ∧
      measuredPowerAtPair run.watts s'.observations run.gpuKey key.1 measuredMv = some w ∧
      offCapCeilingW run.powerLimitW < w

/-- A pair that the step admits is open and was not approved, and the step gives a clock up only
where all its bins are exhausted. -/
structure RepairsSoundly (s' : ApplyLoop) : Prop where
  admitted : ∀ pair, s'.admitted = s.admitted ++ [pair] →
    pair ∉ s'.excludedApplyPairs ∧ pair ∉ s.approvedPairs
  givenUp : ∀ key profileMaxMv, s'.givenUp = s.givenUp ++ [(key, profileMaxMv)] →
    ∀ bin ∈ run.saneBaseCurve, key.2 < bin.mv → bin.mv ≤ profileMaxMv →
      Exhausted run answers s' key bin.mv

/-- The repairs are as before. -/
structure SameRepairs (s s' : ApplyLoop) : Prop where
  admitted : s'.admitted = s.admitted
  givenUp : s'.givenUp = s.givenUp

variable {run : ForgeRun} {s s' : ApplyLoop} {answers : ApplyAnswers} {key : ApplyPair}
  {point : PowerSweepPoint} {profiles : ForgeProfiles} {rest : List PowerSweepPoint}
  {calibration : Reply F2PowerCalibrationSummary} {role : F2ProfileRole}
  {profileMaxMv nextMv : Nat}

theorem SameRepairs.sound (h : SameRepairs s s') : RepairsSoundly run s answers s' where
  admitted pair hadmitted := absurd (h.admitted.symm.trans hadmitted) (by simp)
  givenUp key profileMaxMv hgivenUp := absurd (h.givenUp.symm.trans hgivenUp) (by simp)

theorem synthesize_sameRepairs : SameRepairs s (s.synthesize run) := by
  rcases @synthesize_cases run s with heq | ⟨profiles, heq, -, -⟩
  · rw [heq]
    exact ⟨rfl, rfl⟩
  · rw [heq]
    exact ⟨rfl, rfl⟩

theorem passed_sameRepairs : SameRepairs s (s.passed run profiles rest key) := by
  unfold passed
  split
  next => exact ⟨rfl, rfl⟩
  next =>
    simp only
    split
    next => exact ⟨rfl, rfl⟩
    next => exact ⟨rfl, rfl⟩

/-- What a climb leaves: the bin admitted, a calibration that aborts, or the clock given up for want
of a power or for too much of it. -/
theorem climbed_cases {power : Option ℚ} :
    (s.climbed run role profileMaxMv point key nextMv power).excludedApplyPairs =
        s.excludedApplyPairs ∧
      (s.climbed run role profileMaxMv point key nextMv power).observations = s.observations ∧
      ((s.climbed run role profileMaxMv point key nextMv power).admitted =
            s.admitted ++ [(key.1, nextMv)] ∧
          (s.climbed run role profileMaxMv point key nextMv power).givenUp = s.givenUp ∨
        (s.climbed run role profileMaxMv point key nextMv power).admitted = s.admitted ∧
          (s.climbed run role profileMaxMv point key nextMv power).givenUp =
            s.givenUp ++ [(key, profileMaxMv)] ∧
          ∀ w, power = some w → run.powerAdmits w = false) := by
  unfold climbed
  split
  next => exact ⟨rfl, rfl, .inr ⟨rfl, rfl, fun w hw => by cases hw⟩⟩
  next p99 =>
    split
    next => exact ⟨rfl, rfl, .inl ⟨rfl, rfl⟩⟩
    next hrefused =>
      refine ⟨rfl, rfl, .inr ⟨rfl, rfl, fun w hw => ?_⟩⟩
      obtain rfl := Option.some.inj hw
      simpa using hrefused

theorem powerAdmits_eq_false {w : ℚ} (h : run.powerAdmits w = false) :
    0 < run.powerLimitW ∧ offCapCeilingW run.powerLimitW < w := by
  rw [ForgeRun.powerAdmits, Bool.or_eq_false_iff, decide_eq_false_iff_not,
    decide_eq_false_iff_not, not_le, not_le] at h
  exact h

theorem climb_cases {measured : Option ℚ}
    (hmeasured : measured =
      measuredPowerAtPair run.watts s.observations run.gpuKey key.1 nextMv)
    (hs' : s' = s.climb run role profileMaxMv point key nextMv measured calibration) :
    s'.excludedApplyPairs = s.excludedApplyPairs ∧
      (s'.admitted = s.admitted ++ [(key.1, nextMv)] ∧ s'.givenUp = s.givenUp ∨
        SameRepairs s s' ∨
        s'.admitted = s.admitted ∧ s'.givenUp = s.givenUp ++ [(key, profileMaxMv)] ∧
          ((0 < run.powerLimitW ∧ ∃ w,
              measuredPowerAtPair run.watts s'.observations run.gpuKey key.1 nextMv = some w ∧
                offCapCeilingW run.powerLimitW < w) ∨
            measured = none ∧ calibration.summary.aborted = false ∧
              (calibration.summary.confirmed = true →
                measuredPowerAtPair run.watts (s.observations ++ calibration.appended) run.gpuKey
                  key.1 nextMv = none))) := by
  subst hs'
  unfold climb
  split
  next p99 =>
    obtain ⟨hexcluded, hlog, hadmits | ⟨hadmitted, hgivenUp, hrefused⟩⟩ :=
      @climbed_cases run s key point role profileMaxMv nextMv (some p99)
    · exact ⟨hexcluded, .inl hadmits⟩
    · obtain ⟨hlimit, hceiling⟩ := powerAdmits_eq_false (hrefused p99 rfl)
      refine ⟨hexcluded, .inr (.inr ⟨hadmitted, hgivenUp, .inl ⟨hlimit, p99, ?_, hceiling⟩⟩)⟩
      rw [hlog, ← hmeasured]
  next =>
    simp only
    split
    next => exact ⟨rfl, .inr (.inl ⟨rfl, rfl⟩)⟩
    next haborted =>
      rw [Bool.not_eq_true] at haborted
      split
      next =>
        obtain ⟨hexcluded, hlog, hadmits | ⟨hadmitted, hgivenUp, hrefused⟩⟩ :=
          @climbed_cases run (s.calibrated calibration) key point role profileMaxMv nextMv
            (measuredPowerAtPair run.watts (s.calibrated calibration).observations run.gpuKey
              key.1 nextMv)
        · exact ⟨hexcluded, .inl hadmits⟩
        · refine ⟨hexcluded, .inr (.inr ⟨hadmitted, hgivenUp, ?_⟩)⟩
          cases hpower : measuredPowerAtPair run.watts (s.calibrated calibration).observations
              run.gpuKey key.1 nextMv with
          | none => exact .inr ⟨trivial, haborted, fun _ => hpower⟩
          | some w =>
            obtain ⟨hlimit, hceiling⟩ := powerAdmits_eq_false (hrefused w hpower)
            rw [hpower] at hlog
            exact .inl ⟨hlimit, w, by rw [hlog, hpower], hceiling⟩
      next hconfirmed =>
        obtain ⟨hexcluded, -, hadmits | ⟨hadmitted, hgivenUp, -⟩⟩ :=
          @climbed_cases run (s.calibrated calibration) key point role profileMaxMv nextMv none
        · exact ⟨hexcluded, .inl hadmits⟩
        · exact ⟨hexcluded, .inr (.inr ⟨hadmitted, hgivenUp,
            .inr ⟨trivial, haborted, fun h => absurd h hconfirmed⟩⟩)⟩

/-- A fast-drop admits its candidate or nothing, and gives no clock up. -/
theorem fastDrop_cases (hs' : s' = s.fastDrop run key calibration) :
    s'.excludedApplyPairs = s.excludedApplyPairs ∧ s'.gates = s.gates ∧
      (∃ later, s'.observations = s.observations ++ later) ∧ s'.givenUp = s.givenUp ∧
      (s'.admitted = s.admitted ∨ ∃ carried confidence,
        f2GodforgeFastDropCandidate s.classified s.excludedApplyPairs key =
          some (carried, confidence) ∧
        s'.admitted = s.admitted ++ [(carried.target, key.2)]) := by
  subst hs'
  have hlog : ∃ later, s.observations = s.observations ++ later :=
    ⟨[], (List.append_nil _).symm⟩
  unfold fastDrop
  split
  next => exact ⟨rfl, rfl, hlog, rfl, .inl rfl⟩
  next carried confidence hcarried =>
    simp only
    split
    next => exact ⟨rfl, rfl, ⟨_, rfl⟩, rfl, .inl rfl⟩
    next =>
      split
      next =>
        split
        next => exact ⟨rfl, rfl, ⟨_, rfl⟩, rfl, .inl rfl⟩
        next =>
          split
          next => exact ⟨rfl, rfl, ⟨_, rfl⟩, rfl, .inr ⟨carried, confidence, hcarried, rfl⟩⟩
          next => exact ⟨rfl, rfl, ⟨_, rfl⟩, rfl, .inl rfl⟩
      next => exact ⟨rfl, rfl, ⟨_, rfl⟩, rfl, .inl rfl⟩

/-- The failed pair and what depends on it lie at or below the failed voltage. -/
theorem not_mem_failedKeys {keys : List ApplyPair} {pair : ApplyPair}
    (hkeys : keys ⊆ f2RegimeDependentApplyKeys key s.classified) (hlt : key.2 < pair.2)
    (hpair : pair ∉ s.excludedApplyPairs) :
    pair ∉ s.excludedApplyPairs ∪ insert key keys.toFinset := by
  intro hmem
  rcases Finset.mem_union.mp hmem with hold | hnew
  · exact hpair hold
  · rcases Finset.mem_insert.mp hnew with rfl | hdependent
    · exact absurd hlt (lt_irrefl _)
    · obtain ⟨entry, -, hentry⟩ := List.mem_filterMap.mp (hkeys (List.mem_toFinset.mp hdependent))
      obtain ⟨pair', -, hentry⟩ := Option.bind_eq_some_iff.mp hentry
      obtain ⟨support, -, hentry⟩ := Option.bind_eq_some_iff.mp hentry
      split at hentry
      next hbelow =>
        obtain rfl := Option.some.inj hentry
        omega
      next => cases hentry

/-- The state after the gate of a pair failed: the pair and its dependents `keys` are excluded. -/
structure FailedFrom (run : ForgeRun) (s : ApplyLoop) (answers : ApplyAnswers) (key : ApplyPair)
    (keys : List ApplyPair) (failedState : ApplyLoop) : Prop where
  dependents : keys ⊆ f2RegimeDependentApplyKeys key s.classified
  classified : failedState.classified = s.classified
  excluded : failedState.excludedApplyPairs = s.excludedApplyPairs ∪ insert key keys.toFinset
  observations : failedState.observations = (s.gatePasses key answers).observations
  admitted : failedState.admitted = s.admitted
  givenUp : failedState.givenUp = s.givenUp

/-- What a step that gives the clock of a pair up leaves; a fast-drop may still take its place. -/
structure GivesUp (s s' : ApplyLoop) (key : ApplyPair) (profileMaxMv : Nat) : Prop where
  excluded : s'.excludedApplyPairs = s.excludedApplyPairs
  observations : ∃ later, s'.observations = s.observations ++ later
  givenUp : s'.givenUp = s.givenUp ++ [(key, profileMaxMv)]
  admitted : s'.admitted = s.admitted ∨ ∃ carried confidence,
    f2GodforgeFastDropCandidate s.classified s.excludedApplyPairs key =
      some (carried, confidence) ∧ s'.admitted = s.admitted ++ [(carried.target, key.2)]

theorem givesUp_fastDrop : GivesUp s
    (if role = .godforge then (s.givingUp key profileMaxMv).fastDrop run key calibration
      else s.givingUp key profileMaxMv) key profileMaxMv := by
  split
  next =>
    obtain ⟨hkeep, -, hlater, hgives, hadmits⟩ :=
      @fastDrop_cases run (s.givingUp key profileMaxMv) _ key calibration rfl
    exact ⟨hkeep, hlater, hgives, hadmits⟩
  next => exact ⟨rfl, ⟨[], (List.append_nil _).symm⟩, rfl, .inl rfl⟩

section Failed

variable {keys : List ApplyPair} {failedState : ApplyLoop}

/-- The bin above takes the place of the failed pair, or its clock is exhausted. -/
theorem FailedFrom.climb_sound (h : FailedFrom run s answers key keys failedState)
    (hground : OpenGround run s answers profiles key) {measured : Option ℚ}
    (hplan : f2PlanVerticalRepair run.watts run.saneBaseCurve answers.record
      answers.condemnedAfter failedState.observations run.gpuKey key.1 key.2
      (s.gatePasses key answers).summary.stopReason run.powerLimitW
      (f2ProfileRepairMaxMv (f2ProfileRole profiles key) profiles key run.saneBaseCurve) =
        .ok (nextMv, measured)) :
    RepairsSoundly run s answers (failedState.climb run (f2ProfileRole profiles key)
      (f2ProfileRepairMaxMv (f2ProfileRole profiles key) profiles key run.saneBaseCurve) point key
      nextMv measured answers.calibration) := by
  obtain ⟨⟨bin, hbin, rfl⟩, hlt, hmax, hfree, hpower, -⟩ := f2PlanVerticalRepair_ok hplan
  obtain ⟨hleast, hfailedPower⟩ :=
    f2PlanVerticalRepair_least (repairStepBins_of_not_hard hground.soft) hplan
  have hopen : (key.1, bin.mv) ∉ s.excludedApplyPairs ∧ (key.1, bin.mv) ∉ s.approvedPairs := by
    constructor
    · intro hin
      rw [hground.above bin hbin hlt hmax (.inl hin)] at hfree
      cases hfree
    · intro hin
      rw [hground.above bin hbin hlt hmax (.inr hin)] at hfree
      cases hfree
  generalize hs' : failedState.climb run _ _ point key bin.mv measured answers.calibration = s'
  obtain ⟨hkeep, hcases⟩ := climb_cases hpower hs'.symm
  rw [h.admitted, h.givenUp] at hcases
  rcases hcases with ⟨hadmits, hsame⟩ | hsame | ⟨hsame, hgives, hwhy⟩
  · refine ⟨fun pair hpair => ?_, fun _ _ hno => absurd (hsame.symm.trans hno) (by simp)⟩
    obtain rfl : (key.1, bin.mv) = pair :=
      List.singleton_inj.mp (List.append_cancel_left (hadmits.symm.trans hpair))
    refine ⟨?_, hopen.2⟩
    rw [hkeep, h.excluded]
    exact not_mem_failedKeys h.dependents hlt hopen.1
  · exact SameRepairs.sound ⟨hsame.admitted.trans h.admitted, hsame.givenUp.trans h.givenUp⟩
  · refine ⟨fun _ hno => absurd (hsame.symm.trans hno) (by simp), fun key' max' hpair => ?_⟩
    obtain ⟨rfl, rfl⟩ := Prod.mk.inj
      (List.singleton_inj.mp (List.append_cancel_left (hgives.symm.trans hpair)))
    intro other hother hotherLt hotherMax
    by_cases hbelowBin : other.mv < bin.mv
    · exact .inl (hleast other hother hotherLt hbelowBin)
    · rcases hwhy with ⟨hlimit, w, hw, hceiling⟩ | ⟨hnone, haborted, hconfirmed⟩
      · exact .inr (.inr ⟨hlimit, bin.mv, w, hlt.le, not_lt.mp hbelowBin, hw, hceiling⟩)
      · rw [hpower, h.observations] at hnone
        rw [h.observations] at hconfirmed hfailedPower
        rcases hground.measured bin hbin ⟨hlt, hmax, hfree, hleast, hnone, hfailedPower⟩ with
          hyes | ⟨hyes, hsome⟩
        · rw [haborted] at hyes
          cases hyes
        · rw [hconfirmed hyes] at hsome
          cases hsome

/-- The clock of the failed pair is given up only where all its bins are exhausted. -/
theorem FailedFrom.givesUp_sound (h : FailedFrom run s answers key keys failedState)
    (hground : OpenGround run s answers profiles key)
    (hgivesUp : GivesUp failedState s' key profileMaxMv) {limit : RepairLimit}
    (hplan : f2PlanVerticalRepair run.watts run.saneBaseCurve answers.record
      answers.condemnedAfter failedState.observations run.gpuKey key.1 key.2
      (s.gatePasses key answers).summary.stopReason run.powerLimitW profileMaxMv =
        .error limit) : RepairsSoundly run s answers s' where
  admitted pair hpair := by
    have hadmits := hgivesUp.admitted
    rw [h.admitted] at hadmits
    rcases hadmits with hsame | ⟨carried, confidence, hcarried, hadmits⟩
    · exact absurd (hsame.symm.trans hpair) (by simp)
    · obtain rfl : (carried.target, key.2) = pair :=
        List.singleton_inj.mp (List.append_cancel_left (hadmits.symm.trans hpair))
      obtain ⟨-, -, hlt, hnot⟩ := f2GodforgeFastDropCandidate_spec hcarried
      have hnext := f2GodforgeFastDropCandidate_next hcarried
      rw [h.classified] at hnext
      refine ⟨hgivesUp.excluded ▸ hnot, fun happroved => ?_⟩
      obtain ⟨other, hother, hgt, hless⟩ := hground.below _ happroved rfl hlt
      exact absurd (hnext other hother hless) (not_le.mpr hgt)
  givenUp key' max' hpair := by
    have hgives := hgivesUp.givenUp
    rw [h.givenUp] at hgives
    obtain ⟨rfl, rfl⟩ := Prod.mk.inj
      (List.singleton_inj.mp (List.append_cancel_left (hgives.symm.trans hpair)))
    obtain ⟨later, hlater⟩ := hgivesUp.observations
    have herror := f2PlanVerticalRepair_error (repairStepBins_of_not_hard hground.soft) hplan
    intro bin hbin hlt hmax
    rcases herror bin hbin hlt hmax with hcondemned | ⟨hlimit, mv, w, hge, hle, hw, hceiling⟩
    · exact .inl hcondemned
    · obtain ⟨w', hw', hww'⟩ := measuredPowerAtPair_append hw
      exact .inr (.inr ⟨hlimit, mv, w', hge, hle, hlater ▸ hw', hceiling.trans_le hww'⟩)

/-- On open ground the failure of a pair is repaired soundly. -/
theorem FailedFrom.repaired_sound (h : FailedFrom run s answers key keys failedState)
    (hground : OpenGround run s answers profiles key) :
    RepairsSoundly run s answers (failedState.repaired run profiles point key
      (s.gatePasses key answers).summary.stopReason answers) := by
  unfold repaired
  simp only
  split
  next nextMv measured hplan => exact h.climb_sound hground hplan
  next limit hplan => exact h.givesUp_sound hground givesUp_fastDrop hplan

end Failed

/-- One step on open ground repairs soundly. -/
theorem advance_sound (h : s.RepairsOnOpenGround run answers) :
    RepairsSoundly run s answers (s.advance run answers) := by
  unfold ApplyLoop.advance
  split
  next => exact synthesize_sameRepairs.sound
  next profiles point rest changed hphase =>
    unfold qualifyPoint
    split
    next => exact SameRepairs.sound ⟨rfl, rfl⟩
    next key hkey =>
      split
      next => exact SameRepairs.sound ⟨rfl, rfl⟩
      next halready =>
        split
        next => exact SameRepairs.sound ⟨rfl, rfl⟩
        next hdominator =>
          have hgates : s.gatesNext run = some key := by
            rw [gatesNext_eq hphase hkey, if_pos ⟨by simpa using halready, hdominator⟩]
          have hprofiles : s.passProfiles = some profiles := by rw [passProfiles, hphase]
          change RepairsSoundly run s answers (if (s.gatePasses key answers).summary.qualified then
            (s.gated key (s.gatePasses key answers)).passed run profiles rest key
            else (s.gated key (s.gatePasses key answers)).failed run profiles point key
              (s.gatePasses key answers).summary answers)
          split
          next =>
            have hsame := @passed_sameRepairs run (s.gated key (s.gatePasses key answers)) key
              profiles rest
            exact SameRepairs.sound ⟨hsame.admitted, hsame.givenUp⟩
          next hfailed =>
            have hground := (h key hgates profiles hprofiles).resolve_left hfailed
            unfold failed
            simp only
            split
            next => exact SameRepairs.sound ⟨rfl, rfl⟩
            next =>
              split
              next => exact SameRepairs.sound ⟨rfl, rfl⟩
              next =>
                split
                next =>
                  exact FailedFrom.repaired_sound
                    ⟨List.Subset.refl _, rfl, rfl, rfl, rfl, rfl⟩ hground
                next =>
                  exact FailedFrom.repaired_sound
                    ⟨List.nil_subset _, rfl, rfl, rfl, rfl, rfl⟩ hground
  next =>
    split
    next => exact SameRepairs.sound ⟨rfl, rfl⟩
    next => exact SameRepairs.sound ⟨rfl, rfl⟩
  next => exact SameRepairs.sound ⟨rfl, rfl⟩

end ApplyLoop

/-- In a run whose pairs all fail on open ground, every step repairs soundly. -/
theorem exactApply_repairs_soundly (run : ForgeRun) (frontier : ClassifiedFrontier)
    (observations : List F2Observation) (l : List ApplyAnswers) (answers : ApplyAnswers)
    (s' : ApplyLoop)
    (h : ((run.exactApply frontier.points observations).guarded fun s answers =>
      s.RepairsOnOpenGround run answers).Run (l ++ [answers]) s') :
    ∃ s, (run.exactApply frontier.points observations).Run l s ∧
      (run.exactApply frontier.points observations).step s answers s' ∧
      ApplyLoop.RepairsSoundly run s answers s' := by
  obtain ⟨s, hrun, hcondition, hs⟩ := h.last
  refine ⟨s, hrun.of_guarded, hs, ?_⟩
  obtain ⟨-, -, rfl⟩ := hs
  exact ApplyLoop.advance_sound hcondition

/-- The gate rejects the pair without a driver reset, and the pair in its place draws this much. -/
def repairAnswers (targetMhz anchorMv watts : Nat) : ApplyAnswers :=
  { droppedAnswers targetMhz anchorMv watts with
    gate := fun _ =>
      { summary := { qualified := false, stopReason := "ExactApplyRejected: SilentError" } } }

/-- The clock of the failed pair climbs to the next bin. -/
theorem exactApply_repairs_soundly_sample : ∃ l s answers s',
    (sampleForge.exactApply sampleFrontier.points []).Run l s ∧
      (sampleForge.exactApply sampleFrontier.points []).step s answers s' ∧
      s'.admitted = [(1900, 925)] ∧ ApplyLoop.RepairsSoundly sampleForge s answers s' := by
  have hany : (([cancelledAnswers] ++ [repairAnswers 1900 925 160]).foldlM
      (fun (s : ApplyLoop) answers => if s.RepairsOnOpenGround sampleForge answers then
        s.follow sampleForge answers else none)
      (sampleForge.start sampleFrontier.points [])).any
        (fun s => decide (s.admitted = [(1900, 925)])) = true := by decide +kernel
  obtain ⟨s', hrun, hend⟩ := ForgeRun.exists_guarded_run_of_any hany
  rw [decide_eq_true_eq] at hend
  obtain ⟨s, hrun, hstep, hsound⟩ := exactApply_repairs_soundly sampleForge sampleFrontier []
    [cancelledAnswers] (repairAnswers 1900 925 160) s' hrun
  exact ⟨_, s, _, s', hrun, hstep, hend, hsound⟩

def repairForge : ForgeRun :=
  { sampleForge with saneBaseCurve := [(0, 900, 1740), (1, 950, 1785)] }

def repairFrontier : ClassifiedFrontier where
  points := [(samplePoint 1900 950 170, 9 / 10), (samplePoint 1800 900 150, 9 / 10)]
  targets := by decide
  hasTarget := by decide
  fresh := by decide

/-- The slower clock fails at 950 mV, where a fast-drop has led it, and then at 900 mV: the repair
admits 950 mV again, although the run has excluded it. -/
theorem exactApply_repairs_into_excluded : ∃ l s answers s',
    (repairForge.exactApply repairFrontier.points []).Run l s ∧
      (repairForge.exactApply repairFrontier.points []).step s answers s' ∧
      s'.admitted = s.admitted ++ [(1800, 950)] ∧ (1800, 950) ∈ s'.excludedApplyPairs ∧
      ¬ ApplyLoop.RepairsSoundly repairForge s answers s' := by
  have hany : ([cancelledAnswers, droppedAnswers 1800 950 160, cancelledAnswers,
      droppedAnswers 1800 950 160, cancelledAnswers].foldlM (ApplyLoop.follow repairForge)
        (repairForge.start repairFrontier.points [])).any
        (fun s => s.allows repairForge (droppedAnswers 1800 950 160) &&
          decide ((s.advance repairForge (droppedAnswers 1800 950 160)).admitted =
              s.admitted ++ [(1800, 950)] ∧
            (1800, 950) ∈
              (s.advance repairForge (droppedAnswers 1800 950 160)).excludedApplyPairs)) =
        true := by decide +kernel
  obtain ⟨s, hrun, hend⟩ := ForgeRun.exists_run_of_any hany
  rw [Bool.and_eq_true, decide_eq_true_eq] at hend
  obtain ⟨hallows, hadmitted, hexcluded⟩ := hend
  exact ⟨_, s, _, _, hrun, ApplyLoop.step_of_follow (by rw [ApplyLoop.follow, if_pos hallows]),
    hadmitted, hexcluded, fun h => (h.admitted _ hadmitted).1 hexcluded⟩

end Nidavellir

import Nidavellir.ExactApplySound

namespace Nidavellir

open Runs

/-- A step of the run gated the pair: the gate passed as often as the ledger then asked, and no
power measured there is above the basis. -/
def ForgeRun.GateProved (run : ForgeRun) (frontier : ClassifiedFrontier)
    (observations : List F2Observation) (l : List ApplyAnswers) (key : ApplyPair)
    (basisW : ℚ) : Prop :=
  ∃ before answers after s, l = before ++ answers :: after ∧
    (run.exactApply frontier.points observations).Run before s ∧ s.gatesNext run = some key ∧
    (∀ i < answers.condemned.requiredApplyPasses key.1 key.2 f2QualificationContractVersion,
      (answers.gate i).summary.qualified = true) ∧
    ∀ w, worstCurrentApplyQualificationPowerAtAnchor run.watts
      (s.gatePasses key answers).observations run.runId key.1 key.2 run.gpuKey = some w →
        w ≤ basisW

namespace ApplyLoop

variable {run : ForgeRun} {s s' : ApplyLoop} {key : ApplyPair} {point : PowerSweepPoint}
  {profiles : ForgeProfiles} {rest selected : List PowerSweepPoint} {answers : ApplyAnswers}

/-- All three profiles can be selected, and each pair is done or still to come. -/
structure Settled (run : ForgeRun) (s : ApplyLoop) (profiles : ForgeProfiles)
    (selected : List PowerSweepPoint) : Prop where
  complete : none ∉ profiles.all
  selectable : ∀ point, some point ∈ profiles.all → Selectable run s point
  done : ∀ point key, some point ∈ profiles.all → f2ApplyKey point = some key →
    s.alreadyQualified run key = true ∨ ∃ other ∈ selected, f2ApplyKey other = some key

/-- A pass that changed nothing so far, and the end it leads to. -/
def PassSettled (run : ForgeRun) (s : ApplyLoop) : Prop :=
  match s.phase with
  | .qualify profiles selected false => Settled run s profiles selected
  | .ended (some profiles) => Settled run s profiles []
  | _ => True

theorem Settled.skip (h : Settled run s profiles (point :: rest))
    (hkey : f2ApplyKey point = some key) (hdone : s.alreadyQualified run key = true) :
    Settled run s profiles rest where
  complete := h.complete
  selectable := h.selectable
  done := by
    intro p pair hp hpair
    rcases h.done p pair hp hpair with halready | ⟨other, hother, hotherKey⟩
    · exact .inl halready
    · rcases List.mem_cons.mp hother with rfl | hrest
      · obtain rfl : key = pair := Option.some.inj (hkey.symm.trans hotherKey)
        exact .inl hdone
      · exact .inr ⟨other, hrest, hotherKey⟩

theorem Settled.phase (h : Settled run s profiles selected) (phase : ApplyPhase) :
    Settled run { s with phase } profiles selected where
  complete := h.complete
  selectable point hpoint := by
    obtain ⟨hmember, hsafe, hpair⟩ := h.selectable point hpoint
    exact ⟨hmember, hsafe, hpair⟩
  done := h.done

theorem passSettled_advance {frontier : Classified} (h : PassSettled run s)
    (hwithin : Within (run.stock frontier) s) (hhonest : s.Honest run answers)
    (hended : ¬ s.hasEnded) : PassSettled run (s.advance run answers) := by
  unfold ApplyLoop.advance
  split
  next =>
    rcases @synthesize_cases run s with heq | ⟨profiles, heq, hcomplete, hselectable⟩
    · rw [heq]
      exact trivial
    · rw [heq]
      have hsettled : Settled run s profiles (f2UniqueProfilePoints profiles.all) :=
        ⟨hcomplete, hselectable, fun p pair hp hpair =>
          .inr (exists_mem_f2UniqueProfilePoints hp hpair)⟩
      exact hsettled.phase _
  next profiles point rest changed hphase =>
    obtain ⟨-, hall⟩ := hwithin.selected _ _ _ hphase
    obtain ⟨key, hkey, -, -⟩ := hall point List.mem_cons_self
    rcases qualifyPoint_cases hhonest hphase hkey with ⟨hdone, heq⟩ | ⟨-, hleaves | happroves⟩
    · rw [heq]
      cases changed with
      | true => exact trivial
      | false =>
        rw [PassSettled, hphase] at h
        exact (h.skip hkey hdone).phase _
    · unfold PassSettled
      rcases hleaves.phase with hphase' | ⟨hphase', -⟩
      · rw [hphase']
        exact trivial
      · rw [hphase']
        exact trivial
    · unfold PassSettled
      rw [happroves.phase]
      exact trivial
  next profiles changed hphase =>
    cases changed with
    | true => exact trivial
    | false =>
      rw [PassSettled, hphase] at h
      exact h.phase _
  next finalProfiles hphase => exact absurd ⟨finalProfiles, hphase⟩ hended

end ApplyLoop

namespace ForgeRun

variable {run : ForgeRun} {frontier : ClassifiedFrontier} {observations : List F2Observation}
  {l : List ApplyAnswers} {s s' : ApplyLoop} {answers : ApplyAnswers} {key : ApplyPair}

theorem GateProved.append {basisW : ℚ} (h : run.GateProved frontier observations l key basisW)
    (later : List ApplyAnswers) :
    run.GateProved frontier observations (l ++ later) key basisW := by
  obtain ⟨before, answers, after, s, rfl, hrun⟩ := h
  exact ⟨before, answers, after ++ later, s, by simp, hrun⟩

/-- Until the loop gives up, every approved pair it may still select was proved by this run. -/
def Proved (run : ForgeRun) (frontier : ClassifiedFrontier) (observations : List F2Observation)
    (l : List ApplyAnswers) (s : ApplyLoop) : Prop :=
  s.phase ≠ .ended none → ∀ entry ∈ s.classified, entry.1.approved = true →
    ∀ key, f2ApplyKey entry.1 = some key → key ∉ s.excludedApplyPairs →
      run.GateProved frontier observations l key entry.1.maxPowerW

theorem Proved.advance (h : run.Proved frontier observations l s)
    (hrun : (run.exactApply frontier.points observations).Run l s)
    (hhonest : s.Honest run answers) (hended : ¬ s.hasEnded) :
    run.Proved frontier observations (l ++ [answers]) (s.advance run answers) := by
  intro hphase' entry hentry happroved pair hpair hnot
  have hold : s.phase ≠ .ended none := fun hphase => hended ⟨none, hphase⟩
  have hkept := exactApply_kept hrun
  rcases ApplyLoop.advance_cases hkept.within hhonest with
    hmoves | ⟨_, _, _, _, key, -, -, -, -, -, hleaves | happroves⟩
  · rw [hmoves.classified] at hentry
    rw [hmoves.excluded] at hnot
    exact (h hold entry hentry happroved pair hpair hnot).append _
  · have hexcluded : key ∈ (s.advance run answers).excludedApplyPairs := by
      rcases hleaves.phase with hnone | ⟨-, hmem⟩
      · exact absurd hnone hphase'
      · exact hmem
    rcases hleaves.classified.approved_cases hentry happroved with hmem | ⟨hkey, -⟩
    · exact (h hold entry hmem happroved pair hpair
        (fun hin => hnot (hleaves.excluded hin))).append _
    · obtain rfl : key = pair := Option.some.inj (hkey.symm.trans hpair)
      exact absurd hexcluded hnot
  · obtain ⟨applyP95, gateP99, hclassified⟩ := happroves.classified
    rw [hclassified] at hentry
    rcases mem_approveKey hentry with ⟨old, -, hkey, rfl⟩ | ⟨hmem, -⟩
    · rw [f2ApplyKey_afterGate] at hpair
      obtain rfl : key = pair := Option.some.inj (hkey.symm.trans hpair)
      refine ⟨l, answers, [], s, rfl, hrun, happroves.gates, fun i hi => ?_, fun w hw => ?_⟩
      · exact runGate_qualified happroves.qualified i (lt_of_lt_of_le hi (le_max_right _ _))
      · rw [happroves.observations]
        exact le_maxPowerW_afterGate hw
    · rw [happroves.excluded] at hnot
      exact (h hold entry hmem happroved pair hpair hnot).append _

/-- What a run keeps about its passes and its approvals. -/
theorem exactApply_proved (h : (run.exactApply frontier.points observations).Run l s) :
    s.PassSettled run ∧ run.Proved frontier observations l s := by
  have hall : (run.exactApply frontier.points observations).Run l s ∧ s.PassSettled run ∧
      run.Proved frontier observations l s := by
    refine Machine.Run.invariant_trace (I := fun l s =>
      (run.exactApply frontier.points observations).Run l s ∧ s.PassSettled run ∧
        run.Proved frontier observations l s) (fun s hs => ?_) (fun l s answers s' ih hs => ?_) h
    · obtain rfl : s = run.start frontier.points observations := hs
      refine ⟨.start rfl, trivial, fun _ entry hentry happroved => ?_⟩
      rw [PowerSweepPoint.approved, frontier.fresh entry hentry] at happroved
      cases happroved
    · obtain ⟨hrun, hsettled, hproved⟩ := ih
      obtain ⟨hended, hhonest, rfl⟩ := hs
      exact ⟨hrun.next ⟨hended, hhonest, rfl⟩,
        ApplyLoop.passSettled_advance hsettled (exactApply_kept hrun).within hhonest hended,
        hproved.advance hrun hhonest hended⟩
  exact hall.2

theorem exactApply_gates_length_le (h : (run.exactApply frontier.points observations).Run l s) :
    s.gates.length ≤ 2 * l.length := by
  refine Machine.Run.invariant_trace (I := fun l s => s.gates.length ≤ 2 * l.length)
    (fun s hs => ?_) (fun l s answers s' ih hs => ?_) h
  · obtain rfl : s = run.start frontier.points observations := hs
    exact Nat.zero_le _
  · obtain ⟨-, -, rfl⟩ := hs
    obtain ⟨n, key, hgates, hn, -⟩ := @ApplyLoop.advance_gates run s answers
    rw [hgates, List.length_append, List.length_append, List.length_replicate,
      List.length_singleton]
    omega

/-- A gate that does not pass is an honest answer in every state. -/
theorem exactApply_step_exists (hended : ¬ s.hasEnded) : ∃ answers s',
    (run.exactApply frontier.points observations).step s answers s' := by
  let answers : ApplyAnswers :=
    { gate := fun _ => { summary := { qualified := false, stopReason := "ExactApplyInconclusive" } }
      calibration := { summary := { confirmed := false, stopReason := "Cancelled" } } }
  refine ⟨answers, s.advance run answers, hended, fun key _ hqualified => ?_, rfl⟩
  have hfirst := runGate_qualified hqualified 0 (lt_of_lt_of_le Nat.zero_lt_one (le_max_left _ _))
  cases hfirst

theorem exactApply_gatesNext (h : (run.exactApply frontier.points observations).Run l s)
    (hgates : s.gatesNext run = some key) : key ∉ s.excludedApplyPairs := by
  unfold ApplyLoop.gatesNext at hgates
  split at hgates
  next profiles point rest changed hphase =>
    obtain ⟨-, hall⟩ := (exactApply_kept h).within.selected _ _ _ hphase
    obtain ⟨pair, hpair, -, hnot⟩ := hall point List.mem_cons_self
    rw [hpair] at hgates
    obtain rfl := Option.some.inj (Option.filter_eq_some_iff.mp hgates).1
    exact hnot
  next => cases hgates

/-- The final profiles were all proved by this run. -/
theorem exactApply_final (h : (run.exactApply frontier.points observations).Run l s)
    {profiles : ForgeProfiles} (hphase : s.phase = .ended (some profiles)) :
    none ∉ profiles.all ∧ ∀ point, some point ∈ profiles.all →
      ∃ key, f2ApplyKey point = some key ∧ key ∉ s.excludedApplyPairs ∧
        point.approved = true ∧ run.enduranceQualified s.observations key = true ∧
        isOffCapSafe point run.powerLimitW = true ∧
        run.GateProved frontier observations l key point.maxPowerW := by
  obtain ⟨hsettled, hproved⟩ := exactApply_proved h
  rw [ApplyLoop.PassSettled, hphase] at hsettled
  refine ⟨hsettled.complete, fun point hpoint => ?_⟩
  obtain ⟨⟨confidence, hmem⟩, hsafe, key, hkey, hnot⟩ := hsettled.selectable point hpoint
  have hdone : s.alreadyQualified run key = true := by
    rcases hsettled.done point key hpoint hkey with hdone | ⟨other, hother, -⟩
    · exact hdone
    · cases hother
  obtain ⟨⟨entry, hentry, hentryKey, happroved⟩, hsoak⟩ :=
    ApplyLoop.alreadyQualified_iff.mp hdone
  -- the pairs are distinct, so the approved entry is the selected point itself
  obtain rfl : entry = (point, confidence) :=
    eq_of_nodup_keysOf (exactApply_kept h).distinct hentry hmem hentryKey hkey
  have hphase' : s.phase ≠ .ended none := by
    rw [hphase]
    intro heq
    cases heq
  exact ⟨key, hkey, hnot, happroved, hsoak, hsafe,
    hproved hphase' _ hmem happroved key hkey hnot⟩

end ForgeRun

/-- Every run of the closure is bounded, and so are its gate calls; it goes on until it has ended,
never gates an excluded pair, and ends only with profiles that this run proved. -/
theorem exactApply_closes (run : ForgeRun) (frontier : ClassifiedFrontier)
    (observations : List F2Observation) (l : List ApplyAnswers) (s : ApplyLoop)
    (h : (run.exactApply frontier.points observations).Run l s) :
    (l.length ≤ run.stepBound frontier.points ∧ s.gates.length ≤ 2 * l.length) ∧
      (¬ s.hasEnded → ∃ answers s',
        (run.exactApply frontier.points observations).step s answers s') ∧
      (∀ answers, ∃ n key, (s.advance run answers).gates = s.gates ++ List.replicate n key ∧
        n ≤ 2 ∧ (0 < n → key ∉ s.excludedApplyPairs)) ∧
      ∀ profiles, s.phase = .ended (some profiles) →
        none ∉ profiles.all ∧ ∀ point, some point ∈ profiles.all →
          ∃ key, f2ApplyKey point = some key ∧ key ∉ s.excludedApplyPairs ∧
            point.approved = true ∧ run.enduranceQualified s.observations key = true ∧
            isOffCapSafe point run.powerLimitW = true ∧
            run.GateProved frontier observations l key point.maxPowerW := by
  refine ⟨⟨ForgeRun.exactApply_length_le h, ForgeRun.exactApply_gates_length_le h⟩,
    ForgeRun.exactApply_step_exists, fun answers => ?_, fun profiles hphase => ?_⟩
  · obtain ⟨n, key, hgates, hn, hnext⟩ := @ApplyLoop.advance_gates run s answers
    exact ⟨n, key, hgates, hn, fun hpos => ForgeRun.exactApply_gatesNext h (hnext hpos)⟩
  · exact ForgeRun.exactApply_final h hphase

section Sample

/-- The answers are honest in a state that has not ended. -/
def ApplyLoop.allows (run : ForgeRun) (s : ApplyLoop) (answers : ApplyAnswers) : Bool :=
  (match s.phase with
    | .ended _ => false
    | _ => true) &&
  match s.gatesNext run with
  | none => true
  | some key => !(s.gatePasses key answers).summary.qualified ||
      run.enduranceQualified (s.gatePasses key answers).observations key

def ApplyLoop.follow (run : ForgeRun) (s : ApplyLoop) (answers : ApplyAnswers) :
    Option ApplyLoop :=
  if s.allows run answers then some (s.advance run answers) else none

theorem ApplyLoop.step_of_follow {run : ForgeRun} {frontier : Classified}
    {observations : List F2Observation} {s s' : ApplyLoop} {answers : ApplyAnswers}
    (h : s.follow run answers = some s') :
    (run.exactApply frontier observations).step s answers s' := by
  unfold follow at h
  split at h
  next hallows =>
    obtain rfl := Option.some.inj h
    rw [allows, Bool.and_eq_true] at hallows
    obtain ⟨hphase, hhonest⟩ := hallows
    refine ⟨?_, fun key hkey hqualified => ?_, rfl⟩
    · rintro ⟨finalProfiles, hended⟩
      rw [hended] at hphase
      cases hphase
    · rw [hkey] at hhonest
      simpa [hqualified] using hhonest
  next => cases h

/-- A run that a computation finds. -/
theorem ForgeRun.exists_run_of_any {run : ForgeRun} {frontier : Classified}
    {observations : List F2Observation} {l : List ApplyAnswers} {P : ApplyLoop → Bool}
    (h : (l.foldlM (ApplyLoop.follow run) (run.start frontier observations)).any P = true) :
    ∃ s, (run.exactApply frontier observations).Run l s ∧ P s = true := by
  cases hs : l.foldlM (ApplyLoop.follow run) (run.start frontier observations) with
  | none => simp [hs] at h
  | some s =>
    have hP : P s = true := by simpa [hs] using h
    exact ⟨s, Machine.Run.of_foldlM (fun _ _ _ => ApplyLoop.step_of_follow) rfl hs, hP⟩

/-- The same for a run whose steps all meet a condition. -/
theorem ForgeRun.exists_guarded_run_of_any {run : ForgeRun} {frontier : Classified}
    {observations : List F2Observation} {ok : ApplyLoop → ApplyAnswers → Prop}
    [∀ s answers, Decidable (ok s answers)] {l : List ApplyAnswers} {P : ApplyLoop → Bool}
    (h : (l.foldlM (fun s answers => if ok s answers then s.follow run answers else none)
      (run.start frontier observations)).any P = true) :
    ∃ s, ((run.exactApply frontier observations).guarded ok).Run l s ∧ P s = true := by
  cases hs : l.foldlM (fun s answers => if ok s answers then s.follow run answers else none)
      (run.start frontier observations) with
  | none => simp [hs] at h
  | some s =>
    have hP : P s = true := by simpa [hs] using h
    refine ⟨s, Machine.Run.of_foldlM (fun s answers s' hstep => ?_) rfl hs, hP⟩
    split at hstep
    next hok => exact ⟨hok, ApplyLoop.step_of_follow hstep⟩
    next => cases hstep

def sampleForge : ForgeRun where
  runId := "run-test"
  gpuKey := "RTX 3060 Ti"
  mode := .standard
  saneBaseCurve := [(0, 875, 1740), (1, 900, 1785), (2, 925, 1830)]
  powerLimitW := 200
  watts := fun _ => some 150

/-- A calibrated point of the frontier. -/
def samplePoint (targetMhz applyMv : Nat) (p99 : ℚ) : PowerSweepPoint where
  clockMhz := targetMhz
  offsetMhz := 100
  maxPowerW := p99
  powerP99W := some p99
  vfTableVoltageMv := some applyMv
  boundaryVoltageMv := some applyMv
  baseApplyMv := some applyMv
  p5ClockMhz := some targetMhz
  p95ClockMhz := some targetMhz
  targetClockMhz := some targetMhz
  confidence := some (9 / 10)
  validationCount := some 1

/-- A reset-clean dwell of the gate at the pair. -/
def gateObservation (targetMhz anchorMv maxWatts : Nat) (pattern : F2QualificationPattern) :
    F2Observation :=
  { qualificationPass targetMhz anchorMv with
    evidenceKind := .applyQualification
    qualificationCoverage :=
      (qualificationPass targetMhz anchorMv).qualificationCoverage.map fun coverage =>
        { coverage with pattern := some pattern }
    sustainedClockMhz := some targetMhz
    sustainedUpperClockMhz := some targetMhz
    maxWatts := some maxWatts
    powerP99W := some 150.0 }

def gateReply (targetMhz anchorMv maxWatts : Nat) : Reply F2ApplyQualificationSummary where
  summary := { qualified := true, stopReason := "ExactApplyQualified" }
  appended := [gateObservation targetMhz anchorMv maxWatts .texture,
    gateObservation targetMhz anchorMv maxWatts .endurance]

def noCalibration : Reply F2PowerCalibrationSummary where
  summary := { confirmed := false, stopReason := "Cancelled" }

def passingAnswers (targetMhz anchorMv maxWatts : Nat) : ApplyAnswers where
  gate := fun _ => gateReply targetMhz anchorMv maxWatts
  calibration := noCalibration

def sampleFrontier : ClassifiedFrontier where
  points := [(samplePoint 1900 900 150, 9 / 10)]
  targets := by decide
  hasTarget := by decide
  fresh := by decide

def ApplyLoop.endsWithSet (s : ApplyLoop) : Bool :=
  match s.phase with
  | .ended (some _) => true
  | _ => false

/-- One point, gated once, becomes all three profiles. -/
theorem exactApply_closes_sample : ∃ l s profiles,
    (sampleForge.exactApply sampleFrontier.points []).Run l s ∧
      s.phase = .ended (some profiles) ∧ ∃ point key, some point ∈ profiles.all ∧
        f2ApplyKey point = some key ∧ point.approved = true ∧
        sampleForge.GateProved sampleFrontier [] l key point.maxPowerW := by
  have hany : ((List.replicate 6 (passingAnswers 1900 900 160)).foldlM
      (ApplyLoop.follow sampleForge) (sampleForge.start sampleFrontier.points [])).any
        ApplyLoop.endsWithSet = true := by decide +kernel
  obtain ⟨s, hrun, hphase⟩ := ForgeRun.exists_run_of_any hany
  unfold ApplyLoop.endsWithSet at hphase
  split at hphase
  next profiles hended =>
    obtain ⟨-, -, -, hfinal⟩ := exactApply_closes sampleForge sampleFrontier [] _ s hrun
    obtain ⟨hcomplete, hpoints⟩ := hfinal profiles hended
    cases hgodforge : profiles.godforge with
    | none => exact absurd (by simp [ForgeProfiles.all, hgodforge]) hcomplete
    | some point =>
      have hmem : some point ∈ profiles.all := by simp [ForgeProfiles.all, hgodforge]
      obtain ⟨key, hkey, -, happroved, -, -, hproved⟩ := hpoints point hmem
      exact ⟨_, s, profiles, hrun, hended, point, key, hmem, hkey, happroved, hproved⟩
  next => cases hphase

end Sample

end Nidavellir

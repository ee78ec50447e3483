import Nidavellir.FrontierRecord

namespace Nidavellir

inductive DescentKind
  | candidate
  | capFallback
  | phaseB
deriving DecidableEq

/-- One descent of a build: the clock, the start that was asked for, and its probes. -/
structure Descended where
  kind : DescentKind
  target : Nat
  startMv : Nat
  records : List ProbeRecord

/-- What was written down between two states. -/
def recordsSince {S : Type*} (before after : S × List ProbeRecord) : List ProbeRecord :=
  after.2.drop before.2.length

theorem recordsSince_eq {S : Type*} {before after : S × List ProbeRecord}
    {records : List ProbeRecord} (h : after.2 = before.2 ++ records) :
    recordsSince before after = records := by
  rw [recordsSince, h, List.drop_left]

def TargetRun.descents {S : Type*} (run : TargetRun (S × List ProbeRecord))
    (carry : BracketCarryConfig) : List Descended :=
  ⟨.candidate, run.target, run.decision.startMv, recordsSince run.entry run.first.2⟩ ::
    (run.fallback.map fun fb => ⟨.capFallback, run.target, carry.safeStartCapMv,
      recordsSince run.first.2 fb.2⟩).toList

def PhaseBRun.descended {S : Type*} (run : PhaseBRun (S × List ProbeRecord))
    (entry : S × List ProbeRecord) : Descended :=
  ⟨.phaseB, run.focusTarget, run.startMv, recordsSince entry run.descent.2⟩

/-- How a descent may take up again the clock of an earlier one: from the cap, once, after a warm
start that did not verify; because the clock is listed again; or in Phase B. -/
inductive Renews (carry : BracketCarryConfig) (clocks : List Nat) (earlier later : Descended) : Prop
  | capFallback {p : ProbeRecord} (kind : later.kind = .capFallback)
      (warm : earlier.startMv < carry.safeStartCapMv) (cap : later.startMv = carry.safeStartCapMv)
      (records : earlier.records = [p]) (unverified : p.sample.failure = some .softUnverified)
  | listedAgain (again : 2 ≤ clocks.count later.target)
  | phaseB (kind : later.kind = .phaseB)

theorem StemsFrom.flatMap {d : Descended} {descents : List Descended} {point : PowerSweepPoint}
    (h : StemsFrom d.records point) (hd : d ∈ descents) :
    StemsFrom (descents.flatMap Descended.records) point :=
  h.mono fun _ hp => List.mem_flatMap.mpr ⟨d, hd, hp⟩

/-- The descents are all that a stretch of the build wrote down. -/
structure Accounts {S : Type*} (descent : FrontierDescent) (before after : S × List ProbeRecord)
    (descents : List Descended) : Prop where
  log : after.2 = before.2 ++ descents.flatMap Descended.records
  walked : ∀ d ∈ descents, Walked d.target (descent.walkFrom d.startMv) d.records

namespace Accounts

variable {S : Type*} {descent : FrontierDescent} {before middle after : S × List ProbeRecord}
  {descents more : List Descended}

theorem refl (s : S × List ProbeRecord) : Accounts descent s s [] :=
  ⟨(List.append_nil _).symm, fun d hd => by cases hd⟩

theorem single {d : Descended} {records : List ProbeRecord}
    (hlog : after.2 = before.2 ++ records) (hrecords : d.records = recordsSince before after)
    (hwalked : Walked d.target (descent.walkFrom d.startMv) records) :
    Accounts descent before after [d] := by
  have heq : d.records = records := hrecords.trans (recordsSince_eq hlog)
  refine ⟨by rw [hlog, List.flatMap_singleton, heq], fun e he => ?_⟩
  rw [List.mem_singleton.mp he, heq]
  exact hwalked

/-- A build that starts with an empty record wrote down its descents and nothing else. -/
theorem whole {s : S} (h : Accounts descent (s, []) after descents) :
    after.2 = descents.flatMap Descended.records :=
  h.log.trans (List.nil_append _)

theorem append (h : Accounts descent before middle descents)
    (hmore : Accounts descent middle after more) :
    Accounts descent before after (descents ++ more) := by
  refine ⟨by rw [hmore.log, h.log, List.flatMap_append, List.append_assoc], fun d hd => ?_⟩
  rcases List.mem_append.mp hd with hd | hd
  · exact h.walked d hd
  · exact hmore.walked d hd

end Accounts

section Run

variable {S : Type} {probe : Nat → Nat → S → ProbeSample × S} {maxPerTarget : Option Nat}
  {bindSeeking : Bool} {descent : FrontierDescent} {carry : BracketCarryConfig}

theorem warmStartMv_lt {prev : Option TargetBracket}
    (h : (warmStartMv prev carry).warmStarted = true) :
    (warmStartMv prev carry).startMv < carry.safeStartCapMv := by
  unfold warmStartMv at h ⊢
  simp only at h ⊢
  split at h
  next => cases h
  next hon =>
    rw [if_neg hon]
    split at h
    next => cases h
    next bracket =>
      split at h
      next => cases h
      next hsound =>
        rw [if_neg hsound]
        split at h
        next => cases h
        next lv hlv =>
          simp only
          exact of_decide_eq_true h

theorem TargetRun.descents_of (run : TargetRun (S × List ProbeRecord)) {d : Descended}
    (hd : d ∈ run.descents carry) : d.target = run.target ∧ d.kind ≠ .phaseB := by
  unfold TargetRun.descents at hd
  cases hfb : run.fallback with
  | none =>
    rw [hfb] at hd
    rw [List.mem_singleton.mp hd]
    exact ⟨rfl, DescentKind.noConfusion⟩
  | some fb =>
    rw [hfb] at hd
    rcases List.mem_cons.mp hd with rfl | hd
    · exact ⟨rfl, DescentKind.noConfusion⟩
    · rw [List.mem_singleton.mp hd]
      exact ⟨rfl, DescentKind.noConfusion⟩

/-- What one candidate adds to the record. -/
structure CandidateSpec (descent : FrontierDescent) (carry : BracketCarryConfig)
    (run : TargetRun (S × List ProbeRecord)) : Prop where
  accounts : Accounts descent run.entry run.exit (run.descents carry)
  renews : ∀ clocks, (run.descents carry).Pairwise (Renews carry clocks)
  stems : ∀ entry, run.point = some entry →
    StemsFrom ((run.descents carry).flatMap Descended.records) entry.1

variable (probe maxPerTarget bindSeeking descent carry) in
theorem carriedDescent_spec (prev : Option TargetBracket) (target : Nat)
    (s : S × List ProbeRecord) :
    CandidateSpec descent carry
      (carriedDescent (recorded probe) maxPerTarget bindSeeking descent carry prev target s) := by
  obtain ⟨records, hlog, hwalked, hstems⟩ := descendTarget_walked probe maxPerTarget bindSeeking
    descent target (warmStartMv prev carry).startMv s
  unfold carriedDescent
  simp only
  split
  next hfell =>
    simp only [Bool.and_eq_true, beq_iff_eq, Option.isNone_iff_eq_none] at hfell
    obtain ⟨⟨hstarted, hnone⟩, hstop⟩ := hfell
    obtain ⟨p, hp, hunverified⟩ := descendTarget_unverified hnone hstop
    obtain ⟨fbRecords, hfbLog, hfbWalked, hfbStems⟩ := descendTarget_walked probe maxPerTarget
      bindSeeking descent target carry.safeStartCapMv
      (descendTarget (recorded probe) maxPerTarget bindSeeking target descent
        (warmStartMv prev carry).startMv s).2
    have hfirst := recordsSince_eq hp
    refine ⟨(Accounts.single hlog rfl hwalked).append (Accounts.single hfbLog rfl hfbWalked),
      fun clocks => List.pairwise_pair.mpr ?_, fun entry hentry => ?_⟩
    · exact .capFallback rfl (warmStartMv_lt hstarted) rfl hfirst hunverified
    · refine StemsFrom.flatMap (d := ⟨_, _, _, _⟩) ?_
        (List.mem_cons_of_mem _ (List.mem_singleton_self _))
      exact (recordsSince_eq hfbLog).symm ▸ hfbStems entry hentry
  next =>
    refine ⟨Accounts.single hlog rfl hwalked, fun clocks => List.pairwise_singleton _ _,
      fun entry hentry => ?_⟩
    refine StemsFrom.flatMap (d := ⟨_, _, _, _⟩) ?_ (List.mem_singleton_self _)
    exact (recordsSince_eq hlog).symm ▸ hstems entry hentry

theorem phaseAExit_cons (run : TargetRun S) (runs : List (TargetRun S)) (s : S) :
    phaseAExit (run :: runs) s = phaseAExit runs run.exit := by
  unfold phaseAExit
  rw [List.getLast?_cons]
  cases runs.getLast? <;> rfl

/-- What Phase A adds to the record. -/
structure PhaseASpec (descent : FrontierDescent) (carry : BracketCarryConfig) (clocks : List Nat)
    (s : S × List ProbeRecord) (runs : List (TargetRun (S × List ProbeRecord))) : Prop where
  accounts : Accounts descent s (phaseAExit runs s) (runs.flatMap (TargetRun.descents · carry))
  targets : runs.map TargetRun.target = clocks
  runs : ∀ run ∈ runs, CandidateSpec descent carry run

variable (probe maxPerTarget bindSeeking descent carry) in
theorem targetRuns_spec (clocks : List Nat) (prev : Option TargetBracket)
    (s : S × List ProbeRecord) :
    PhaseASpec descent carry clocks s
      (targetRuns (recorded probe) maxPerTarget bindSeeking descent carry prev clocks s) := by
  induction clocks generalizing prev s with
  | nil => exact ⟨.refl s, rfl, fun run hrun => by cases hrun⟩
  | cons target clocks ih =>
    have hrun := carriedDescent_spec probe maxPerTarget bindSeeking descent carry prev target s
    unfold targetRuns
    simp only
    have hentry : (carriedDescent (recorded probe) maxPerTarget bindSeeking descent carry prev
        target s).entry = s ∧ (carriedDescent (recorded probe) maxPerTarget bindSeeking descent
          carry prev target s).target = target := by
      unfold carriedDescent
      simp only
      split <;> exact ⟨rfl, rfl⟩
    generalize carriedDescent (recorded probe) maxPerTarget bindSeeking descent carry prev target
      s = run at hrun hentry ⊢
    obtain ⟨rfl, rfl⟩ := hentry
    have hrest := ih (some run.bracket) run.exit
    refine ⟨?_, congrArg (run.target :: ·) hrest.targets, fun other hother => ?_⟩
    · rw [phaseAExit_cons, List.flatMap_cons]
      exact hrun.accounts.append hrest.accounts
    · rcases List.mem_cons.mp hother with rfl | hother
      · exact hrun
      · exact hrest.runs other hother

/-- Each value of a list is listed again behind itself, wherever two entries agree. -/
theorem pairwise_listedAgain (clocks : List Nat) :
    clocks.Pairwise fun earlier later => earlier = later → 2 ≤ clocks.count later := by
  induction clocks with
  | nil => exact .nil
  | cons clock clocks ih =>
    refine List.pairwise_cons.mpr ⟨fun later hlater heq => ?_, ih.imp fun h heq => ?_⟩
    · subst heq
      rw [List.count_cons_self]
      exact Nat.succ_le_succ (List.count_pos_iff.mpr hlater)
    · exact (h heq).trans List.count_le_count_cons

/-- Two descents that do not renew one another keep to the law. -/
def Keeps (carry : BracketCarryConfig) (clocks : List Nat) (earlier later : Descended) : Prop :=
  Renews carry clocks earlier later ∨
    ∀ p ∈ earlier.records, ∀ q ∈ later.records, p.Avoids q

theorem PhaseASpec.keeps {clocks : List Nat} {s : S × List ProbeRecord}
    {runs : List (TargetRun (S × List ProbeRecord))}
    (h : PhaseASpec descent carry clocks s runs) :
    (runs.flatMap (TargetRun.descents · carry)).Pairwise (Keeps carry clocks) := by
  refine List.pairwise_flatMap.mpr ⟨fun run hrun => ?_, ?_⟩
  · exact ((h.runs run hrun).renews clocks).imp .inl
  · have hlisted : (runs.map TargetRun.target).Pairwise fun earlier later =>
        earlier = later → 2 ≤ clocks.count later := by
      rw [h.targets]
      exact pairwise_listedAgain clocks
    rw [List.pairwise_map] at hlisted
    refine hlisted.imp_of_mem fun {earlier later} hearlier hlater hagain d hd e he => ?_
    by_cases heq : earlier.target = later.target
    · exact .inl (.listedAgain ((later.descents_of he).1 ▸ hagain heq))
    · refine .inr fun p hp q hq htarget _ => (heq ?_).elim
      have hd' := h.accounts.walked d (List.mem_flatMap.mpr ⟨earlier, hearlier, hd⟩)
      have he' := h.accounts.walked e (List.mem_flatMap.mpr ⟨later, hlater, he⟩)
      rw [hd'.targetMhz_eq p hp, he'.targetMhz_eq q hq] at htarget
      exact (earlier.descents_of hd).1 ▸ (later.descents_of he).1 ▸ htarget

theorem not_phaseB_of_mem {runs : List (TargetRun (S × List ProbeRecord))} {d : Descended}
    (hd : d ∈ runs.flatMap (TargetRun.descents · carry)) : d.kind ≠ .phaseB := by
  obtain ⟨run, -, hd⟩ := List.mem_flatMap.mp hd
  exact (run.descents_of hd).2

theorem PhaseASpec.stems {clocks : List Nat} {s : S × List ProbeRecord}
    {runs : List (TargetRun (S × List ProbeRecord))}
    (h : PhaseASpec descent carry clocks s runs) :
    ∀ entry ∈ runs.filterMap TargetRun.point, StemsFrom
      ((runs.flatMap (TargetRun.descents · carry)).flatMap Descended.records) entry.1 := by
  intro entry hentry
  obtain ⟨run, hrun, hpoint⟩ := List.mem_filterMap.mp hentry
  refine ((h.runs run hrun).stems entry hpoint).mono fun p hp => ?_
  obtain ⟨d, hd, hp⟩ := List.mem_flatMap.mp hp
  exact List.mem_flatMap.mpr ⟨d, List.mem_flatMap.mpr ⟨run, hrun, hd⟩, hp⟩

/-- A walk from a bin goes no higher than it. -/
theorem FrontierDescent.le_of_mem_walkFrom {startMv v : Nat} (hstart : startMv ∈ descent.binsDesc)
    (hv : v ∈ descent.walkFrom startMv) : v ≤ startMv := by
  have hmem : startMv ∈ descent.binsDesc.filter (startMv ≤ ·) :=
    List.mem_filter.mpr ⟨hstart, by simp⟩
  unfold FrontierDescent.walkFrom FrontierDescent.startBin at hv
  cases hmin : (descent.binsDesc.filter (startMv ≤ ·)).min? with
  | none =>
    rw [List.min?_eq_none_iff] at hmin
    rw [hmin] at hmem
    cases hmem
  | some b =>
    rw [hmin] at hv
    have hle := (List.min?_eq_some_iff.mp hmin).2 startMv hmem
    have hvb : v ≤ b := by simpa using (List.mem_filter.mp hv).2
    exact hvb.trans hle

end Run

section Trace

variable {S : Type} (probe : Nat → Nat → S → ProbeSample × S) (maxPerTarget : Option Nat)
  (bindSeeking : Bool) (descent : FrontierDescent) (carry : BracketCarryConfig)
  (policy : ForgePolicy) (clocks : List Nat) (phaseBBudget : Option Nat) (s : S)

/-- Every probe of a build, in order. -/
def frontierTrace : List ProbeRecord :=
  (buildFrontierTwoPhase (recorded probe) maxPerTarget bindSeeking descent carry policy clocks
    phaseBBudget (s, [])).2.2

/-- The same, descent by descent. -/
def frontierDescents : List Descended :=
  let runs := targetRuns (recorded probe) maxPerTarget bindSeeking descent carry none clocks (s, [])
  let exit := phaseAExit runs (s, [])
  runs.flatMap (TargetRun.descents · carry) ++
    ((phaseBRun (recorded probe) descent carry policy clocks phaseBBudget
      (runs.filterMap TargetRun.point) exit).map (PhaseBRun.descended · exit)).toList

end Trace

/-- Phase B restarts at the cap where Phase A kept no point, and else stays below what it kept. -/
structure PhaseBLaw (carry : BracketCarryConfig) (phaseBBudget : Option Nat)
    (pairedA : Classified) (build : TwoPhaseFrontier) (d : Descended) : Prop where
  budget : ∃ budget, phaseBBudget = some budget ∧ d.records.length ≤ budget
  probesUsed : build.phaseBProbesUsed = d.records.length
  fresh : phaseADeepestBin pairedA d.target = none → d.startMv = carry.safeStartCapMv
  below : ∀ floor, phaseADeepestBin pairedA d.target = some floor →
    ∀ p ∈ d.records, p.binMv < floor

/-- What holds of a build, of its record, and of the descents that the record is made of. -/
structure TraceLaw (descent : FrontierDescent) (carry : BracketCarryConfig) (clocks : List Nat)
    (phaseBBudget : Option Nat) (pairedA : Classified) (build : TwoPhaseFrontier)
    (trace : List ProbeRecord) (descents : List Descended) : Prop where
  whole : trace = descents.flatMap Descended.records
  within : ∀ d ∈ descents, d.records.Pairwise ProbeRecord.Avoids
  across : descents.Pairwise (Keeps carry clocks)
  descending : ∀ d ∈ descents, d.records.Pairwise fun p q => q.binMv < p.binMv
  real : ∀ p ∈ trace, p.binMv ∈ descent.binsDesc
  stems : ∀ point ∈ build.frontier, StemsFrom trace point
  phaseB : ∀ d ∈ descents, d.kind = .phaseB → PhaseBLaw carry phaseBBudget pairedA build d
  once : (descents.filter (·.kind == .phaseB)).length ≤ 1
  tail : ∀ i, build.kneeIndex = some i → build.phaseBPoints - i ≤ phaseBPostKneeTailBins

section Build

variable {S : Type} {probe : Nat → Nat → S → ProbeSample × S} {descent : FrontierDescent}
  {carry : BracketCarryConfig} {policy : ForgePolicy} {clocks : List Nat}
  {phaseBBudget : Option Nat} {pairedA : Classified}

theorem phaseBRun_some {s : S} {run : PhaseBRun S}
    (h : phaseBRun probe descent carry policy clocks phaseBBudget pairedA s = some run) :
    ∃ budget, phaseBBudget = some budget ∧
      phaseBStartMv descent carry pairedA run.focusTarget = some run.startMv ∧
      run.descent = descendPhaseB probe run.focusTarget budget descent run.startMv s := by
  obtain ⟨budget, hbudget, h⟩ := Option.bind_eq_some_iff.mp h
  split at h
  next => cases h
  next =>
    obtain ⟨plateauClock, -, h⟩ := Option.bind_eq_some_iff.mp h
    obtain ⟨focusTarget, -, h⟩ := Option.bind_eq_some_iff.mp h
    obtain ⟨startMv, hstart, rfl⟩ := Option.map_eq_some_iff.mp h
    exact ⟨budget, hbudget, hstart, rfl⟩

/-- What Phase B adds to the record. -/
structure PhaseBSpec (descent : FrontierDescent) (carry : BracketCarryConfig)
    (phaseBBudget : Option Nat) (pairedA : Classified) (entry : S × List ProbeRecord)
    (run : PhaseBRun (S × List ProbeRecord)) : Prop where
  accounts : Accounts descent entry run.descent.2 [run.descended entry]
  budget : ∃ budget, phaseBBudget = some budget ∧ (run.descended entry).records.length ≤ budget
  probesUsed : run.descent.1.probesUsed = (run.descended entry).records.length
  start : phaseBStartMv descent carry pairedA run.focusTarget = some run.startMv
  stems : ∀ point ∈ run.descent.1.points, StemsFrom (run.descended entry).records point.1
  tail : (run.descent.1.points.dropWhile boundAt).length ≤ phaseBPostKneeTailBins

theorem phaseBRun_spec {entry : S × List ProbeRecord} {run : PhaseBRun (S × List ProbeRecord)}
    (h : phaseBRun (recorded probe) descent carry policy clocks phaseBBudget pairedA entry =
      some run) : PhaseBSpec descent carry phaseBBudget pairedA entry run := by
  obtain ⟨budget, hbudget, hstart, hdescent⟩ := phaseBRun_some h
  obtain ⟨records, hlog, hwalked, hcount, hle, hstems⟩ := descendPhaseB_walked probe descent
    run.focusTarget budget run.startMv entry
  rw [← hdescent] at hlog hcount hle hstems
  have hrecords : (run.descended entry).records = records := recordsSince_eq hlog
  constructor
  · exact Accounts.single hlog rfl hwalked
  · exact ⟨budget, hbudget, hrecords ▸ hcount ▸ hle⟩
  · exact hrecords ▸ hcount
  · exact hstart
  · exact hrecords ▸ hstems
  · rw [hdescent]
    exact descendPhaseB_tail descent run.startMv entry

theorem PhaseBSpec.below {entry : S × List ProbeRecord} {run : PhaseBRun (S × List ProbeRecord)}
    (h : PhaseBSpec descent carry phaseBBudget pairedA entry run) {floor : Nat}
    (hfloor : phaseADeepestBin pairedA run.focusTarget = some floor) :
    ∀ p ∈ (run.descended entry).records, p.binMv < floor := by
  intro p hp
  have hstart := h.start
  unfold phaseBStartMv at hstart
  rw [hfloor] at hstart
  obtain ⟨hmem, hlt⟩ := phaseBStartBelow_spec hstart
  have hwalked := h.accounts.walked _ (List.mem_singleton_self _)
  exact (FrontierDescent.le_of_mem_walkFrom hmem (hwalked.mem_walk hp)).trans_lt hlt

theorem PhaseBSpec.fresh {entry : S × List ProbeRecord} {run : PhaseBRun (S × List ProbeRecord)}
    (h : PhaseBSpec descent carry phaseBBudget pairedA entry run)
    (hnone : phaseADeepestBin pairedA run.focusTarget = none) :
    run.startMv = carry.safeStartCapMv := by
  have hstart := h.start
  unfold phaseBStartMv at hstart
  rw [hnone] at hstart
  exact (Option.some.inj hstart).symm

theorem Accounts.real {before after : S × List ProbeRecord} {descents : List Descended}
    (h : Accounts descent before after descents) :
    ∀ p ∈ descents.flatMap Descended.records, p.binMv ∈ descent.binsDesc := by
  intro p hp
  obtain ⟨d, hd, hp⟩ := List.mem_flatMap.mp hp
  exact (descent.walkFrom_sublist d.startMv).subset ((h.walked d hd).mem_walk hp)

theorem Accounts.descending (hbins : descent.binsDesc.Pairwise (· > ·))
    {before after : S × List ProbeRecord} {descents : List Descended}
    (h : Accounts descent before after descents) :
    ∀ d ∈ descents, d.records.Pairwise fun p q => q.binMv < p.binMv :=
  fun d hd => (h.walked d hd).descending (hbins.sublist (descent.walkFrom_sublist d.startMv))

end Build

/-- Every build keeps the law, but for the descents that take a clock up again. -/
theorem buildFrontierTwoPhase_traceLaw {S : Type} (probe : Nat → Nat → S → ProbeSample × S)
    (maxPerTarget : Option Nat) (bindSeeking : Bool) (coreBinsMv : List Nat)
    (capMv stepMv marginSteps : Nat) (enabled : Bool) (policy : ForgePolicy) (clocks : List Nat)
    (phaseBBudget : Option Nat) (s : S) :
    let descent := deriveDescent coreBinsMv capMv stepMv
    let carry := BracketCarryConfig.fromDescent descent enabled marginSteps
    TraceLaw descent carry clocks phaseBBudget
      (runTargetDescents probe maxPerTarget bindSeeking descent carry clocks s)
      (buildFrontierTwoPhase probe maxPerTarget bindSeeking descent carry policy clocks
        phaseBBudget s).1
      (frontierTrace probe maxPerTarget bindSeeking descent carry policy clocks phaseBBudget s)
      (frontierDescents probe maxPerTarget bindSeeking descent carry policy clocks phaseBBudget
        s) := by
  intro descent carry
  have hbins := (domain_deriveDescent coreBinsMv capMv stepMv).sorted
  have hA := targetRuns_spec probe maxPerTarget bindSeeking descent carry clocks none (s, [])
  have hpaired : runTargetDescents probe maxPerTarget bindSeeking descent carry clocks s =
      runTargetDescents (recorded probe) maxPerTarget bindSeeking descent carry clocks (s, []) :=
    (recorded_simulates probe).runTargetDescents_eq clocks (s, [])
  have hbuild : (buildFrontierTwoPhase probe maxPerTarget bindSeeking descent carry policy clocks
      phaseBBudget s).1 = (buildFrontierTwoPhase (recorded probe) maxPerTarget bindSeeking descent
        carry policy clocks phaseBBudget (s, [])).1 :=
    (recorded_simulates probe).buildFrontierTwoPhase_eq policy clocks phaseBBudget (s, [])
  rw [hpaired, hbuild]
  unfold frontierTrace frontierDescents buildFrontierTwoPhase runTargetDescents
  simp only
  generalize targetRuns (recorded probe) maxPerTarget bindSeeking descent carry none clocks
    (s, []) = runs at hA ⊢
  have hlog := hA.accounts
  generalize phaseAExit runs (s, []) = exit at hlog ⊢
  have hnone : (runs.flatMap (TargetRun.descents · carry)).filter (·.kind == .phaseB) = [] :=
    List.filter_eq_nil_iff.mpr fun d hd => by simpa using not_phaseB_of_mem hd
  cases hrun : phaseBRun (recorded probe) descent carry policy clocks phaseBBudget
      (runs.filterMap TargetRun.point) exit with
  | none =>
    have hwhole := hlog.whole
    simp only [Option.map_none, Option.toList_none, List.append_nil]
    refine ⟨hwhole, fun d hd => (hlog.walked d hd).avoids, hA.keeps, hlog.descending hbins,
      hwhole ▸ hlog.real, fun point hpoint => ?_,
      fun d hd hkind => (not_phaseB_of_mem hd hkind).elim, by simp [hnone], fun i hi => by cases hi⟩
    · obtain ⟨entry, hentry, rfl⟩ := List.mem_map.mp hpoint
      exact hwhole ▸ hA.stems entry hentry
  | some run =>
    have hB := phaseBRun_spec hrun
    have hlog := hlog.append hB.accounts
    have hwhole := hlog.whole
    simp only [Option.map_some, Option.toList_some]
    refine ⟨hwhole, fun d hd => (hlog.walked d hd).avoids, ?_, hlog.descending hbins,
      hwhole ▸ hlog.real, fun point hpoint => ?_, fun d hd hkind => ?_, ?_, fun i hi => ?_⟩
    · refine List.pairwise_append.mpr ⟨hA.keeps, List.pairwise_singleton _ _,
        fun d _ e he => .inl (.phaseB ?_)⟩
      rw [List.mem_singleton.mp he]
      rfl
    · obtain ⟨entry, hentry, rfl⟩ := List.mem_map.mp hpoint
      rw [hwhole]
      rcases List.mem_append.mp hentry with hentry | hentry
      · rw [List.flatMap_append]
        exact (hA.stems entry hentry).mono (List.subset_append_left _ _)
      · exact (hB.stems entry hentry).flatMap (by simp)
    · rcases List.mem_append.mp hd with hd | hd
      · exact (not_phaseB_of_mem hd hkind).elim
      · rw [List.mem_singleton.mp hd]
        exact ⟨hB.budget, hB.probesUsed, hB.fresh, fun floor hfloor => hB.below hfloor⟩
    · rw [List.filter_append, hnone, List.nil_append]
      exact List.length_filter_le _ _
    · have htail := hB.tail
      rw [← detectPowerBoundKnee_drop hi, List.length_drop] at htail
      exact htail

instance (p q : ProbeRecord) : Decidable (p.Avoids q) :=
  inferInstanceAs (Decidable (p.targetMhz = q.targetMhz → p.sample.failure ≠ none →
    p.binMv < q.binMv))

/-- A card that runs 1810 MHz at its cap, and where 1815 MHz is never stable. -/
def droppedFocusSample (target _v : Nat) : ProbeSample where
  outcome := if target = 1815 then .unstable else .stable
  avgClockMhz := 1810
  powerW := 199

/-- A card that applies 975 mV for whatever it is asked. -/
def snappedSample (target _v : Nat) : ProbeSample where
  outcome := .stable
  avgClockMhz := target
  powerW := 180
  vfBinMv := some 975

/-- Phase B restarts a dropped clock at the cap that failed, a clock that is listed twice is probed
twice there, and a point names the bin that its probe applied. -/
theorem dropped_focus_probed_again :
    let descent := deriveDescent [975, 1000] 1000 25
    let carry := BracketCarryConfig.fromDescent descent false 0
    (¬ (frontierDescents (pureProbe droppedFocusSample) (some 1) false descent carry .balanced
        [1935, 1905, 1815] (some 12) ()).Pairwise fun earlier later =>
          later.kind = .capFallback ∨ ∀ p ∈ earlier.records, ∀ q ∈ later.records, p.Avoids q) ∧
      (¬ (frontierDescents (pureProbe droppedFocusSample) (some 1) false descent carry .balanced
        [1815, 1815] none ()).Pairwise fun earlier later =>
          later.kind = .capFallback ∨ ∀ p ∈ earlier.records, ∀ q ∈ later.records, p.Avoids q) ∧
      (frontierTrace (pureProbe snappedSample) (some 1) false descent carry .balanced [1900] none
        ()).map ProbeRecord.binMv = [1000] ∧
      (buildFrontierTwoPhase (pureProbe snappedSample) (some 1) false descent carry .balanced
        [1900] none ()).1.frontier.map PowerSweepPoint.vfTableVoltageMv = [some 975] := by
  decide +kernel

end Nidavellir

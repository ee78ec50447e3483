import Nidavellir.KneeSeeking
import Nidavellir.WarmStartRuns

namespace Nidavellir

section Simulation

variable {S T : Type*}

/-- A probe on a richer state gives the answers of another one. -/
def Simulates (rich : Nat → Nat → T → ProbeSample × T) (probe : Nat → Nat → S → ProbeSample × S)
    (f : T → S) : Prop :=
  ∀ target v t, probe target v (f t) = ((rich target v t).1, f (rich target v t).2)

def TargetRun.mapState (f : T → S) (run : TargetRun T) : TargetRun S where
  target := run.target
  prev := run.prev
  decision := run.decision
  entry := f run.entry
  first := (run.first.1, f run.first.2)
  fallback := run.fallback.map fun fb => (fb.1, f fb.2)
  bracket := run.bracket
  point := run.point
  exit := f run.exit

def PhaseBRun.mapState (f : T → S) (run : PhaseBRun T) : PhaseBRun S where
  plateauClock := run.plateauClock
  focusTarget := run.focusTarget
  startMv := run.startMv
  descent := (run.descent.1, f run.descent.2)

namespace Simulates

variable {rich : Nat → Nat → T → ProbeSample × T} {probe : Nat → Nat → S → ProbeSample × S}
  {f : T → S} {maxPerTarget : Option Nat} {bindSeeking : Bool} {descent : FrontierDescent}
  {carry : BracketCarryConfig} {target startBin budget : Nat}

theorem descendBins_eq (h : Simulates rich probe f) (walk : List Nat) (bracket : TargetBracket)
    (deepestPoint : Option DescentPoint) (t : T) :
    descendBins probe maxPerTarget bindSeeking target startBin walk bracket deepestPoint
      (f t) =
      ((descendBins rich maxPerTarget bindSeeking target startBin walk bracket
        deepestPoint t).1, f (descendBins rich maxPerTarget bindSeeking target startBin
          walk bracket deepestPoint t).2) := by
  induction walk generalizing bracket deepestPoint t with
  | nil => rfl
  | cons v walk ih =>
    unfold descendBins
    rw [h target v t]
    simp only
    split
    next => rfl
    next =>
      cases (rich target v t).1.failure with
      | some stop => rfl
      | none =>
        simp only
        split
        next => rfl
        next => exact ih _ _ _

theorem descendTarget_eq (h : Simulates rich probe f) (startMv : Nat) (t : T) :
    descendTarget probe maxPerTarget bindSeeking target descent startMv (f t) =
      ((descendTarget rich maxPerTarget bindSeeking target descent startMv t).1,
        f (descendTarget rich maxPerTarget bindSeeking target descent startMv t).2) := by
  unfold descendTarget
  simp only
  cases descent.startBin startMv with
  | none => rfl
  | some b => exact h.descendBins_eq _ _ _ t

theorem carriedDescent_eq (h : Simulates rich probe f) (prev : Option TargetBracket) (target : Nat)
    (t : T) :
    carriedDescent probe maxPerTarget bindSeeking descent carry prev target (f t) =
      (carriedDescent rich maxPerTarget bindSeeking descent carry prev target
        t).mapState f := by
  unfold carriedDescent
  simp only
  rw [h.descendTarget_eq]
  simp only
  split
  next => rw [h.descendTarget_eq]; rfl
  next => rfl

theorem targetRuns_eq (h : Simulates rich probe f) (prev : Option TargetBracket) (clocks : List Nat)
    (t : T) :
    targetRuns probe maxPerTarget bindSeeking descent carry prev clocks (f t) =
      (targetRuns rich maxPerTarget bindSeeking descent carry prev clocks t).map
        (TargetRun.mapState f) := by
  induction clocks generalizing prev t with
  | nil => rfl
  | cons target clocks ih =>
    unfold targetRuns
    simp only [List.map_cons]
    rw [h.carriedDescent_eq]
    exact congrArg _ (ih _ _)

theorem runTargetDescents_eq (h : Simulates rich probe f) (clocks : List Nat) (t : T) :
    runTargetDescents probe maxPerTarget bindSeeking descent carry clocks (f t) =
      runTargetDescents rich maxPerTarget bindSeeking descent carry clocks t := by
  unfold runTargetDescents
  rw [h.targetRuns_eq, List.filterMap_map]
  rfl

theorem phaseAExit_eq (h : Simulates rich probe f) (clocks : List Nat) (t : T) :
    phaseAExit (targetRuns probe maxPerTarget bindSeeking descent carry none
      clocks (f t)) (f t) =
      f (phaseAExit (targetRuns rich maxPerTarget bindSeeking descent carry
        none clocks t) t) := by
  unfold phaseAExit
  rw [h.targetRuns_eq, List.getLast?_map]
  cases (targetRuns rich maxPerTarget bindSeeking descent carry none clocks
    t).getLast? <;> rfl

theorem phaseBBins_eq (h : Simulates rich probe f) (walk : List Nat) (traj : PhaseBTrajectory)
    (tail : KneeTail) (t : T) :
    phaseBBins probe target budget walk traj tail (f t) =
      ((phaseBBins rich target budget walk traj tail t).1,
        f (phaseBBins rich target budget walk traj tail t).2) := by
  induction walk generalizing traj tail t with
  | nil => rfl
  | cons v walk ih =>
    unfold phaseBBins
    rw [h target v t]
    simp only
    split
    next => rfl
    next =>
      cases (rich target v t).1.failure with
      | some stop => rfl
      | none =>
        simp only
        split
        next => rfl
        next => exact ih _ _ _

theorem descendPhaseB_eq (h : Simulates rich probe f) (startMv : Nat) (t : T) :
    descendPhaseB probe target budget descent startMv (f t) =
      ((descendPhaseB rich target budget descent startMv t).1,
        f (descendPhaseB rich target budget descent startMv t).2) := by
  unfold descendPhaseB
  cases descent.startBin startMv with
  | none => rfl
  | some b => exact h.phaseBBins_eq _ _ _ t

theorem phaseBRun_eq (h : Simulates rich probe f) (policy : ForgePolicy) (clocks : List Nat)
    (phaseBBudget : Option Nat) (pairedA : Classified) (t : T) :
    phaseBRun probe descent carry policy clocks phaseBBudget pairedA (f t) =
      (phaseBRun rich descent carry policy clocks phaseBBudget pairedA t).map
        (PhaseBRun.mapState f) := by
  unfold phaseBRun
  cases phaseBBudget with
  | none => rfl
  | some budget =>
    simp only [Option.bind_some]
    split
    next => rfl
    next =>
      cases detectPlateauClock pairedA with
      | none => rfl
      | some plateauClock =>
        simp only [Option.bind_some]
        cases selectPhaseBTarget clocks plateauClock with
        | none => rfl
        | some focusTarget =>
          simp only [Option.bind_some, Option.map_map, h.descendPhaseB_eq]
          rfl

/-- A richer state changes nothing of a build. -/
theorem buildFrontierTwoPhase_eq (h : Simulates rich probe f) (policy : ForgePolicy)
    (clocks : List Nat) (phaseBBudget : Option Nat) (t : T) :
    (buildFrontierTwoPhase probe maxPerTarget bindSeeking descent carry policy clocks
      phaseBBudget (f t)).1 =
      (buildFrontierTwoPhase rich maxPerTarget bindSeeking descent carry policy clocks
        phaseBBudget t).1 := by
  unfold buildFrontierTwoPhase
  simp only [h.runTargetDescents_eq, h.phaseAExit_eq, h.phaseBRun_eq]
  cases phaseBRun rich descent carry policy clocks phaseBBudget
    (runTargetDescents rich maxPerTarget bindSeeking descent carry clocks t)
    (phaseAExit (targetRuns rich maxPerTarget bindSeeking descent carry none
      clocks t) t) <;> rfl

end Simulates

end Simulation

/-- One probe of a build: what was asked and what came back. -/
structure ProbeRecord where
  targetMhz : Nat
  binMv : Nat
  sample : ProbeSample

namespace ProbeRecord

/-- Crashed, aborted, drained, unverified or unstable. -/
def failed (self : ProbeRecord) : Prop := self.sample.failure ≠ none

/-- A later probe of the clock stays above a bin that failed. -/
def Avoids (self later : ProbeRecord) : Prop :=
  self.targetMhz = later.targetMhz → self.failed → self.binMv < later.binMv

end ProbeRecord

/-- A probe that writes down each of its answers. -/
def recorded {S : Type*} (probe : Nat → Nat → S → ProbeSample × S) (target v : Nat)
    (s : S × List ProbeRecord) : ProbeSample × (S × List ProbeRecord) :=
  let answer := probe target v s.1
  (answer.1, answer.2, s.2 ++ [⟨target, v, answer.1⟩])

theorem recorded_simulates {S : Type*} (probe : Nat → Nat → S → ProbeSample × S) :
    Simulates (recorded probe) probe Prod.fst :=
  fun _ _ _ => rfl

/-- The probes of a descent go down its walk bin by bin, and none follows a failure. -/
inductive Walked (target : Nat) : List Nat → List ProbeRecord → Prop
  | stop (walk : List Nat) : Walked target walk []
  | failed {v : Nat} {walk : List Nat} {sample : ProbeSample} (h : sample.failure ≠ none) :
      Walked target (v :: walk) [⟨target, v, sample⟩]
  | next {v : Nat} {walk : List Nat} {records : List ProbeRecord} (sample : ProbeSample)
      (h : sample.failure = none) (rest : Walked target walk records) :
      Walked target (v :: walk) (⟨target, v, sample⟩ :: records)

namespace Walked

variable {target : Nat} {walk : List Nat} {records : List ProbeRecord}

theorem targetMhz_eq (h : Walked target walk records) : ∀ p ∈ records, p.targetMhz = target := by
  induction h with
  | stop => intro p hp; cases hp
  | failed => intro p hp; rw [List.mem_singleton.mp hp]
  | next sample hsample rest ih =>
    intro p hp
    rcases List.mem_cons.mp hp with rfl | hp
    · rfl
    · exact ih p hp

theorem bins_prefix (h : Walked target walk records) :
    records.map ProbeRecord.binMv <+: walk := by
  induction h with
  | stop => exact List.nil_prefix
  | failed => exact List.cons_prefix_cons.mpr ⟨rfl, List.nil_prefix⟩
  | next sample hsample rest ih => exact List.cons_prefix_cons.mpr ⟨rfl, ih⟩

theorem mem_walk (h : Walked target walk records) {p : ProbeRecord} (hp : p ∈ records) :
    p.binMv ∈ walk :=
  h.bins_prefix.subset (List.mem_map_of_mem hp)

theorem descending (h : Walked target walk records) (hwalk : walk.Pairwise (· > ·)) :
    records.Pairwise fun p q => q.binMv < p.binMv :=
  List.pairwise_map.mp (hwalk.sublist h.bins_prefix.sublist)

/-- Within one descent nothing comes after a failure. -/
theorem avoids (h : Walked target walk records) : records.Pairwise ProbeRecord.Avoids := by
  induction h with
  | stop => exact .nil
  | failed => exact List.pairwise_singleton _ _
  | next sample hsample rest ih =>
    exact List.pairwise_cons.mpr ⟨fun q _ _ hfailed => (hfailed hsample).elim, ih⟩

end Walked

/-- The bins below a requested start, from the one that the start snaps to. -/
def FrontierDescent.walkFrom (descent : FrontierDescent) (startMv : Nat) : List Nat :=
  match descent.startBin startMv with
  | none => []
  | some startBin => descent.binsDesc.filter (· ≤ startBin)

theorem FrontierDescent.walkFrom_sublist (descent : FrontierDescent) (startMv : Nat) :
    (descent.walkFrom startMv).Sublist descent.binsDesc := by
  unfold walkFrom
  split
  next => exact List.nil_sublist _
  next => exact List.filter_sublist

section Descent

variable {S : Type} {probe : Nat → Nat → S → ProbeSample × S} {maxPerTarget : Option Nat}
  {bindSeeking : Bool} {descent : FrontierDescent} {target startBin budget : Nat}

/-- The point is the one of a verified stable probe. -/
def StemsFrom (records : List ProbeRecord) (point : PowerSweepPoint) : Prop :=
  ∃ p ∈ records, p.sample.failure = none ∧ point = probeToPoint p.targetMhz p.binMv p.sample

theorem StemsFrom.mono {records more : List ProbeRecord} {point : PowerSweepPoint}
    (h : StemsFrom records point) (hsub : records ⊆ more) : StemsFrom more point := by
  obtain ⟨p, hp, hp'⟩ := h
  exact ⟨p, hsub hp, hp'⟩

variable (probe maxPerTarget bindSeeking target startBin) in
/-- What a descent adds to the record. -/
theorem descendBins_walked (walk : List Nat) (bracket : TargetBracket)
    (deepestPoint : Option DescentPoint) (s : S × List ProbeRecord) :
    let result := descendBins (recorded probe) maxPerTarget bindSeeking target startBin walk
      bracket deepestPoint s
    ∃ records, result.2.2 = s.2 ++ records ∧ Walked target walk records ∧
      (result.1.2 = deepestPoint ∨ ∃ entry, result.1.2 = some entry ∧
        StemsFrom records entry.1) := by
  induction walk generalizing bracket deepestPoint s with
  | nil => exact ⟨[], (List.append_nil _).symm, .stop _, .inl rfl⟩
  | cons v walk ih =>
    unfold descendBins
    simp only
    split
    next => exact ⟨[], (List.append_nil _).symm, .stop _, .inl rfl⟩
    next =>
      split
      next stop hfailure =>
        exact ⟨[⟨target, v, (probe target v s.1).1⟩], rfl,
          .failed (ne_of_eq_of_ne hfailure (Option.some_ne_none stop)), .inl rfl⟩
      next hstable =>
        have hpoint : StemsFrom [⟨target, v, (probe target v s.1).1⟩]
            (probeToPoint target v (probe target v s.1).1) :=
          ⟨_, List.mem_singleton_self _, hstable, rfl⟩
        split
        next =>
          exact ⟨[⟨target, v, (probe target v s.1).1⟩], rfl,
            .next _ hstable (.stop _), .inr ⟨_, rfl, hpoint⟩⟩
        next =>
          obtain ⟨records, hlog, hwalked, hdeepest⟩ := ih
            { bracket with probesUsed := bracket.probesUsed + 1, lowestVerifiedMv := some v }
            (some (probeToPoint target v (probe target v s.1).1, (probe target v s.1).1.confidence))
            (recorded probe target v s).2
          refine ⟨⟨target, v, (probe target v s.1).1⟩ :: records, ?_, .next _ hstable hwalked, ?_⟩
          · exact hlog.trans (List.append_cons _ _ _).symm
          · rcases hdeepest with hkept | ⟨entry, hentry, hstems⟩
            · exact .inr ⟨_, hkept, hpoint.mono (by simp)⟩
            · exact .inr ⟨entry, hentry, hstems.mono (List.subset_cons_self _ _)⟩

variable (probe maxPerTarget bindSeeking target descent) in
theorem descendTarget_walked (startMv : Nat) (s : S × List ProbeRecord) :
    let result := descendTarget (recorded probe) maxPerTarget bindSeeking target descent startMv s
    ∃ records, result.2.2 = s.2 ++ records ∧
      Walked target (descent.walkFrom startMv) records ∧
      ∀ entry, result.1.2 = some entry → StemsFrom records entry.1 := by
  unfold descendTarget FrontierDescent.walkFrom
  cases descent.startBin startMv with
  | none => exact ⟨[], (List.append_nil _).symm, .stop _, fun entry hentry => by cases hentry⟩
  | some b =>
    obtain ⟨records, hlog, hwalked, hdeepest⟩ := descendBins_walked probe maxPerTarget bindSeeking
      target b (descent.binsDesc.filter (· ≤ b))
      { targetMhz := target, highestStartMv := startMv } none s
    refine ⟨records, hlog, hwalked, fun entry hentry => ?_⟩
    rcases hdeepest with hnone | ⟨entry', hentry', hstems⟩
    · rw [hnone] at hentry
      cases hentry
    · obtain rfl := Option.some.inj (hentry'.symm.trans hentry)
      exact hstems

/-- An unverified descent without a floor is one probe, which did not verify. -/
theorem descendTarget_unverified {startMv : Nat} {s : S × List ProbeRecord} :
    let result := descendTarget (recorded probe) maxPerTarget bindSeeking target descent startMv s
    result.1.1.lowestVerifiedMv = none → result.1.1.stopReason = .softUnverified →
      ∃ p, result.2.2 = s.2 ++ [p] ∧ p.sample.failure = some .softUnverified := by
  unfold descendTarget
  cases descent.startBin startMv with
  | none => exact fun _ hstop => by cases hstop
  | some b =>
    simp only
    cases descent.binsDesc.filter (· ≤ b) with
    | nil => exact fun _ hstop => by cases hstop
    | cons v walk =>
      intro hnone hstop
      obtain ⟨hfailure, hstate⟩ := descendBins_unverified hnone hstop
      exact ⟨⟨target, v, (probe target v s.1).1⟩, congrArg Prod.snd hstate, hfailure⟩

variable (probe target budget) in
theorem phaseBBins_walked (walk : List Nat) (traj : PhaseBTrajectory) (tail : KneeTail)
    (s : S × List ProbeRecord) (hused : traj.probesUsed ≤ budget) :
    let result := phaseBBins (recorded probe) target budget walk traj tail s
    ∃ records, result.2.2 = s.2 ++ records ∧ Walked target walk records ∧
      result.1.probesUsed = traj.probesUsed + records.length ∧ result.1.probesUsed ≤ budget ∧
      ∀ entry ∈ result.1.points, entry ∈ traj.points ∨ StemsFrom records entry.1 := by
  induction walk generalizing traj tail s with
  | nil => exact ⟨[], (List.append_nil _).symm, .stop _, rfl, hused, fun _ => .inl⟩
  | cons v walk ih =>
    unfold phaseBBins
    simp only
    split
    next => exact ⟨[], (List.append_nil _).symm, .stop _, rfl, hused, fun _ => .inl⟩
    next hleft =>
      split
      next stop hfailure =>
        exact ⟨[⟨target, v, (probe target v s.1).1⟩], rfl,
          .failed (ne_of_eq_of_ne hfailure (Option.some_ne_none stop)), rfl, by simp; omega,
          fun _ => .inl⟩
      next hstable =>
        have hpoint : StemsFrom [⟨target, v, (probe target v s.1).1⟩]
            (probeToPoint target v (probe target v s.1).1) :=
          ⟨_, List.mem_singleton_self _, hstable, rfl⟩
        have hadded : ∀ entry ∈ traj.points ++ [(probeToPoint target v (probe target v s.1).1,
            (probe target v s.1).1.confidence)],
            entry ∈ traj.points ∨ StemsFrom [⟨target, v, (probe target v s.1).1⟩] entry.1 := by
          intro entry hentry
          rcases List.mem_append.mp hentry with hkept | hnew
          · exact .inl hkept
          · rw [List.mem_singleton.mp hnew]
            exact .inr hpoint
        split
        next =>
          exact ⟨[⟨target, v, (probe target v s.1).1⟩], rfl, .next _ hstable (.stop _), rfl,
            by simp; omega, hadded⟩
        next =>
          obtain ⟨records, hlog, hwalked, hcount, hbudget, hpoints⟩ := ih
            { traj with
              probesUsed := traj.probesUsed + 1
              points := traj.points ++ [(probeToPoint target v (probe target v s.1).1,
                (probe target v s.1).1.confidence)] }
            (tail.capture (!isPowerBoundPoint (probeToPoint target v (probe target v s.1).1)) v)
            (recorded probe target v s).2 (by simp; omega)
          refine ⟨⟨target, v, (probe target v s.1).1⟩ :: records, ?_, .next _ hstable hwalked, ?_,
            hbudget, fun entry hentry => ?_⟩
          · exact hlog.trans (List.append_cons _ _ _).symm
          · exact hcount.trans (by simp; omega)
          · rcases hpoints entry hentry with hkept | hstems
            · exact (hadded entry hkept).imp id fun h => h.mono (by simp)
            · exact .inr (hstems.mono (List.subset_cons_self _ _))

variable (probe target budget descent) in
theorem descendPhaseB_walked (startMv : Nat) (s : S × List ProbeRecord) :
    let result := descendPhaseB (recorded probe) target budget descent startMv s
    ∃ records, result.2.2 = s.2 ++ records ∧
      Walked target (descent.walkFrom startMv) records ∧
      result.1.probesUsed = records.length ∧ result.1.probesUsed ≤ budget ∧
      ∀ entry ∈ result.1.points, StemsFrom records entry.1 := by
  unfold descendPhaseB FrontierDescent.walkFrom
  cases descent.startBin startMv with
  | none =>
    exact ⟨[], (List.append_nil _).symm, .stop _, rfl, Nat.zero_le _,
      fun _ hentry => by cases hentry⟩
  | some b =>
    obtain ⟨records, hlog, hwalked, hcount, hbudget, hpoints⟩ := phaseBBins_walked probe target
      budget (descent.binsDesc.filter (· ≤ b)) {} {} s (Nat.zero_le _)
    refine ⟨records, hlog, hwalked, hcount.trans (Nat.zero_add _), hbudget, fun entry hentry => ?_⟩
    rcases hpoints entry hentry with hnone | hstems
    · cases hnone
    · exact hstems

end Descent

end Nidavellir

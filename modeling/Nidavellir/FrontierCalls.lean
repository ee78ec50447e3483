import Nidavellir.FrontierTrace
import Nidavellir.Lib.Calls

namespace Nidavellir

open Calls Extremes

section Probe

variable {S : Type*} (probe : Nat → Nat → S → ProbeSample × S)

/-- One call of the probe, at a clock and a bin. -/
def probeAt (pair : Nat × Nat) (s : S) : ProbeSample × S := probe pair.1 pair.2 s

/-- The point is that of a call whose sample ended nothing. -/
def KeptFrom (s : S) (calls : List (Nat × Nat)) (point : DescentPoint) : Prop :=
  ∃ e ∈ answers (probeAt probe) calls s, e.2.failure = none ∧
    point = (probeToPoint e.1.1 e.1.2 e.2, e.2.confidence)

/-- The build got from `s` to `s'` by at most `bound` calls, at these clocks and at bins of the
descent, and every point is that of one of them. -/
def Drives (descent : FrontierDescent) (clocks : List Nat) (bound : Nat) (s : S)
    (points : List DescentPoint) (s' : S) : Prop :=
  ∃ calls : List (Nat × Nat), calls.length ≤ bound ∧
    (∀ c ∈ calls, c.1 ∈ clocks ∧ c.2 ∈ descent.binsDesc) ∧
    after (probeAt probe) calls s = s' ∧ ∀ p ∈ points, KeptFrom probe s calls p

end Probe

section Drives

variable {S : Type*} {probe : Nat → Nat → S → ProbeSample × S} {descent : FrontierDescent}
  {clocks clocks' : List Nat} {bound bound' : Nat} {s s' s'' : S}
  {points points' : List DescentPoint}

theorem KeptFrom.append_left {calls later : List (Nat × Nat)} {p : DescentPoint}
    (h : KeptFrom probe s calls p) : KeptFrom probe s (calls ++ later) p := by
  obtain ⟨e, he, hkept⟩ := h
  exact ⟨e, by rw [answers_append]; exact List.mem_append_left _ he, hkept⟩

theorem KeptFrom.append_right {calls earlier : List (Nat × Nat)} {p : DescentPoint}
    (h : KeptFrom probe (after (probeAt probe) earlier s) calls p) :
    KeptFrom probe s (earlier ++ calls) p := by
  obtain ⟨e, he, hkept⟩ := h
  exact ⟨e, by rw [answers_append]; exact List.mem_append_right _ he, hkept⟩

theorem Drives.nil : Drives probe descent clocks 0 s [] s :=
  ⟨[], le_rfl, fun _ h => absurd h List.not_mem_nil, rfl, fun _ h => absurd h List.not_mem_nil⟩

theorem Drives.append (h : Drives probe descent clocks bound s points s')
    (h' : Drives probe descent clocks bound' s' points' s'') :
    Drives probe descent clocks (bound + bound') s (points ++ points') s'' := by
  obtain ⟨calls, hlen, hin, rfl, hkept⟩ := h
  obtain ⟨calls', hlen', hin', rfl, hkept'⟩ := h'
  refine ⟨calls ++ calls', ?_, ?_, after_append, ?_⟩
  · rw [List.length_append]
    omega
  · intro c hc
    rcases List.mem_append.mp hc with hc | hc
    · exact hin c hc
    · exact hin' c hc
  · intro p hp
    rcases List.mem_append.mp hp with hp | hp
    · exact (hkept p hp).append_left
    · exact (hkept' p hp).append_right

theorem Drives.mono (h : Drives probe descent clocks bound s points s')
    (hclocks : ∀ c ∈ clocks, c ∈ clocks') (hbound : bound ≤ bound')
    (hpoints : ∀ p ∈ points', p ∈ points) :
    Drives probe descent clocks' bound' s points' s' := by
  obtain ⟨calls, hlen, hin, hexit, hkept⟩ := h
  refine ⟨calls, hlen.trans hbound, fun c hc => ?_, hexit, fun p hp => hkept p (hpoints p hp)⟩
  exact ⟨hclocks c.1 (hin c hc).1, (hin c hc).2⟩

/-- One call in front of a walk. -/
theorem KeptFrom.cons {target v : Nat} {calls : List (Nat × Nat)} {p : DescentPoint}
    (h : KeptFrom probe (probe target v s).2 calls p) :
    KeptFrom probe s ((target, v) :: calls) p :=
  show KeptFrom probe s ([(target, v)] ++ calls) p from KeptFrom.append_right h

theorem KeptFrom.head {target v : Nat} {calls : List (Nat × Nat)}
    (h : (probe target v s).1.failure = none) :
    KeptFrom probe s ((target, v) :: calls)
      (probeToPoint target v (probe target v s).1, (probe target v s).1.confidence) :=
  ⟨((target, v), (probe target v s).1), List.mem_cons_self, h, rfl⟩

end Drives

section Walk

variable {S : Type*} {probe : Nat → Nat → S → ProbeSample × S} {maxPerTarget : Option Nat}
  {bindSeeking : Bool} {descent : FrontierDescent} {target startBin : Nat}

variable (probe maxPerTarget bindSeeking target startBin) in
/-- A walk asks for the bins from its top on, as many as it counts, and within the cap. -/
theorem descendBins_calls (walk : List Nat) (bracket : TargetBracket)
    (deepestPoint : Option DescentPoint) (s : S) :
    let result := descendBins probe maxPerTarget bindSeeking target startBin walk bracket
      deepestPoint s
    ∃ n ≤ walk.length, (∀ m, maxPerTarget = some m → n ≤ m - bracket.probesUsed) ∧
      after (probeAt probe) ((walk.take n).map (target, ·)) s = result.2 ∧
      ∀ p, result.1.2 = some p →
        deepestPoint = some p ∨ KeptFrom probe s ((walk.take n).map (target, ·)) p := by
  induction walk generalizing bracket deepestPoint s with
  | nil => exact ⟨0, le_rfl, fun m _ => Nat.zero_le _, rfl, fun p hp => .inl hp⟩
  | cons v walk ih =>
    unfold descendBins
    simp only
    split
    next => exact ⟨0, Nat.zero_le _, fun m _ => Nat.zero_le _, rfl, fun p hp => .inl hp⟩
    next hopen =>
      have hroom : ∀ m, maxPerTarget = some m → bracket.probesUsed + 1 ≤ m := by
        intro m hm
        simp only [hm, Option.any_some, decide_eq_true_eq, not_le] at hopen
        exact hopen
      have hone : ∀ m, maxPerTarget = some m → 1 ≤ m - bracket.probesUsed := by
        intro m hm
        have := hroom m hm
        omega
      have hlength : 1 ≤ (v :: walk).length := by simp
      split
      next => exact ⟨1, hlength, hone, rfl, fun p hp => .inl hp⟩
      next hkept =>
        split
        next =>
          refine ⟨1, hlength, hone, rfl, fun p hp => .inr ?_⟩
          obtain rfl := Option.some.inj hp
          exact .head hkept
        next =>
          obtain ⟨n, hn, hcap, hexit, hpoints⟩ := ih
            { bracket with probesUsed := bracket.probesUsed + 1, lowestVerifiedMv := some v }
            (some (probeToPoint target v (probe target v s).1, (probe target v s).1.confidence))
            (probe target v s).2
          refine ⟨n + 1, by simpa using hn, fun m hm => ?_, hexit, fun p hp => .inr ?_⟩
          · have hle := hcap m hm
            have := hroom m hm
            simp only at hle
            omega
          · rcases hpoints p hp with hhere | hlater
            · obtain rfl := Option.some.inj hhere
              exact .head hkept
            · exact hlater.cons

/-- The bins that one descent probes at most. -/
def binsPerTarget (descent : FrontierDescent) (maxPerTarget : Option Nat) : Nat :=
  maxPerTarget.elim descent.binsDesc.length (min descent.binsDesc.length)

theorem le_binsPerTarget {n : Nat} (hn : n ≤ descent.binsDesc.length)
    (hcap : ∀ m, maxPerTarget = some m → n ≤ m) : n ≤ binsPerTarget descent maxPerTarget := by
  cases maxPerTarget with
  | none => exact hn
  | some m => exact le_min hn (hcap m rfl)

theorem drives_walk {walk : List Nat} {n bound : Nat} {s s' : S} {points : List DescentPoint}
    (hwalk : ∀ v ∈ walk, v ∈ descent.binsDesc) (hn : n ≤ bound)
    (hexit : after (probeAt probe) ((walk.take n).map (target, ·)) s = s')
    (hpoints : ∀ p ∈ points, KeptFrom probe s ((walk.take n).map (target, ·)) p) :
    Drives probe descent [target] bound s points s' := by
  refine ⟨(walk.take n).map (target, ·), ?_, ?_, hexit, hpoints⟩
  · rw [List.length_map, List.length_take]
    omega
  · intro c hc
    obtain ⟨v, hv, rfl⟩ := List.mem_map.mp hc
    exact ⟨List.mem_singleton.mpr rfl, hwalk v (List.mem_of_mem_take hv)⟩

variable (probe maxPerTarget bindSeeking target descent) in
theorem descendTarget_drives (startMv : Nat) (s : S) :
    let result := descendTarget probe maxPerTarget bindSeeking target descent startMv s
    Drives probe descent [target] (binsPerTarget descent maxPerTarget) s result.1.2.toList
      result.2 := by
  unfold descendTarget
  simp only
  split
  next => exact Drives.nil.mono (fun _ h => h) (Nat.zero_le _) fun _ h => h
  next startBin _ =>
    obtain ⟨n, hn, hcap, hexit, hpoints⟩ := descendBins_calls probe maxPerTarget bindSeeking target
      startBin (descent.binsDesc.filter (· ≤ startBin))
      { targetMhz := target, highestStartMv := startMv } none s
    have hlength : n ≤ descent.binsDesc.length := hn.trans (List.length_filter_le ..)
    refine drives_walk (fun v hv => List.mem_of_mem_filter hv)
      (le_binsPerTarget hlength fun m hm => by simpa using hcap m hm) hexit fun p hp => ?_
    rcases hpoints p (Option.mem_toList.mp hp) with hnone | hkept
    · cases hnone
    · exact hkept

end Walk

section Build

variable {S : Type} {probe : Nat → Nat → S → ProbeSample × S} {maxPerTarget : Option Nat}
  {bindSeeking : Bool} {descent : FrontierDescent} {carry : BracketCarryConfig}

/-- A warm start that is not verified is followed by one descent from the cap. -/
def descentsPerTarget (carry : BracketCarryConfig) : Nat := if carry.enabled then 2 else 1

theorem warmStartMv_disabled (prev : Option TargetBracket) (h : carry.enabled = false) :
    (warmStartMv prev carry).warmStarted = false := by
  unfold warmStartMv
  simp [h]

variable (probe maxPerTarget bindSeeking descent carry) in
theorem carriedDescent_drives (prev : Option TargetBracket) (target : Nat) (s : S) :
    let run := carriedDescent probe maxPerTarget bindSeeking descent carry prev target s
    Drives probe descent [target] (descentsPerTarget carry * binsPerTarget descent maxPerTarget) s
      run.point.toList run.exit := by
  have hfirst := descendTarget_drives probe maxPerTarget bindSeeking descent target
    (warmStartMv prev carry).startMv s
  unfold carriedDescent
  simp only
  split
  next hfell =>
    -- only a warm start falls back, and only an enabled carry starts warm
    have hwarm : (warmStartMv prev carry).warmStarted = true := by
      simp only [Bool.and_eq_true] at hfell
      exact hfell.1.1
    have henabled : carry.enabled = true := by
      by_contra hoff
      rw [warmStartMv_disabled prev (Bool.eq_false_iff.mpr hoff)] at hwarm
      cases hwarm
    refine (hfirst.append (descendTarget_drives probe maxPerTarget bindSeeking descent target
      carry.safeStartCapMv _)).mono (fun _ h => h) ?_
      fun p hp => List.mem_append_right _ hp
    rw [descentsPerTarget, if_pos henabled]
    omega
  next =>
    refine hfirst.mono (fun _ h => h) ?_ fun _ h => h
    have hpos : 1 ≤ descentsPerTarget carry := by
      unfold descentsPerTarget
      split <;> omega
    exact Nat.le_mul_of_pos_left _ hpos

variable (probe maxPerTarget bindSeeking descent carry) in
theorem targetRuns_drives (prev : Option TargetBracket) (clocks : List Nat) (s : S) :
    let runs := targetRuns probe maxPerTarget bindSeeking descent carry prev clocks s
    Drives probe descent clocks
      (clocks.length * (descentsPerTarget carry * binsPerTarget descent maxPerTarget)) s
      (runs.filterMap TargetRun.point) (phaseAExit runs s) := by
  induction clocks generalizing prev s with
  | nil => exact Drives.nil.mono (fun _ h => h) (Nat.zero_le _) fun _ h => h
  | cons target clocks ih =>
    have hhead := carriedDescent_drives probe maxPerTarget bindSeeking descent carry prev target s
    have hrest := ih
      (some (carriedDescent probe maxPerTarget bindSeeking descent carry prev target s).bracket)
      (carriedDescent probe maxPerTarget bindSeeking descent carry prev target s).exit
    unfold targetRuns
    simp only
    rw [phaseAExit_cons]
    have hhead' := hhead.mono
      (fun c hc => show c ∈ target :: clocks from
        List.mem_singleton.mp hc ▸ List.mem_cons_self) le_rfl
      fun _ h => h
    have hrest' := hrest.mono
      (fun c hc => show c ∈ target :: clocks from List.mem_cons_of_mem _ hc) le_rfl
      fun _ h => h
    refine (hhead'.append hrest').mono (fun _ h => h) ?_ fun p hp => ?_
    · rw [List.length_cons, Nat.succ_mul]
      omega
    · rw [List.filterMap_cons] at hp
      split at hp
      next => exact List.mem_append_right _ hp
      next point hpoint =>
        rcases List.mem_cons.mp hp with rfl | hp
        · exact List.mem_append_left _ (Option.mem_toList.mpr hpoint)
        · exact List.mem_append_right _ hp

variable (probe) in
/-- The deep descent asks for the bins from its top on, within its budget. -/
theorem phaseBBins_calls (target budget : Nat) (walk : List Nat) (traj : PhaseBTrajectory)
    (tail : KneeTail) (s : S) :
    let result := phaseBBins probe target budget walk traj tail s
    ∃ n ≤ walk.length, n ≤ budget - traj.probesUsed ∧
      after (probeAt probe) ((walk.take n).map (target, ·)) s = result.2 ∧
      ∀ p ∈ result.1.points,
        p ∈ traj.points ∨ KeptFrom probe s ((walk.take n).map (target, ·)) p := by
  induction walk generalizing traj tail s with
  | nil => exact ⟨0, le_rfl, Nat.zero_le _, rfl, fun p hp => .inl hp⟩
  | cons v walk ih =>
    unfold phaseBBins
    simp only
    split
    next => exact ⟨0, Nat.zero_le _, Nat.zero_le _, rfl, fun p hp => .inl hp⟩
    next hopen =>
      have hone : 1 ≤ budget - traj.probesUsed := by omega
      have hlength : 1 ≤ (v :: walk).length := by simp
      split
      next => exact ⟨1, hlength, hone, rfl, fun p hp => .inl hp⟩
      next hkept =>
        have hpush : ∀ p ∈ traj.points ++ [(probeToPoint target v (probe target v s).1,
            (probe target v s).1.confidence)], p ∈ traj.points ∨
            p = (probeToPoint target v (probe target v s).1,
              (probe target v s).1.confidence) := by
          intro p hp
          simpa using hp
        split
        next =>
          refine ⟨1, hlength, hone, rfl, fun p hp => ?_⟩
          rcases hpush p hp with hold | rfl
          · exact .inl hold
          · exact .inr (.head hkept)
        next =>
          obtain ⟨n, hn, hbudget, hexit, hpoints⟩ := ih
            { traj with
              probesUsed := traj.probesUsed + 1
              points := traj.points ++ [(probeToPoint target v (probe target v s).1,
                (probe target v s).1.confidence)] } _ (probe target v s).2
          refine ⟨n + 1, by simpa using hn, ?_, hexit, fun p hp => ?_⟩
          · simp only at hbudget
            omega
          · rcases hpoints p hp with hhere | hlater
            · rcases hpush p hhere with hold | rfl
              · exact .inl hold
              · exact .inr (.head hkept)
            · exact .inr hlater.cons

theorem descendPhaseB_drives (target budget startMv : Nat) (s : S) :
    let result := descendPhaseB probe target budget descent startMv s
    Drives probe descent [target] (min budget descent.binsDesc.length) s result.1.points
      result.2 := by
  unfold descendPhaseB
  simp only
  split
  next => exact Drives.nil.mono (fun _ h => h) (Nat.zero_le _) fun _ h => h
  next startBin _ =>
    obtain ⟨n, hn, hbudget, hexit, hpoints⟩ := phaseBBins_calls probe
      target budget (descent.binsDesc.filter (· ≤ startBin)) {} {} s
    have hlength : n ≤ descent.binsDesc.length := hn.trans (List.length_filter_le ..)
    refine drives_walk (fun v hv => List.mem_of_mem_filter hv)
      (le_min (by simpa using hbudget) hlength) hexit fun p hp => ?_
    rcases hpoints p hp with hnone | hkept
    · cases hnone
    · exact hkept

theorem mem_of_selectPhaseBTarget {candidates : List Nat} {plateauClock target : Nat}
    (h : selectPhaseBTarget candidates plateauClock = some target) : target ∈ candidates := by
  unfold selectPhaseBTarget at h
  rcases Option.or_eq_some_iff.mp h with hmin | ⟨-, hnear⟩
  · obtain ⟨hmem, -⟩ := List.min?_eq_some_iff.mp hmin
    exact List.mem_of_mem_filter hmem
  · exact minByKey_mem hnear

theorem phaseBRun_drives {policy : ForgePolicy} {clocks : List Nat} {phaseBBudget : Option Nat}
    {pairedA : Classified} {s : S} {run : PhaseBRun S}
    (h : phaseBRun probe descent carry policy clocks phaseBBudget pairedA s = some run) :
    ∃ budget, phaseBBudget = some budget ∧
      Drives probe descent clocks (min budget descent.binsDesc.length) s run.descent.1.points
        run.descent.2 := by
  unfold phaseBRun at h
  obtain ⟨budget, hbudget, h⟩ := Option.bind_eq_some_iff.mp h
  split at h
  next => cases h
  next =>
    obtain ⟨plateauClock, -, h⟩ := Option.bind_eq_some_iff.mp h
    obtain ⟨focusTarget, hfocus, h⟩ := Option.bind_eq_some_iff.mp h
    obtain ⟨startMv, -, rfl⟩ := Option.map_eq_some_iff.mp h
    refine ⟨budget, hbudget, (descendPhaseB_drives focusTarget budget startMv s).mono ?_ le_rfl
      fun _ h => h⟩
    intro c hc
    rw [List.mem_singleton.mp hc]
    exact mem_of_selectPhaseBTarget hfocus

end Build

end Nidavellir

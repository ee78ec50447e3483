import Mathlib.Order.Interval.Finset.Nat
import Nidavellir.ClockDiscovery

namespace Nidavellir

open Narrowing (Flow Narrows Shrinks)

theorem f2RecoveryMidpoint_eq_some {safe failed midpoint : Nat}
    (h : f2RecoveryMidpoint safe failed = some midpoint) : safe < midpoint ∧ midpoint < failed := by
  simp only [f2RecoveryMidpoint] at h
  split at h
  next hgap =>
    obtain rfl := Option.some.inj h
    omega
  next => cases h

theorem longestStride_bounds {candidates : List AnchoredPositiveOffsetPlan}
    {current : AnchoredPositiveOffsetPlan} {currentIndex stride next : Nat}
    {reference stepMax : Int}
    (h : longestStride candidates current currentIndex reference stepMax stride = some next) :
    currentIndex < next ∧ next < candidates.length := by
  induction stride with
  | zero => cases h
  | succ stride ih =>
    unfold longestStride at h
    split at h
    next => exact ih h
    next hget =>
      dsimp only at h
      split at h
      next =>
        obtain rfl := Option.some.inj h
        exact ⟨by omega, (List.getElem?_eq_some_iff.mp hget).1⟩
      next => exact ih h

theorem f2AdaptivePowerBoundNextIndex_bounds {candidates : List AnchoredPositiveOffsetPlan}
    {i target : Nat} {p5 : Option Nat} {reference stepMax : Int} (hi : i < candidates.length) :
    let next := f2AdaptivePowerBoundNextIndex candidates i target p5 reference stepMax
    i < next ∧ next ≤ candidates.length ∧ (i + 1 < next → next < candidates.length) := by
  intro next
  have hcases : (i < next ∧ next < candidates.length) ∨ next = i + 1 := by
    simp only [next, f2AdaptivePowerBoundNextIndex, List.getElem?_eq_getElem hi]
    cases hstride : longestStride candidates candidates[i] i reference stepMax _ with
    | none => exact .inr (by simp; omega)
    | some j => exact .inl (longestStride_bounds hstride)
  omega

/-- The cursor and the window `[lo, hi)` of the bins that the descent may still visit, in the
variables of the loop: index, jump origin, recovery bracket, known failure, sequential flag. -/
inductive CursorPhase (count : Nat) :
    Nat → Option Nat → Option (Nat × Nat) → Option Nat → Bool → Nat → Nat → Prop
  | descending {i seq} (h : i ≤ count) : CursorPhase count i none none none seq i count
  | jumped {i origin} (h : origin < i) (hi : i < count) :
      CursorPhase count i (some origin) none none false (origin + 1) count
  | recovering {i safe failed} (h : safe < i) (hi : i < failed) (hf : failed < count) :
      CursorPhase count i none (some (safe, failed)) none false (safe + 1) failed
  | returning {i failed} (h : i ≤ failed) (hf : failed < count) :
      CursorPhase count i none none (some failed) true i failed

def F2DescentState.Phase (count : Nat) (s : F2DescentState) : Nat → Nat → Prop :=
  CursorPhase count s.currentIndex s.jumpedFromIndex s.recoveryBracket s.knownFailedIndex
    s.localSequential

section Cursor

variable {count lo hi i m : Nat} {s s' : F2DescentState}

theorem CursorPhase.lo_le {j : Option Nat} {b : Option (Nat × Nat)} {k : Option Nat} {l : Bool}
    (h : CursorPhase count i j b k l lo hi) : lo ≤ i := by
  cases h <;> omega

theorem CursorPhase.lt_hi {j : Option Nat} {b : Option (Nat × Nat)} {k : Option Nat} {l : Bool}
    (h : CursorPhase count i j b k l lo hi) (hic : i < count) (hk : k ≠ some i) : i < hi := by
  cases h with
  | descending => exact hic
  | jumped => exact hic
  | recovering _ hif => exact hif
  | returning h =>
    exact lt_of_le_of_ne h fun heq => hk (congrArg some heq.symm)

/-- Without its jump origin the cursor keeps the part of the window from its index on. -/
theorem F2DescentState.Phase.clearJump (h : s.Phase count lo hi) :
    ∃ lo', lo ≤ lo' ∧ { s with jumpedFromIndex := none }.Phase count lo' hi := by
  obtain ⟨i, _, j, b, k, l⟩ := s
  cases h with
  | descending h => exact ⟨_, le_rfl, .descending h⟩
  | jumped h hi => exact ⟨_, h, .descending hi.le⟩
  | recovering h hi hf => exact ⟨_, le_rfl, .recovering h hi hf⟩
  | returning h hf => exact ⟨_, le_rfl, .returning h hf⟩

theorem F2DescentState.Phase.returnSequential (h : s.Phase count lo hi)
    (hj : s.jumpedFromIndex = none) : ∃ lo', s.returnSequential.Phase count lo' hi := by
  obtain ⟨i, _, j, b, k, l⟩ := s
  obtain rfl : j = none := hj
  cases h with
  | descending h => exact ⟨_, .descending h⟩
  | recovering h hi hf => exact ⟨_, .returning hi.le hf⟩
  | returning h hf => exact ⟨_, .returning h hf⟩

theorem CursorPhase.of_bracket {j k : Option Nat} {l : Bool} {safe failed : Nat}
    (h : CursorPhase count i j (some (safe, failed)) k l lo hi) :
    hi = failed ∧ failed < count ∧ k = none ∧ l = false := by
  cases h with
  | recovering _ _ hf => exact ⟨rfl, hf, rfl, rfl⟩

/-- A cursor with a safe index above itself has its window start right below that index. -/
theorem CursorPhase.of_safe {origin : Option Nat} {b : Option (Nat × Nat)} {k : Option Nat}
    {l : Bool} {safe : Nat} (h : CursorPhase count i origin b k l lo hi)
    (hs : (b.map Prod.fst).or origin = some safe) : lo = safe + 1 ∧ k = none ∧ l = false := by
  cases h <;> cases hs <;> exact ⟨rfl, rfl, rfl⟩

/-- Only a descent that is not yet sequential may jump. -/
theorem CursorPhase.advance {next : Nat} {k : Option Nat} {l : Bool}
    (h : CursorPhase count i none none k l lo hi) (hih : i < hi) (hnext : i < next)
    (hle : next ≤ count) (hjump : i + 1 < next → next < count ∧ l = false) :
    CursorPhase count next (if i + 1 < next then some i else none) none k l (i + 1) hi := by
  by_cases hlt : i + 1 < next
  · rw [if_pos hlt]
    obtain ⟨hnc, rfl⟩ := hjump hlt
    cases h with
    | descending => exact .jumped hnext hnc
  · obtain rfl : next = i + 1 := by omega
    rw [if_neg hlt]
    cases h with
    | descending => exact .descending hle
    | returning _ hf => exact .returning hih hf

/-- A bisection upwards leaves the window below the failed index. -/
theorem F2DescentState.recoverUpwards_phase {origin : Option Nat}
    (h : CursorPhase count i origin s.recoveryBracket s.knownFailedIndex s.localSequential lo hi)
    (hic : i < count)
    (hr : s.recoverUpwards ((s.recoveryBracket.map Prod.fst).or origin) i = (s', some m)) :
    { s' with currentIndex := m }.Phase count lo i := by
  unfold F2DescentState.recoverUpwards at hr
  split at hr
  next => cases hr
  next safe hfilter =>
    obtain ⟨hs, -⟩ := Option.filter_eq_some_iff.mp hfilter
    obtain ⟨rfl, hk, hl⟩ := h.of_safe hs
    obtain ⟨rfl, hm⟩ := Prod.mk.inj hr
    obtain ⟨hsm, hmi⟩ := f2RecoveryMidpoint_eq_some hm
    unfold F2DescentState.Phase
    simp only [hk, hl]
    exact .recovering hsm hmi hic

end Cursor

/-- A visit that rules out its own index and all deeper ones. -/
def F2Visit.failed (v : F2Visit) : Prop :=
  f2ResetCleanDiscoveryFailure v.decision v.report ∨ v.qualification = some .inconclusive ∨
    ∃ reason, v.qualification = some (.rejected reason)

namespace F2ClockDescent

variable {self : F2ClockDescent} {s s' : F2DescentState} {v : F2Visit} {lo hi : Nat}

theorem advance_phase (h : s.Phase self.candidates.length lo hi) (hj : s.jumpedFromIndex = none)
    (hb : s.recoveryBracket = none) (hv : s.currentIndex = v.index)
    (hic : v.index < self.candidates.length) (hih : v.index < hi) :
    (self.advance s v).Phase self.candidates.length (v.index + 1) hi := by
  unfold F2DescentState.Phase at h
  rw [hj, hb, hv] at h
  unfold F2DescentState.Phase advance
  simp only [hb]
  split
  next => exact h.advance hih (Nat.lt_succ_self _) hic fun hlt => absurd hlt (lt_irrefl _)
  next hl =>
    obtain ⟨hl, -⟩ := Bool.or_eq_false_iff.mp (Bool.eq_false_iff.mpr hl)
    obtain ⟨hlt, hle, hjump⟩ := f2AdaptivePowerBoundNextIndex_bounds hic
    exact h.advance hih hlt hle fun hlt => ⟨hjump hlt, hl⟩

theorem narrow_phase (h : s.Phase self.candidates.length lo hi)
    (hj : s.jumpedFromIndex = none) (hv : s.currentIndex = v.index)
    (hic : v.index < self.candidates.length) (hih : v.index < hi)
    (hd : self.narrow s v = .next s') :
    s'.Phase self.candidates.length (v.index + 1) hi := by
  unfold narrow at hd
  split at hd
  next safe failed hb =>
    unfold F2DescentState.Phase at h
    rw [hb] at h
    obtain ⟨rfl, hf, hk, hl⟩ := h.of_bracket
    rw [hl, Bool.not_false, if_pos rfl] at hd
    dsimp only at hd
    split at hd
    next midpoint hm =>
      obtain rfl := Flow.next.inj hd
      obtain ⟨hlt, hmf⟩ := f2RecoveryMidpoint_eq_some hm
      unfold F2DescentState.Phase
      simp only [hj, hk]
      exact .recovering hlt hmf hf
    next => cases hd
  next hb =>
    obtain rfl := Flow.next.inj hd
    exact advance_phase h hj hb hv hic hih

/-- A bin that is not refused leaves the window below itself. -/
theorem descend_phase (h : s.Phase self.candidates.length lo hi)
    (hj : s.jumpedFromIndex = none) (hv : s.currentIndex = v.index)
    (hic : v.index < self.candidates.length) (hih : v.index < hi)
    (hd : self.descend s v = .next s') :
    s'.Phase self.candidates.length (v.index + 1) hi := by
  unfold descend at hd
  split at hd
  next =>
    obtain ⟨lo', h'⟩ := h.returnSequential hj
    exact narrow_phase h' hj hv hic hih hd
  next => exact narrow_phase h hj hv hic hih hd

/-- A refused qualification leaves the window below its index. -/
theorem refuseQualified_phase {origin : Option Nat} {outcome : F2QualificationOutcome}
    {stopReason : F2StopReason}
    (h : CursorPhase self.candidates.length v.index origin s.recoveryBracket s.knownFailedIndex
      s.localSequential lo hi)
    (hic : v.index < self.candidates.length)
    (hr : self.refuseQualified s v origin outcome stopReason = .next s') :
    s'.Phase self.candidates.length lo v.index := by
  unfold refuseQualified at hr
  dsimp only at hr
  split at hr
  next => cases hr
  next =>
    split at hr
    next midpoint hm =>
      obtain rfl := Flow.next.inj hr
      exact F2DescentState.recoverUpwards_phase h hic (Prod.ext rfl hm)
    next => cases hr

theorem onQualification_phase {origin : Option Nat} {lo' : Nat}
    (horigin : CursorPhase self.candidates.length v.index origin s.recoveryBracket
      s.knownFailedIndex s.localSequential lo hi)
    (h : s.Phase self.candidates.length lo' hi) (hj : s.jumpedFromIndex = none)
    (hv : s.currentIndex = v.index) (hic : v.index < self.candidates.length)
    (hih : v.index < hi) (hq : self.onQualification s v origin = .next s') :
    s'.Phase self.candidates.length lo v.index ∨
      v.qualification = some .qualified ∧
        s'.Phase self.candidates.length (v.index + 1) hi := by
  unfold onQualification at hq
  split at hq
  next => cases hq
  next hqual =>
    obtain ⟨lo'', h'⟩ : ∃ lo'', (s.qualifiedAt v.index).Phase self.candidates.length lo'' hi :=
      h.returnSequential hj
    exact .inr ⟨hqual, descend_phase h' hj hv hic hih hq⟩
  next => exact .inl (refuseQualified_phase horigin hic hq)
  next => cases hq
  next => exact .inl (refuseQualified_phase horigin hic hq)
  next => cases hq
  next => cases hq

theorem onDecision_phase {origin : Option Nat} {lo' : Nat}
    (horigin : CursorPhase self.candidates.length v.index origin s.recoveryBracket
      s.knownFailedIndex s.localSequential lo hi)
    (h : s.Phase self.candidates.length lo' hi) (hj : s.jumpedFromIndex = none)
    (hv : s.currentIndex = v.index) (hic : v.index < self.candidates.length)
    (hih : v.index < hi) (hd : self.onDecision s v origin = .next s') :
    s'.Phase self.candidates.length lo v.index ∨
      (v.qualification = some .qualified ∨ f2ShouldQualifyDiscoveryCandidate v.report.outcome
        v.nearCap self.qualificationPasses = false) ∧
        s'.Phase self.candidates.length (v.index + 1) hi := by
  unfold onDecision at hd
  split at hd
  case h_1 | h_2 =>
    split at hd
    next =>
      rcases onQualification_phase horigin h hj hv hic hih hd with h | ⟨hqual, h⟩
      · exact .inl h
      · exact .inr ⟨.inl hqual, h⟩
    next hq => exact .inr ⟨.inr (Bool.eq_false_iff.mpr hq), descend_phase h hj hv hic hih hd⟩
  all_goals cases hd

theorem onDecision_stops {origin : Option Nat} (h : v.decision.failure) :
    self.onDecision s v origin ≠ .next s' := by
  intro hd
  unfold onDecision at hd
  split at hd
  case h_1 hdec | h_2 hdec => simp [hdec, F2DiscoveryDecision.failure] at h
  all_goals cases hd

/-- One visit leaves the window below its index, or, where it did not fail, the one above. -/
theorem recede_phase (h : s.Phase self.candidates.length lo hi) (hv : s.currentIndex = v.index)
    (hic : v.index < self.candidates.length) (hih : v.index < hi)
    (hq : v.qualification.isSome → f2ShouldQualifyDiscoveryCandidate v.report.outcome v.nearCap
      self.qualificationPasses)
    (hd : self.recede s v = .next s') :
    s'.Phase self.candidates.length lo v.index ∨
      ¬ v.failed ∧ s'.Phase self.candidates.length (v.index + 1) hi := by
  have horigin := h
  unfold F2DescentState.Phase at horigin
  rw [hv] at horigin
  unfold recede at hd
  dsimp only at hd
  split at hd
  next hfail =>
    split at hd
    next s₁ midpoint hr =>
      obtain rfl := Flow.next.inj hd
      exact .inl (F2DescentState.recoverUpwards_phase horigin hic hr)
    next =>
      have hdec : v.decision.failure := (Bool.and_eq_true_iff.mp hfail).2
      exact absurd hd (onDecision_stops hdec)
  next hfail =>
    obtain ⟨lo', -, h'⟩ := h.clearJump
    rcases onDecision_phase (s := { s with jumpedFromIndex := none }) horigin h' rfl hv hic hih hd
      with h | ⟨hqual, h⟩
    · exact .inl h
    · refine .inr ⟨?_, h⟩
      rintro (hf | hf | ⟨reason, hf⟩)
      · exact hfail hf
      · rw [hf] at hqual hq
        simp [hq] at hqual
      · rw [hf] at hqual hq
        simp [hq] at hqual

theorem visit_shouldQualify {answer : F2CandidateAnswer}
    (habort : (self.visit s answer).abortReason = none)
    (hq : (self.visit s answer).qualification.isSome) :
    f2ShouldQualifyDiscoveryCandidate (self.visit s answer).report.outcome
      (self.visit s answer).nearCap self.qualificationPasses := by
  unfold visit at habort hq ⊢
  dsimp only at habort hq ⊢
  split at habort
  next hclean =>
    simp only [hclean, if_true] at hq ⊢
    split at hq
    next hs => exact (Bool.and_eq_true_iff.mp hs).2
    next => cases hq
  next => cases habort

theorem visit_index {answer : F2CandidateAnswer} :
    (self.visit s answer).index = s.currentIndex := by
  unfold visit
  dsimp only
  split <;> rfl

theorem settle_next {answer : F2CandidateAnswer}
    (h : self.settle s answer v = .next s') :
    v.abortReason = none ∧ ∃ count, answer.persisted = .ok count ∧
      self.schedule { s with executedSteps := s.executedSteps + count } v = .next s' := by
  unfold settle at h
  split at h
  next => cases h
  next count hp =>
    dsimp only at h
    split at h
    next => cases h
    next ha => exact ⟨ha, count, hp, h⟩

theorem refuse_none {candidate : AnchoredPositiveOffsetPlan} {answer : F2CandidateAnswer}
    (h : self.refuse s candidate answer = none) : s.knownFailedIndex ≠ some s.currentIndex := by
  intro hk
  rw [refuse, if_pos hk] at h
  cases h

theorem settle_shrinks {answer : F2CandidateAnswer} (h : s.Phase self.candidates.length lo hi)
    (hv : s.currentIndex = v.index) (hic : v.index < self.candidates.length)
    (hih : v.index < hi)
    (hq : v.abortReason = none → v.qualification.isSome → f2ShouldQualifyDiscoveryCandidate
      v.report.outcome v.nearCap self.qualificationPasses) :
    Shrinks F2Visit.index F2Visit.failed (F2DescentState.Phase self.candidates.length) lo hi
      (some v, self.settle s answer v) := by
  have hlo : lo ≤ v.index := hv ▸ h.lo_le
  cases hsettle : self.settle s answer v with
  | stop => exact .last hlo hih
  | next s' =>
    obtain ⟨habort, count, -, hsched⟩ := settle_next hsettle
    have hphase : (self.learn { s with executedSteps := s.executedSteps + count } v).Phase
        self.candidates.length lo hi := h
    rcases recede_phase hphase hv hic hih (hq habort) hsched with hs | ⟨hfail, hs⟩
    · exact .next hlo hih le_rfl hih.le (.inr le_rfl) (fun _ => le_rfl) hs
    · have hlo' : lo ≤ v.index + 1 := by omega
      have hcap : v.failed → hi ≤ v.index := fun hf => absurd hf hfail
      exact .next hlo hih hlo' le_rfl (.inl (Nat.lt_succ_self _)) hcap hs

theorem iteration_shrinks {answer : F2CandidateAnswer}
    (h : s.Phase self.candidates.length lo hi) :
    Shrinks F2Visit.index F2Visit.failed (F2DescentState.Phase self.candidates.length) lo hi
      (self.iteration s answer) := by
  unfold iteration
  split
  next => exact .refuse
  next candidate hc =>
    obtain ⟨hic, -⟩ := List.getElem?_eq_some_iff.mp hc
    split
    next => exact .refuse
    next hrefuse =>
      refine settle_shrinks h visit_index.symm ?_ ?_ visit_shouldQualify
      · rw [visit_index]
        exact hic
      · rw [visit_index]
        exact h.lt_hi hic (refuse_none hrefuse)

end F2ClockDescent

/-- The state in which the loop starts. -/
def F2DescentState.start (referenceOffsetMhz : Int) (hadSustainable completed : Bool)
    (stopReason : F2StopReason) : F2DescentState where
  referenceOffsetMhz := referenceOffsetMhz
  hadSustainable := hadSustainable
  completed := completed
  stopReason := stopReason

/-- Whatever the candidates answer, the discovery loop stops after at most one iteration more than
there are candidates, visits each candidate at most once, and after a failed visit only visits
shallower ones. -/
theorem clockDiscovery_schedule (self : F2ClockDescent) (answers : Nat → F2CandidateAnswer)
    (referenceOffsetMhz : Int) (hadSustainable completed : Bool) (stopReason : F2StopReason) :
    let count := self.candidates.length
    let start := F2DescentState.start referenceOffsetMhz hadSustainable completed stopReason
    let visits := (self.run (count + 1) answers start).1
    (∃ s, (self.run (count + 1) answers start).2 = .stop s) ∧
      (∀ n, self.run (count + 1 + n) answers start = self.run (count + 1) answers start) ∧
      (∀ v ∈ visits, v.index < count) ∧ (visits.map F2Visit.index).Nodup ∧
      visits.Pairwise fun v v' => v.failed → v'.index < v.index := by
  intro count start visits
  have hstart : start.Phase count 0 count := .descending (Nat.zero_le _)
  have hbody : ∀ s answer lo hi, F2DescentState.Phase count s lo hi →
      decide (s.currentIndex < count) → Shrinks F2Visit.index F2Visit.failed
        (F2DescentState.Phase count) lo hi (self.iteration s answer) :=
    fun s answer lo hi h _ => F2ClockDescent.iteration_shrinks h
  have hnarrow : Narrows F2Visit.index F2Visit.failed 0 count visits :=
    Narrowing.loop_narrows hbody hstart
  obtain ⟨s, hstop⟩ : ∃ s, (self.run (count + 1) answers start).2 = .stop s :=
    Narrowing.loop_stops hbody hstart (by simp)
  refine ⟨⟨s, hstop⟩, fun n => Narrowing.loop_add hstop n, ?_, hnarrow.nodup, hnarrow.pairwise_lt⟩
  exact fun v hv => (hnarrow.mem_window hv).2

end Nidavellir

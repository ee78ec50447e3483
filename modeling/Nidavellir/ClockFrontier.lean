import Nidavellir.ClockLoop

namespace Nidavellir

open Narrowing (Flow traverse traverse_ends)
open ClockLoopOps

def ClockAttempt.Finished (self : ClockAttempt) : Prop :=
  self.summary.completed = true ∧ self.summary.aborted = false

/-- The first target that was sustained. -/
def firstSustained (attempts : List ClockAttempt) : Option Nat :=
  (attempts.find? fun attempt => attempt.summary.sustainable).map ClockAttempt.targetMhz

/-- The frontier of `targets` under the Cmax `max` is known. -/
structure ClockLoopState.FrontierComplete (s : ClockLoopState) (targets : List Nat)
    (max : Nat) : Prop where
  cmax : s.cmax = some max
  sustained : ∃ attempt ∈ s.attempts, attempt.targetMhz = max ∧ attempt.summary.sustainable
  above : ∀ target ∈ targets, max < target → ∃ attempt ∈ s.attempts,
    attempt.targetMhz = target ∧ attempt.summary.completed ∧ ¬attempt.summary.sustainable
  within : ∀ target ∈ targets, f2ClockWithinCmaxFloor target max → ∃ attempt ∈ s.attempts,
    attempt.targetMhz = target ∧ attempt.Finished
  floor : ∀ attempt ∈ s.attempts, f2ClockWithinCmaxFloor attempt.targetMhz max

/-- A stop, an aborted or an incomplete target ended the loop. -/
def ClockLoopState.EndedEarly (self : ClockLoopState) : Prop :=
  self.ended ∈ [some .stopped, some .aborted, some .incomplete] ∨
    ∃ attempt ∈ self.attempts, ¬attempt.Finished

/-- The loop over the targets after those in `done`. -/
structure ClockLoopState.Ongoing (s : ClockLoopState) (targets done : List Nat) : Prop where
  attempted : s.attempts.map ClockAttempt.targetMhz = done
  starts : ∀ attempt ∈ s.attempts, attempt.startsMv.length ≤ f2StartRecoveryMaxClimbs + 2
  finished : ∀ attempt ∈ s.attempts, attempt.Finished
  cmax : s.cmax = firstSustained s.attempts
  floor : ∀ max ∈ s.cmax, ∀ target ∈ done, f2ClockWithinCmaxFloor target max
  running : s.ended = none
  complete : s.forgeComplete → done = targets ∧ s.cmax.isSome

/-- What the loop leaves, whatever ended it. -/
structure ClockLoopState.Settled (s : ClockLoopState) (targets : List Nat) : Prop where
  attempted : s.attempts.map ClockAttempt.targetMhz <+: targets
  starts : ∀ attempt ∈ s.attempts, attempt.startsMv.length ≤ f2StartRecoveryMaxClimbs + 2
  complete : s.forgeComplete → ∃ max, s.FrontierComplete targets max
  early : s.EndedEarly → s.forgeComplete = false

theorem firstSustained_append (attempts : List ClockAttempt) (attempt : ClockAttempt) :
    firstSustained (attempts ++ [attempt]) =
      (firstSustained attempts).or
        (if attempt.summary.sustainable then some attempt.targetMhz else none) := by
  unfold firstSustained
  rw [List.find?_append, Option.map_or, List.find?_singleton]
  split <;> rfl

theorem firstSustained_eq_some {attempts : List ClockAttempt} {max : Nat}
    (h : firstSustained attempts = some max) :
    ∃ before first after, attempts = before ++ first :: after ∧ first.targetMhz = max ∧
      first.summary.sustainable ∧ ∀ attempt ∈ before, ¬attempt.summary.sustainable := by
  obtain ⟨first, hfind, hmax⟩ := Option.map_eq_some_iff.mp h
  obtain ⟨hfirst, before, after, hsplit, hbefore⟩ := List.find?_eq_some_iff_append.mp hfind
  refine ⟨before, first, after, hsplit, hmax, hfirst, ?_⟩
  intro attempt hattempt
  simpa using hbefore attempt hattempt

section Frontier

variable {targets done rest : List Nat} {s : ClockLoopState} {max : Nat}

/-- Where the targets that are left lie below the floor, the frontier is known. -/
theorem ClockLoopState.Ongoing.frontierComplete (hdesc : targets.Pairwise (· > ·))
    (h : s.Ongoing targets done) (hsplit : targets = done ++ rest) (hmax : s.cmax = some max)
    (hrest : ∀ target ∈ rest, ¬f2ClockWithinCmaxFloor target max) :
    s.FrontierComplete targets max := by
  obtain ⟨before, first, after, hattempts, hfirst, hsustained, hbefore⟩ :=
    firstSustained_eq_some (h.cmax.symm.trans hmax)
  have hwithin : ∀ target ∈ targets, f2ClockWithinCmaxFloor target max →
      ∃ attempt ∈ s.attempts, attempt.targetMhz = target := by
    intro target htarget hfloor
    rw [hsplit] at htarget
    rcases List.mem_append.mp htarget with hdone | hleft
    · rw [← h.attempted] at hdone
      exact List.mem_map.mp hdone
    · exact absurd hfloor (hrest target hleft)
  refine ⟨hmax, ⟨first, by simp [hattempts], hfirst, hsustained⟩, ?_, ?_, ?_⟩
  · intro target htarget hlt
    have hfloor : f2ClockWithinCmaxFloor target max := by
      simp only [f2ClockWithinCmaxFloor, decide_eq_true_eq]
      omega
    obtain ⟨attempt, hmem, htarget'⟩ := hwithin target htarget hfloor
    refine ⟨attempt, hmem, htarget', (h.finished attempt hmem).1, ?_⟩
    -- the targets that were tried after Cmax lie below it
    have hlater : ∀ attempt ∈ after, attempt.targetMhz < first.targetMhz := by
      have hdone : (s.attempts.map ClockAttempt.targetMhz).Pairwise (· > ·) := by
        rw [h.attempted]
        exact hdesc.sublist (hsplit ▸ List.sublist_append_left done rest)
      rw [hattempts, List.map_append, List.map_cons] at hdone
      have htail := (List.pairwise_append.mp hdone).2.1
      intro attempt hattempt
      exact (List.pairwise_cons.mp htail).1 _ (List.mem_map_of_mem hattempt)
    rw [hattempts] at hmem
    rcases List.mem_append.mp hmem with hmem | hmem
    · exact hbefore attempt hmem
    · rcases List.mem_cons.mp hmem with rfl | hmem
      · omega
      · have hbelow := hlater attempt hmem
        omega
  · intro target htarget hfloor
    obtain ⟨attempt, hmem, htarget'⟩ := hwithin target htarget hfloor
    exact ⟨attempt, hmem, htarget', h.finished attempt hmem⟩
  · intro attempt hattempt
    exact h.floor max hmax _ (h.attempted ▸ List.mem_map_of_mem hattempt)

theorem ClockLoopState.Ongoing.not_endedEarly (h : s.Ongoing targets done) : ¬s.EndedEarly := by
  rintro (hended | ⟨attempt, hattempt, hunfinished⟩)
  · rw [h.running] at hended
    simp at hended
  · exact hunfinished (h.finished attempt hattempt)

theorem ClockLoopState.Ongoing.settled (hdesc : targets.Pairwise (· > ·))
    (h : s.Ongoing targets targets) : s.Settled targets where
  attempted := h.attempted ▸ List.prefix_refl targets
  starts := h.starts
  complete := by
    intro hcomplete
    obtain ⟨max, hmax⟩ := Option.isSome_iff_exists.mp (h.complete hcomplete).2
    exact ⟨max, h.frontierComplete hdesc (List.append_nil targets).symm hmax (by simp)⟩
  early := fun hearly => absurd hearly h.not_endedEarly

theorem ClockLoopState.Ongoing.forgeComplete_eq_false {target : Nat}
    (hsplit : targets = done ++ target :: rest) (h : s.Ongoing targets done) :
    s.forgeComplete = false := by
  rw [Bool.eq_false_iff]
  intro hcomplete
  have hall : done.length = targets.length := congrArg List.length (h.complete hcomplete).1
  rw [hsplit, List.length_append, List.length_cons] at hall
  omega

/-- A loop that ended early, after trying the next target or before. -/
theorem ClockLoopState.settled_of_incomplete {tried : List Nat}
    (hcomplete : s.forgeComplete = false)
    (hattempted : s.attempts.map ClockAttempt.targetMhz = tried) (hbegin : tried <+: targets)
    (hstarts : ∀ attempt ∈ s.attempts,
      attempt.startsMv.length ≤ f2StartRecoveryMaxClimbs + 2) : s.Settled targets where
  attempted := hattempted ▸ hbegin
  starts := hstarts
  complete := by simp [hcomplete]
  early := fun _ => hcomplete

/-- The next target lies below the floor. -/
theorem ClockLoopState.Ongoing.settled_belowFloor (hdesc : targets.Pairwise (· > ·))
    {target : Nat} (hsplit : targets = done ++ target :: rest) (h : s.Ongoing targets done)
    (hmax : s.cmax = some max) (hbelow : ¬f2ClockWithinCmaxFloor target max) :
    ClockLoopState.Settled { s with forgeComplete := true, ended := some .belowFloor } targets := by
  have hlast : ∀ target' ∈ target :: rest, ¬f2ClockWithinCmaxFloor target' max := by
    rw [hsplit] at hdesc
    have hrest := List.pairwise_cons.mp (List.pairwise_append.mp hdesc).2.1
    simp only [f2ClockWithinCmaxFloor, decide_eq_true_eq] at hbelow ⊢
    intro target' htarget'
    rcases List.mem_cons.mp htarget' with rfl | htarget'
    · exact hbelow
    · have hlt := hrest.1 target' htarget'
      omega
  have hknown := h.frontierComplete hdesc hsplit hmax hlast
  refine ⟨?_, h.starts, ?_, ?_⟩
  · exact h.attempted ▸ hsplit ▸ List.prefix_append done _
  · exact fun _ => ⟨max, hknown.cmax, hknown.sustained, hknown.above, hknown.within, hknown.floor⟩
  · rintro (hended | ⟨attempt, hattempt, hunfinished⟩)
    · simp at hended
    · exact absurd (h.finished attempt hattempt) hunfinished

end Frontier

section Loop

variable {W : Type*} [ClockLoopOps W] {curve : List VfBin} {limits : Word.Limits}
  {targets done rest : List Nat} {targetMhz : Nat} {s : ClockLoopState} {w : W}
  {attempt : ClockAttempt}

/-- The variables after the summary of a target was read. -/
def ClockLoopState.tried (s : ClockLoopState) (attempt : ClockAttempt) : ClockLoopState :=
  { s with
    attempts := s.attempts ++ [attempt]
    nextClockStartMv := attempt.summary.nextClockStartMv
    conservativeStartMv := attempt.summary.conservativeStartMv }

theorem ClockLoopState.tried_completed_cmax :
    ((s.tried attempt).completed attempt.targetMhz rest attempt.summary).cmax =
      s.cmax.or (if attempt.summary.sustainable then some attempt.targetMhz else none) := by
  unfold ClockLoopState.completed ClockLoopState.tried
  cases s.cmax <;> cases attempt.summary.sustainable <;> rfl

theorem ClockLoopState.Ongoing.tried_attempted (h : s.Ongoing targets done)
    (htarget : attempt.targetMhz = targetMhz) :
    (s.tried attempt).attempts.map ClockAttempt.targetMhz = done ++ [targetMhz] := by
  rw [← htarget, ← h.attempted]
  exact List.map_append

theorem ClockLoopState.Ongoing.tried_starts (h : s.Ongoing targets done)
    (hstarts : attempt.startsMv.length ≤ f2StartRecoveryMaxClimbs + 2) :
    ∀ tried ∈ (s.tried attempt).attempts,
      tried.startsMv.length ≤ f2StartRecoveryMaxClimbs + 2 := by
  intro tried htried
  rcases List.mem_append.mp htried with htried | htried
  · exact h.starts tried htried
  · rw [List.mem_singleton.mp htried]
    exact hstarts

theorem ClockLoopState.Ongoing.completed (hdesc : targets.Pairwise (· > ·))
    (hsplit : targets = done ++ targetMhz :: rest) (h : s.Ongoing targets done)
    (htarget : attempt.targetMhz = targetMhz)
    (hstarts : attempt.startsMv.length ≤ f2StartRecoveryMaxClimbs + 2)
    (hfinished : attempt.Finished)
    (hfloor : ∀ max ∈ s.cmax, f2ClockWithinCmaxFloor targetMhz max) :
    ((s.tried attempt).completed targetMhz rest attempt.summary).Ongoing targets
      (done ++ [targetMhz]) := by
  have hcomplete : s.forgeComplete = false := h.forgeComplete_eq_false hsplit
  refine ⟨h.tried_attempted htarget, h.tried_starts hstarts, ?_, ?_, ?_, h.running, ?_⟩
  · intro tried htried
    rcases List.mem_append.mp htried with htried | htried
    · exact h.finished tried htried
    · rw [List.mem_singleton.mp htried]
      exact hfinished
  · subst htarget
    rw [ClockLoopState.tried_completed_cmax, h.cmax]
    exact (firstSustained_append s.attempts attempt).symm
  · subst htarget
    intro max hmax target hmem
    rw [ClockLoopState.tried_completed_cmax] at hmax
    cases hcmax : s.cmax with
    | some max' =>
      obtain rfl : max' = max := by simpa [hcmax] using hmax
      rcases List.mem_append.mp hmem with hmem | hmem
      · exact h.floor max' hcmax target hmem
      · rw [List.mem_singleton.mp hmem]
        exact hfloor max' hcmax
    | none =>
      -- Cmax is the target itself, and those before it lie above it
      have hmax : attempt.targetMhz = max := by
        rw [hcmax, Option.none_or] at hmax
        split at hmax
        next => exact Option.some.inj hmax
        next => cases hmax
      have hle : max ≤ target := by
        rw [hsplit] at hdesc
        rcases List.mem_append.mp hmem with hmem | hmem
        · exact hmax ▸ ((List.pairwise_append.mp hdesc).2.2 target hmem _ List.mem_cons_self).le
        · exact (hmax.symm.trans (List.mem_singleton.mp hmem).symm).le
      simp only [f2ClockWithinCmaxFloor, decide_eq_true_eq]
      omega
  · intro hknown
    have hlast : (rest.isEmpty && (s.tried attempt |>.completed targetMhz rest
        attempt.summary).cmax.isSome) = true := by
      simpa [ClockLoopState.completed, ClockLoopState.tried, hcomplete] using hknown
    obtain ⟨hrest, hsome⟩ := Bool.and_eq_true_iff.mp hlast
    rw [List.isEmpty_iff] at hrest
    exact ⟨hrest ▸ hsplit.symm, hsome⟩

theorem clockIteration_ends (hdesc : targets.Pairwise (· > ·))
    (hsplit : targets = done ++ targetMhz :: rest) (h : s.Ongoing targets done) :
    (clockIteration curve limits targetMhz rest (s, w)).Ends
      (fun r => r.1.Ongoing targets (done ++ [targetMhz])) (fun r => r.1.Settled targets) := by
  have hcomplete : s.forgeComplete = false := h.forgeComplete_eq_false hsplit
  have hbegin : done ++ [targetMhz] <+: targets := ⟨rest, by simp [hsplit]⟩
  rw [clockIteration]
  split
  next hbelow =>
    obtain ⟨max, hmax, hbelow⟩ := (Option.any_eq_true _ _).mp hbelow
    exact .stop (h.settled_belowFloor hdesc hsplit hmax (by simpa using hbelow))
  next hwithin =>
    have hfloor : ∀ max ∈ s.cmax, f2ClockWithinCmaxFloor targetMhz max := by
      intro max hmax
      have hfalse := (Option.any_eq_false _ _).mp (Bool.eq_false_iff.mpr hwithin) max hmax
      simpa using hfalse
    dsimp only
    split
    next =>
      exact .stop (ClockLoopState.settled_of_incomplete hcomplete h.attempted
        (hsplit ▸ List.prefix_append done _) h.starts)
    next =>
      generalize hattempt :
        attemptClock curve targetMhz _ s.conservativeStartMv (_ : W) = tried
      have htarget : tried.1.targetMhz = targetMhz := by
        rw [← hattempt, attemptClock_targetMhz]
      have hstarts : tried.1.startsMv.length ≤ f2StartRecoveryMaxClimbs + 2 := by
        rw [← hattempt]
        exact attemptClock_length_le
      split
      next =>
        exact .stop (ClockLoopState.settled_of_incomplete hcomplete (h.tried_attempted htarget)
          hbegin (h.tried_starts hstarts))
      next haborted =>
        split
        next =>
          exact .stop (ClockLoopState.settled_of_incomplete hcomplete (h.tried_attempted htarget)
            hbegin (h.tried_starts hstarts))
        next hcompleted =>
          have hfinished : tried.1.Finished := by
            simpa [ClockAttempt.Finished] using And.intro hcompleted haborted
          exact .next (h.completed hdesc hsplit htarget hstarts hfinished hfloor)

theorem clockLoop_settled (hdesc : targets.Pairwise (· > ·)) :
    (clockLoop curve limits targets w).1.Settled targets := by
  have hstart : ClockLoopState.Ongoing {} targets [] :=
    ⟨rfl, by simp, by simp, rfl, by simp, rfl, by simp⟩
  have hends := @traverse_ends _ _ (clockIteration curve limits)
    (fun done r => r.1.Ongoing targets done) (fun r => r.1.Settled targets)
    targets [] targets ({}, w) rfl hstart
    (fun _ _ _ _ hsplit h => clockIteration_ends hdesc hsplit h)
  unfold clockLoop
  generalize traverse (clockIteration curve limits) targets ({}, w) = flow at hends
  cases hends with
  | next h => exact h.settled hdesc
  | stop h => exact h

theorem ClockLoopState.Settled.nodup (hdesc : targets.Pairwise (· > ·)) (h : s.Settled targets) :
    (s.attempts.map ClockAttempt.targetMhz).Nodup := by
  have hsorted : (s.attempts.map ClockAttempt.targetMhz).Pairwise (· > ·) :=
    hdesc.sublist h.attempted.sublist
  exact hsorted.imp fun h => h.ne'

/-- However the targets answer and whenever a stop is asked for: the loop tries each target of a
prefix of the list once, within six searches, it is complete only where the frontier is known down
to the floor, and one that ended early leaves nothing to synthesize from. -/
theorem clock_frontier_complete (curve : List VfBin) (limits : Word.Limits)
    (hdesc : targets.Pairwise (· > ·)) (w : W) :
    ((clockLoop curve limits targets w).1.Settled targets ∧
      ((clockLoop curve limits targets w).1.attempts.map ClockAttempt.targetMhz).Nodup) ∧
    (∀ max, (clockLoop curve limits targets w).1.synthesisCmax = some max →
      (clockLoop curve limits targets w).1.FrontierComplete targets max) ∧
    ((clockLoop curve limits targets w).1.EndedEarly →
      (clockLoop curve limits targets w).1.synthesisCmax = none) := by
  have hsettled : (clockLoop curve limits targets w).1.Settled targets := clockLoop_settled hdesc
  generalize (clockLoop curve limits targets w).1 = s at hsettled
  refine ⟨⟨hsettled, hsettled.nodup hdesc⟩, ?_, ?_⟩
  · intro max hmax
    unfold ClockLoopState.synthesisCmax at hmax
    split at hmax
    next hguard =>
      obtain ⟨max', hfrontier⟩ := hsettled.complete (Bool.and_eq_true_iff.mp hguard).1
      obtain rfl : max' = max := Option.some.inj (hfrontier.cmax.symm.trans hmax)
      exact hfrontier
    next => cases hmax
  · intro hearly
    simp [ClockLoopState.synthesisCmax, hsettled.early hearly]

end Loop

/-- Summaries that are given out one after the other. -/
structure ClockScript where
  summaries : List F2ClockDiscoverySummary

instance : ClockLoopOps ClockScript where
  stopRequested w := (false, w)
  historicalBoundary _ w := (none, w)
  discover _ _ w := (w.summaries.head?.getD F2ClockCall.refused, ⟨w.summaries.tail⟩)

/-- A clock that drops, one that the fallback sustains, and one below the floor. -/
def droppedThenSustained : ClockScript where
  summaries :=
    [{ F2ClockCall.refused with
        completed := true, aborted := false, nextClockStartMv := some 900,
        conservativeStartMv := some 950 },
      { F2ClockCall.refused with completed := true, aborted := false, warmStartRejected := true },
      { F2ClockCall.refused with
        completed := true, aborted := false, sustainable := true, lastGoodMv := some 925 }]

theorem clock_frontier_complete_two :
    (clockLoop [] ⟨0, 0, 0, 0⟩ [2000, 1900, 1700] droppedThenSustained).1.FrontierComplete
      [2000, 1900, 1700] 1900 :=
  (clock_frontier_complete [] ⟨0, 0, 0, 0⟩ (by decide) droppedThenSustained).2.1 1900
    (by decide +kernel)

end Nidavellir

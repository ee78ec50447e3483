import Nidavellir.OpenPairs

namespace Nidavellir

open Runs

/-- The Apply pairs of the profiles. -/
def ForgeProfiles.pairs (profiles : ForgeProfiles) : List ApplyPair :=
  profiles.all.filterMap fun point => point.bind f2ApplyKey

/-- A lower clock has a lower voltage. -/
def GradedPairs (pairs : List ApplyPair) : Prop :=
  ∀ pair ∈ pairs, ∀ other ∈ pairs, pair.1 < other.1 → pair.2 < other.2

instance (pairs : List ApplyPair) : Decidable (GradedPairs pairs) :=
  inferInstanceAs (Decidable (∀ pair ∈ pairs, _))

theorem GradedPairs.subset {pairs pairs' : List ApplyPair} (h : GradedPairs pairs)
    (hsub : pairs' ⊆ pairs) : GradedPairs pairs' :=
  fun pair hpair other hother => h pair (hsub hpair) other (hsub hother)

/-- A pair may join graded ones, if it lies between the lower and the higher clocks. -/
theorem GradedPairs.insert {pairs pairs' : List ApplyPair} (h : GradedPairs pairs)
    (new : ApplyPair) (hsub : ∀ pair ∈ pairs', pair ∈ pairs ∨ pair = new)
    (habove : ∀ other ∈ pairs', new.1 < other.1 → new.2 < other.2)
    (hbelow : ∀ other ∈ pairs', other.1 < new.1 → other.2 < new.2) : GradedPairs pairs' := by
  intro pair hpair other hother hlt
  rcases hsub pair hpair with hold | rfl
  · rcases hsub other hother with hold' | rfl
    · exact h pair hold other hold' hlt
    · exact hbelow pair hpair hlt
  · exact habove other hother hlt

namespace ApplyLoop

variable (run : ForgeRun) (s : ApplyLoop) (answers : ApplyAnswers)

/-- Where a repair leads keeps the order: the new bin of the clock is below every open pair of a
higher clock, and a voltage that drops to a lower clock is below the other open bins of its own. -/
def LeadsInOrder (key : ApplyPair) (role : F2ProfileRole) :
    Except RepairLimit (Nat × Option ℚ) → Prop
  | .ok (nextMv, _) => ∀ other ∈ s.openPairs, key.1 < other.1 → nextMv < other.2
  | .error _ => role = .godforge →
    ∀ other ∈ s.openPairs, other.1 = key.1 → other ≠ key → key.2 < other.2

/-- The step does not fail a pair, or what it repairs it with keeps the order. -/
def RepairsInOrder : Prop :=
  ∀ key ∈ s.gatesNext run, ∀ profiles ∈ s.passProfiles,
    (s.gatePasses key answers).summary.qualified = true ∨
      s.LeadsInOrder key (f2ProfileRole profiles key) (s.repairPlan run answers profiles key)

local instance : LawfulBEq ApplyPair := inferInstanceAs (LawfulBEq (Nat × Nat))

instance (key : ApplyPair) (role : F2ProfileRole)
    (plan : Except RepairLimit (Nat × Option ℚ)) : Decidable (s.LeadsInOrder key role plan) :=
  match plan with
  | .ok (nextMv, _) =>
    inferInstanceAs (Decidable (∀ other ∈ s.openPairs, key.1 < other.1 → nextMv < other.2))
  | .error _ => inferInstanceAs (Decidable (role = .godforge →
    ∀ other ∈ s.openPairs, other.1 = key.1 → other ≠ key → key.2 < other.2))

instance : Decidable (s.RepairsInOrder run answers) :=
  inferInstanceAs (Decidable (∀ key ∈ s.gatesNext run, _))

variable {run : ForgeRun} {s : ApplyLoop} {answers : ApplyAnswers}

/-- One step whose repairs keep the order keeps the open pairs graded. -/
theorem graded_advance {frontier : Classified} (hwithin : Within (run.stock frontier) s)
    (hgraded : GradedPairs s.openPairs) (horder : s.RepairsInOrder run answers) :
    GradedPairs (s.advance run answers).openPairs := by
  have hleads {profiles : ForgeProfiles} {key : ApplyPair}
      (h : Fails run s answers profiles key) : s.LeadsInOrder key (f2ProfileRole profiles key)
        (s.repairPlan run answers profiles key) :=
    (horder key h.gates profiles h.profiles).resolve_left (by simp [h.failed])
  cases @advance_opens run s answers frontier hwithin with
  | nothing h => exact hgraded.subset h.openPairs
  | climb profiles key nextMv measured hfails hgone hplan hgrows =>
    have habove := hleads hfails
    rw [hplan] at habove
    have hraise := (f2PlanVerticalRepair_ok hplan).2.1
    have hopen := open_of_gatesNext hwithin hfails.gates
    refine hgraded.insert (key.1, nextMv) (fun pair hpair => hgrows.openPairs hpair)
      (fun other hother hlt => ?_) (fun other hother hlt => ?_)
    · rcases hgrows.openPairs hother with hold | rfl
      · exact habove other hold hlt
      · exact absurd hlt (lt_irrefl _)
    · rcases hgrows.openPairs hother with hold | rfl
      · exact (hgraded other hold key hopen hlt).trans hraise
      · exact absurd hlt (lt_irrefl _)
  | drop profiles key limit excluded carried confidence hfails hgone hplan hrole hcarried hgrows =>
    have hsame := hleads hfails
    rw [hplan] at hsame
    have hopen := open_of_gatesNext hwithin hfails.gates
    obtain ⟨-, -, hclock, -⟩ := f2GodforgeFastDropCandidate_spec hcarried
    refine hgraded.insert (carried.target, key.2) (fun pair hpair => hgrows.openPairs hpair)
      (fun other hother hlt => ?_) (fun other hother hlt => ?_)
    · rcases hgrows.openPairs hother with hold | rfl
      · have hne : other ≠ key := by
          rintro rfl
          exact (mem_openPairs.mp hother).2 hgone
        rcases lt_trichotomy other.1 key.1 with hlower | heq | hhigher
        · have hle := f2GodforgeFastDropCandidate_next hcarried other (mem_openPairs.mp hold).1
            hlower
          exact absurd hlt (not_lt.mpr hle)
        · exact hsame hrole other hold heq hne
        · exact hgraded key hopen other hold hhigher
      · exact absurd hlt (lt_irrefl _)
    · rcases hgrows.openPairs hother with hold | rfl
      · exact hgraded other hold key hopen (hlt.trans hclock)
      · exact absurd hlt (lt_irrefl _)

end ApplyLoop

section Runs

variable {run : ForgeRun} {frontier : ClassifiedFrontier} {observations : List F2Observation}
  {l : List ApplyAnswers} {s : ApplyLoop}

theorem exactApply_graded
    (hstart : GradedPairs (run.start frontier.points observations).openPairs)
    (h : ((run.exactApply frontier.points observations).guarded fun s answers =>
      s.RepairsInOrder run answers).Run l s) : GradedPairs s.openPairs := by
  have hall : (run.exactApply frontier.points observations).Run l s ∧
      GradedPairs s.openPairs := by
    refine Machine.Run.invariant_trace (I := fun l s =>
      (run.exactApply frontier.points observations).Run l s ∧ GradedPairs s.openPairs)
      (fun s hs => ?_) (fun l s answers s' ih hs => ?_) h
    · obtain rfl : s = run.start frontier.points observations := hs
      exact ⟨.start rfl, hstart⟩
    · obtain ⟨hrun, hgraded⟩ := ih
      obtain ⟨horder, hstep⟩ := hs
      have hnext := hrun.next hstep
      obtain ⟨-, -, rfl⟩ := hstep
      exact ⟨hnext, ApplyLoop.graded_advance (ForgeRun.exactApply_kept hrun).within hgraded horder⟩
  exact hall.2

/-- The final profiles are drawn from the open pairs. -/
theorem final_pairs_open (h : (run.exactApply frontier.points observations).Run l s)
    {profiles : ForgeProfiles} (hphase : s.phase = .ended (some profiles)) :
    profiles.pairs ⊆ s.openPairs := by
  obtain ⟨hsettled, -⟩ := ForgeRun.exactApply_proved h
  rw [ApplyLoop.PassSettled, hphase] at hsettled
  intro pair hpair
  obtain ⟨slot, hslot, hpair⟩ := List.mem_filterMap.mp hpair
  obtain ⟨point, rfl, hkey⟩ := Option.bind_eq_some_iff.mp hpair
  obtain ⟨⟨confidence, hmem⟩, -, key, hkey', hnot⟩ := hsettled.selectable point hslot
  obtain rfl : pair = key := Option.some.inj (hkey.symm.trans hkey')
  exact ApplyLoop.mem_openPairs.mpr ⟨mem_keysOf.mpr ⟨(point, confidence), hmem, hkey⟩, hnot⟩

end Runs

/-- From a graded frontier, and with repairs that keep the order, the final profiles are ordered in
voltage. -/
theorem exactApply_orders (run : ForgeRun) (frontier : ClassifiedFrontier)
    (observations : List F2Observation) (l : List ApplyAnswers) (s : ApplyLoop)
    (hstart : GradedPairs (run.start frontier.points observations).openPairs)
    (h : ((run.exactApply frontier.points observations).guarded fun s answers =>
      s.RepairsInOrder run answers).Run l s)
    (profiles : ForgeProfiles) (hphase : s.phase = .ended (some profiles)) :
    GradedPairs profiles.pairs :=
  (exactApply_graded hstart h).subset (final_pairs_open h.of_guarded hphase)

section Sample

def quietForge : ForgeRun := { sampleForge with watts := fun _ => some 130 }

/-- Two clocks, the lower one at this bin. -/
def twoClocks (lowerMv : Nat) : ClassifiedFrontier where
  points := [(samplePoint 1900 900 150, 9 / 10), (samplePoint 1860 lowerMv 140, 9 / 10)]
  targets := by simp [samplePoint]
  hasTarget := by
    intro entry hentry
    rcases List.mem_pair.mp hentry with rfl | rfl <;> rfl
  fresh := by
    intro entry hentry
    rcases List.mem_pair.mp hentry with rfl | rfl <;> rfl

/-- Both pairs pass their gates, and a second pass over them ends the loop. -/
def twoClockAnswers (lowerMv : Nat) : List ApplyAnswers :=
  List.replicate 2 (passingAnswers 1900 900 120) ++
    List.replicate 6 (passingAnswers 1860 lowerMv 120)

def ApplyLoop.finalPairs (s : ApplyLoop) : List ApplyPair :=
  match s.phase with
  | .ended (some profiles) => profiles.pairs
  | _ => []

theorem ApplyLoop.ended_of_finalPairs {s : ApplyLoop} {pairs : List ApplyPair}
    (h : s.finalPairs = pairs) (hne : pairs ≠ []) :
    ∃ profiles, s.phase = .ended (some profiles) ∧ profiles.pairs = pairs := by
  unfold finalPairs at h
  split at h
  next profiles hphase => exact ⟨profiles, hphase, h⟩
  next => exact absurd h.symm hne

/-- Two clocks in order of voltage end as two different profiles. -/
theorem twoClocks_ordered : ∃ l s profiles,
    ((quietForge.exactApply (twoClocks 875).points []).guarded fun s answers =>
      s.RepairsInOrder quietForge answers).Run l s ∧
    s.phase = .ended (some profiles) ∧
    profiles.pairs = [(1900, 900), (1860, 875), (1860, 875)] ∧ GradedPairs profiles.pairs := by
  have hany : ((twoClockAnswers 875).foldlM (fun (s : ApplyLoop) answers =>
      if s.RepairsInOrder quietForge answers then s.follow quietForge answers else none)
      (quietForge.start (twoClocks 875).points [])).any
        (fun (s : ApplyLoop) => s.finalPairs ==
          [(1900, 900), (1860, 875), (1860, 875)]) = true := by
    decide +kernel
  obtain ⟨s, hrun, hfinal⟩ := ForgeRun.exists_guarded_run_of_any hany
  obtain ⟨profiles, hphase, hpairs⟩ :=
    ApplyLoop.ended_of_finalPairs (beq_iff_eq.mp hfinal) (by decide)
  have hstart : GradedPairs (quietForge.start (twoClocks 875).points []).openPairs := by
    decide +kernel
  exact ⟨_, s, profiles, hrun, hphase, hpairs,
    exactApply_orders quietForge (twoClocks 875) [] _ s hstart hrun profiles hphase⟩

/-- Two clocks at one bin pass their gates and are published there. -/
theorem twoClocks_share_voltage : ∃ l s profiles,
    (quietForge.exactApply (twoClocks 900).points []).Run l s ∧
    s.phase = .ended (some profiles) ∧
    profiles.pairs = [(1900, 900), (1860, 900), (1860, 900)] ∧
    ¬ GradedPairs profiles.pairs := by
  have hany : ((twoClockAnswers 900).foldlM (ApplyLoop.follow quietForge)
      (quietForge.start (twoClocks 900).points [])).any
        (fun (s : ApplyLoop) => s.finalPairs ==
          [(1900, 900), (1860, 900), (1860, 900)]) = true := by
    decide +kernel
  obtain ⟨s, hrun, hfinal⟩ := ForgeRun.exists_run_of_any hany
  obtain ⟨profiles, hphase, hpairs⟩ :=
    ApplyLoop.ended_of_finalPairs (beq_iff_eq.mp hfinal) (by decide)
  refine ⟨_, s, profiles, hrun, hphase, hpairs, ?_⟩
  rw [hpairs]
  decide

end Sample

end Nidavellir

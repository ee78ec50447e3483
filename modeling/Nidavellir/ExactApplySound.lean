import Nidavellir.ClassifiedFrontier
import Nidavellir.ExactApplyRuns

namespace Nidavellir

open Runs

theorem eq_of_nodup_keysOf {classified : Classified} (h : (keysOf classified).Nodup)
    {e₁ e₂ : PowerSweepPoint × ℚ} (h₁ : e₁ ∈ classified) (h₂ : e₂ ∈ classified)
    {key : ApplyPair} (hkey₁ : f2ApplyKey e₁.1 = some key)
    (hkey₂ : f2ApplyKey e₂.1 = some key) : e₁ = e₂ := by
  induction classified with
  | nil => simp at h₁
  | cons entry rest ih =>
    have hrest : (keysOf rest).Nodup := by
      rw [keysOf, List.filterMap_cons] at h
      split at h
      next => exact h
      next => exact (List.nodup_cons.mp h).2
    have hhead {e : PowerSweepPoint × ℚ} (he : e ∈ rest) (hkey : f2ApplyKey e.1 = some key)
        (hentry : f2ApplyKey entry.1 = some key) : False := by
      rw [keysOf, List.filterMap_cons, hentry] at h
      exact (List.nodup_cons.mp h).1 (mem_keysOf.mpr ⟨e, he, hkey⟩)
    rcases List.mem_cons.mp h₁ with heq₁ | hrest₁
    · rcases List.mem_cons.mp h₂ with heq₂ | hrest₂
      · exact heq₁.trans heq₂.symm
      · exact (hhead hrest₂ hkey₂ (heq₁ ▸ hkey₁)).elim
    · rcases List.mem_cons.mp h₂ with heq₂ | hrest₂
      · exact (hhead hrest₁ hkey₁ (heq₂ ▸ hkey₂)).elim
      · exact ih hrest hrest₁ hrest₂

namespace ApplyLoop

variable {run : ForgeRun} {s s' : ApplyLoop} {key : ApplyPair} {point : PowerSweepPoint}
  {profiles : ForgeProfiles} {rest : List PowerSweepPoint} {answers : ApplyAnswers}

/-- An approved point has a pair, and a soak of this run at it. -/
def Evident (run : ForgeRun) (s : ApplyLoop) : Prop :=
  ∀ entry ∈ s.classified, entry.1.approved = true → ∃ key, f2ApplyKey entry.1 = some key ∧
    run.enduranceQualified s.observations key = true

/-- What every state of a run keeps. -/
structure Kept (run : ForgeRun) (frontier : Classified) (s : ApplyLoop) : Prop where
  within : Within (run.stock frontier) s
  distinct : (keysOf s.classified).Nodup
  evident : Evident run s

theorem Reclassified.distinct {observations : List F2Observation} {classified : Classified}
    (h : Reclassified run s key observations classified)
    (hdistinct : (keysOf s.classified).Nodup) : (keysOf classified).Nodup := by
  cases h with
  | same => exact hdistinct
  | approved applyP95 worst gateP99 _ => rwa [keysOf_approveKey]
  | admitted pair candidate hkey _ _ => exact nodup_keysOf_upsert hkey hdistinct

/-- An approved point was approved before, or is one of the pair whose soak the log now holds. -/
theorem Reclassified.approved_cases {observations : List F2Observation}
    {classified : Classified} (h : Reclassified run s key observations classified)
    {entry : PowerSweepPoint × ℚ} (hentry : entry ∈ classified)
    (happroved : entry.1.approved = true) :
    entry ∈ s.classified ∨
      f2ApplyKey entry.1 = some key ∧ run.enduranceQualified observations key = true := by
  cases h with
  | same => exact .inl hentry
  | approved applyP95 worst gateP99 hsoak =>
    rcases mem_approveKey hentry with ⟨old, -, hkey, rfl⟩ | ⟨hold, -⟩
    · exact .inr ⟨by rw [f2ApplyKey_afterGate, hkey], hsoak⟩
    · exact .inl hold
  | admitted pair candidate _ hnot _ =>
    rcases mem_f2UpsertClassifiedCandidate hentry with hold | hcandidate
    · exact .inl hold
    · rw [hcandidate, hnot] at happroved
      cases happroved

theorem Leaves.evident (h : Leaves run s key s') (hevident : Evident run s) :
    Evident run s' := by
  intro entry hentry happroved
  obtain ⟨later, hlater⟩ := h.observations
  rcases h.classified.approved_cases hentry happroved with hold | ⟨hkey, hsoak⟩
  · obtain ⟨pair, hpair, hsoak⟩ := hevident entry hold happroved
    exact ⟨pair, hpair, hlater ▸ enduranceQualified_append hsoak⟩
  · exact ⟨key, hkey, hsoak⟩

theorem Approves.evident (h : Approves run s key profiles rest answers s')
    (hhonest : s.Honest run answers) (hevident : Evident run s) : Evident run s' := by
  intro entry hentry happroved
  obtain ⟨applyP95, gateP99, hclassified⟩ := h.classified
  obtain ⟨later, hlater⟩ := h.observations_append
  rw [hclassified] at hentry
  rcases mem_approveKey hentry with ⟨old, -, hkey, rfl⟩ | ⟨hold, -⟩
  · refine ⟨key, by rw [f2ApplyKey_afterGate, hkey], ?_⟩
    rw [h.observations]
    exact hhonest key h.gates h.qualified
  · obtain ⟨pair, hpair, hsoak⟩ := hevident entry hold happroved
    exact ⟨pair, hpair, hlater ▸ enduranceQualified_append hsoak⟩

/-- A step that only moves on in the loop. -/
structure Moves (s s' : ApplyLoop) : Prop where
  classified : s'.classified = s.classified
  excluded : s'.excludedApplyPairs = s.excludedApplyPairs
  observations : s'.observations = s.observations

/-- Everything one step can do: move on, leave a pass, or approve a pair in it. -/
theorem advance_cases {frontier : Classified} (hwithin : Within (run.stock frontier) s)
    (hhonest : s.Honest run answers) :
    Moves s (s.advance run answers) ∨
      ∃ profiles point rest changed key, s.phase = .qualify profiles (point :: rest) changed ∧
        f2ApplyKey point = some key ∧ key ∈ keysOf s.classified ∧ key ∉ s.excludedApplyPairs ∧
        s.alreadyQualified run key = false ∧
        (Leaves run s key (s.advance run answers) ∨
          Approves run s key profiles rest answers (s.advance run answers)) := by
  unfold ApplyLoop.advance
  split
  next =>
    rcases @synthesize_cases run s with heq | ⟨profiles, heq, -, -⟩
    · exact .inl (heq ▸ ⟨rfl, rfl, rfl⟩)
    · exact .inl (heq ▸ ⟨rfl, rfl, rfl⟩)
  next profiles point rest changed hphase =>
    obtain ⟨-, hall⟩ := hwithin.selected _ _ _ hphase
    obtain ⟨key, hkey, hmem, hnot⟩ := hall point List.mem_cons_self
    rcases qualifyPoint_cases hhonest hphase hkey with ⟨-, heq⟩ | ⟨hopen, hstep⟩
    · exact .inl (heq ▸ ⟨rfl, rfl, rfl⟩)
    · exact .inr ⟨profiles, point, rest, changed, key, hphase, hkey, hmem, hnot, hopen, hstep⟩
  next profiles changed hphase =>
    cases changed with
    | true => exact .inl ⟨rfl, rfl, rfl⟩
    | false => exact .inl ⟨rfl, rfl, rfl⟩
  next => exact .inl ⟨rfl, rfl, rfl⟩

theorem Kept.advance {frontier : Classified} (h : Kept run frontier s)
    (hhonest : s.Honest run answers) (hended : ¬ s.hasEnded) :
    Kept run frontier (s.advance run answers) := by
  refine ⟨(h.within.advance hhonest hended).1, ?_, ?_⟩
  · rcases advance_cases h.within hhonest with hmoves | ⟨_, _, _, _, _, -, -, -, -, -, hstep⟩
    · rw [hmoves.classified]
      exact h.distinct
    · rcases hstep with hleaves | happroves
      · exact hleaves.classified.distinct h.distinct
      · obtain ⟨applyP95, gateP99, hclassified⟩ := happroves.classified
        rw [hclassified, keysOf_approveKey]
        exact h.distinct
  · rcases advance_cases h.within hhonest with hmoves | ⟨_, _, _, _, _, -, -, -, -, -, hstep⟩
    · unfold Evident
      rw [hmoves.classified, hmoves.observations]
      exact h.evident
    · rcases hstep with hleaves | happroves
      · exact hleaves.evident h.evident
      · exact happroves.evident hhonest h.evident

end ApplyLoop

namespace ForgeRun

variable {run : ForgeRun} {frontier : ClassifiedFrontier} {observations : List F2Observation}
  {l : List ApplyAnswers} {s : ApplyLoop}

theorem start_kept :
    ApplyLoop.Kept run frontier.points (run.start frontier.points observations) where
  within := ⟨fun _ => ForgeRun.mem_stock_of_mem, fun _ _ _ hphase => by cases hphase⟩
  distinct := frontier.nodup_keys
  evident := by
    intro entry hentry happroved
    rw [PowerSweepPoint.approved, frontier.fresh entry hentry] at happroved
    cases happroved

/-- Every reachable state keeps the invariant. -/
theorem exactApply_kept (h : (run.exactApply frontier.points observations).Run l s) :
    ApplyLoop.Kept run frontier.points s := by
  refine h.invariant ?_ ?_
  · rintro s rfl
    exact start_kept
  · rintro s answers s' hkept ⟨hended, hhonest, rfl⟩
    exact hkept.advance hhonest hended

/-- A bound on the steps of every run over the frontier. -/
def stepBound (run : ForgeRun) (frontier : Classified) : Nat :=
  5 * ((run.stock frontier).card * ((run.stock frontier).card + 2)) + 5

theorem exactApply_length_le (h : (run.exactApply frontier.points observations).Run l s) :
    l.length ≤ run.stepBound frontier.points := by
  refine h.length_le (I := ApplyLoop.Kept run frontier.points)
    (μ := ApplyLoop.measure run (run.stock frontier.points)) ?_ ?_
  · rintro s rfl
    refine ⟨start_kept, ?_⟩
    have hbudget : (run.start frontier.points observations).budget run
        (run.stock frontier.points) ≤ _ := Exhaustion.budget_le
    have hvalue : (run.start frontier.points observations).measure run
        (run.stock frontier.points) = 5 * (run.start frontier.points observations).budget run
          (run.stock frontier.points) + 5 := rfl
    rw [hvalue, stepBound]
    omega
  · rintro s answers s' hkept ⟨hended, hhonest, rfl⟩
    exact ⟨hkept.advance hhonest hended, (hkept.within.advance hhonest hended).2⟩

end ForgeRun

end Nidavellir

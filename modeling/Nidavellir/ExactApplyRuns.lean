import Nidavellir.ExactApplySteps
import Nidavellir.Lib.Exhaustion

namespace Nidavellir

/-- Every pair that the loop can ever select: a clock of the frontier at a voltage of the frontier
or of the real curve. -/
def ForgeRun.stock (run : ForgeRun) (frontier : Classified) : Finset ApplyPair :=
  ((keysOf frontier).map Prod.fst).toFinset ×ˢ
    ((keysOf frontier).map Prod.snd ++ run.saneBaseCurve.map VfBin.mv).toFinset

section Stock

variable {run : ForgeRun} {frontier : Classified} {key pair : ApplyPair}

theorem ForgeRun.mem_stock_of_mem (h : key ∈ keysOf frontier) : key ∈ run.stock frontier := by
  rw [stock, Finset.mem_product, List.mem_toFinset, List.mem_toFinset]
  exact ⟨List.mem_map_of_mem h, List.mem_append_left _ (List.mem_map_of_mem h)⟩

theorem ForgeRun.mem_stock_of_bin (h : key ∈ run.stock frontier) (hclock : pair.1 = key.1)
    (hbin : ∃ bin ∈ run.saneBaseCurve, bin.mv = pair.2) : pair ∈ run.stock frontier := by
  obtain ⟨bin, hbin, hmv⟩ := hbin
  rw [stock, Finset.mem_product, List.mem_toFinset, List.mem_toFinset] at h ⊢
  exact ⟨hclock ▸ h.1, List.mem_append_right _ (hmv ▸ List.mem_map_of_mem hbin)⟩

theorem ForgeRun.mem_stock_of_clock {other : ApplyPair} (h : key ∈ run.stock frontier)
    (hother : other ∈ run.stock frontier) (hclock : other.1 = pair.1) (hmv : pair.2 = key.2) :
    pair ∈ run.stock frontier := by
  rw [stock, Finset.mem_product] at h hother ⊢
  exact ⟨hclock ▸ hother.1, hmv ▸ h.2⟩

end Stock

namespace ApplyLoop

variable {run : ForgeRun} {s s' : ApplyLoop} {key : ApplyPair} {point : PowerSweepPoint}
  {profiles : ForgeProfiles} {rest : List PowerSweepPoint} {answers : ApplyAnswers}
  {stock : Finset ApplyPair}

theorem alreadyQualified_iff :
    s.alreadyQualified run key = true ↔
      (∃ entry ∈ s.classified, f2ApplyKey entry.1 = some key ∧ entry.1.approved = true) ∧
        run.enduranceQualified s.observations key = true := by
  simp [alreadyQualified]

theorem enduranceQualified_append {observations later : List F2Observation}
    (h : run.enduranceQualified observations key = true) :
    run.enduranceQualified (observations ++ later) key = true := by
  have h' : pointHasCurrentEnduranceQualification observations run.runId key.1 key.2
      run.gpuKey = true := h
  rw [ForgeRun.enduranceQualified, pointHasCurrentEnduranceQualification_append, h',
    Bool.true_or]

/-- A profile of a pass: a safe point of the frontier whose pair is not excluded. -/
structure Selectable (run : ForgeRun) (s : ApplyLoop) (point : PowerSweepPoint) : Prop where
  member : ∃ confidence, (point, confidence) ∈ s.classified
  safe : isOffCapSafe point run.powerLimitW = true
  pair : ∃ key, f2ApplyKey point = some key ∧ key ∉ s.excludedApplyPairs

theorem mem_eligible {entry : PowerSweepPoint × ℚ} :
    entry ∈ s.eligible ↔ entry ∈ s.classified ∧
      ∃ key, f2ApplyKey entry.1 = some key ∧ key ∉ s.excludedApplyPairs := by
  rw [eligible, List.mem_filter]
  cases hkey : f2ApplyKey entry.1 with
  | none => simp
  | some key => simp

/-- Synthesis ends the loop or starts a pass over three selectable profiles. -/
theorem synthesize_cases :
    s.synthesize run = { s with phase := .ended none } ∨
      ∃ profiles, s.synthesize run =
          { s with phase := .qualify profiles (f2UniqueProfilePoints profiles.all) false } ∧
        none ∉ profiles.all ∧ ∀ point, some point ∈ profiles.all → Selectable run s point := by
  have hmember {point : PowerSweepPoint}
      (h : (∃ confidence, (point, confidence) ∈ s.eligible) ∧
        isOffCapSafe point run.powerLimitW = true) : Selectable run s point := by
    obtain ⟨⟨confidence, hmem⟩, hsafe⟩ := h
    obtain ⟨hmem, hkey⟩ := mem_eligible.mp hmem
    exact ⟨⟨confidence, hmem⟩, hsafe, hkey⟩
  unfold synthesize
  simp only [run.exactApplyRequired_eq, Bool.not_true, Bool.false_eq_true, if_false]
  split
  next => exact .inl rfl
  next =>
    split
    next => exact .inl rfl
    next hnone =>
      refine .inr ⟨_, rfl, fun hmem => hnone ?_, fun point hpoint => ?_⟩
      · rw [Bool.and_eq_true, decide_eq_true_eq, List.any_eq_true]
        refine ⟨?_, none, hmem, rfl⟩
        refine lt_of_le_of_lt f2UniqueProfilePoints.length_go_le ?_
        exact List.length_filterMap_lt_length_iff_exists.mpr ⟨none, hmem, rfl⟩
      · rcases mem_f2ApplyGodforgeOverride hpoint with hpoint | hpoint
        · exact hmember (mem_synthesizeForgeProfilesCapped hpoint)
        · exact hmember hpoint

/-- All pairs stay in the stock, and the points still to come in a pass may be gated. -/
structure Within (stock : Finset ApplyPair) (s : ApplyLoop) : Prop where
  keys : ∀ key ∈ keysOf s.classified, key ∈ stock
  selected : ∀ profiles selected changed, s.phase = .qualify profiles selected changed →
    selected.length ≤ 3 ∧ ∀ point ∈ selected, ∃ key, f2ApplyKey point = some key ∧
      key ∈ keysOf s.classified ∧ key ∉ s.excludedApplyPairs

def budget (run : ForgeRun) (stock : Finset ApplyPair) (s : ApplyLoop) : Nat :=
  Exhaustion.budget stock s.excludedApplyPairs (s.alreadyQualified run)

/-- Bounds the steps that are left. -/
def measure (run : ForgeRun) (stock : Finset ApplyPair) (s : ApplyLoop) : Nat :=
  match s.phase with
  | .synthesize => 5 * s.budget run stock + 5
  | .qualify _ selected false => 5 * s.budget run stock + 1 + selected.length
  | .qualify _ selected true => 5 * s.budget run stock + 6 + selected.length
  | .ended _ => 0

theorem Reclassified.mem_keysOf {observations : List F2Observation} {classified : Classified}
    (h : Reclassified run s key observations classified) {pair : ApplyPair}
    (hpair : pair ∈ keysOf classified) :
    pair ∈ keysOf s.classified ∨
      (pair.1 = key.1 ∧ (∃ bin ∈ run.saneBaseCurve, bin.mv = pair.2) ∨
        (∃ other ∈ keysOf s.classified, other.1 = pair.1) ∧ pair.2 = key.2) := by
  cases h with
  | same => exact .inl hpair
  | approved applyP95 worst gateP99 _ => exact .inl (keysOf_approveKey ▸ hpair)
  | admitted admitted candidate hkey _ hadmitted =>
    rcases (mem_keysOf_upsert hkey).mp hpair with hold | rfl
    · exact .inl hold
    · exact .inr hadmitted

theorem Leaves.within {frontier : Classified} (h : Leaves run s key s')
    (hwithin : Within (run.stock frontier) s) (hkey : key ∈ run.stock frontier) :
    Within (run.stock frontier) s' where
  keys := by
    intro pair hpair
    rcases h.classified.mem_keysOf hpair with hold | ⟨hclock, hbin⟩ | ⟨⟨other, hother, hclock⟩, hmv⟩
    · exact hwithin.keys pair hold
    · exact ForgeRun.mem_stock_of_bin hkey hclock hbin
    · exact ForgeRun.mem_stock_of_clock hkey (hwithin.keys other hother) hclock hmv
  selected := by
    intro profiles selected changed hphase
    rcases h.phase with hended | ⟨hsynthesize, -⟩
    · rw [hended] at hphase
      cases hphase
    · rw [hsynthesize] at hphase
      cases hphase

/-- A selection that is being qualified counts its points. -/
theorem le_measure_of_qualify (run : ForgeRun) (stock : Finset ApplyPair) {changed : Bool}
    (hphase : s.phase = .qualify profiles (point :: rest) changed) :
    5 * s.budget run stock + 1 + (rest.length + 1) ≤ s.measure run stock := by
  unfold measure
  rw [hphase]
  cases changed with
  | false => exact le_rfl
  | true => simp only [List.length_cons]; omega

theorem Leaves.measure_lt (h : Leaves run s key s') (hkey : key ∈ stock)
    (hnot : key ∉ s.excludedApplyPairs) {changed : Bool}
    (hphase : s.phase = .qualify profiles (point :: rest) changed) :
    s'.measure run stock < s.measure run stock := by
  have hpositive := le_measure_of_qualify run stock hphase
  rcases h.phase with hended | ⟨hsynthesize, hexcluded⟩
  · have hzero : s'.measure run stock = 0 := by rw [measure, hended]
    omega
  · have hbudget : s'.budget run stock < s.budget run stock :=
      Exhaustion.budget_lt_of_retired hkey hnot
        (Finset.insert_subset hexcluded h.excluded)
    have hvalue : s'.measure run stock = 5 * s'.budget run stock + 5 := by
      rw [measure, hsynthesize]
    omega

theorem Approves.observations_append (h : Approves run s key profiles rest answers s') :
    ∃ later, s'.observations = s.observations ++ later := by
  obtain ⟨later, hlater⟩ := @runGate_observations answers.gate s.observations
    (answers.condemned.requiredApplyPasses key.1 key.2 f2QualificationContractVersion)
  exact ⟨later, h.observations.trans hlater⟩

/-- An approval settles its pair and unsettles none. -/
theorem Approves.settles (h : Approves run s key profiles rest answers s')
    (hhonest : s.Honest run answers) (hmem : key ∈ keysOf s.classified) :
    s'.alreadyQualified run key = true ∧
      ∀ pair, s.alreadyQualified run pair = true → s'.alreadyQualified run pair = true := by
  obtain ⟨applyP95, gateP99, hclassified⟩ := h.classified
  obtain ⟨later, hlater⟩ := h.observations_append
  constructor
  · obtain ⟨entry, hentry, hkey⟩ := mem_keysOf.mp hmem
    refine alreadyQualified_iff.mpr ⟨?_, ?_⟩
    · rw [hclassified]
      refine ⟨_, List.mem_map_of_mem hentry, ?_, ?_⟩
      · rw [if_pos hkey, f2ApplyKey_afterGate, hkey]
      · rw [if_pos hkey, approved_afterGate]
    · rw [h.observations]
      exact hhonest key h.gates h.qualified
  · intro pair hpair
    obtain ⟨⟨entry, hentry, hkey, happroved⟩, hsoak⟩ := alreadyQualified_iff.mp hpair
    refine alreadyQualified_iff.mpr ⟨?_, ?_⟩
    · rw [hclassified]
      refine ⟨_, List.mem_map_of_mem hentry, ?_, ?_⟩
      · split
        next => rw [f2ApplyKey_afterGate, hkey]
        next => exact hkey
      · split
        next => exact approved_afterGate
        next => exact happroved
    · rw [hlater]
      exact enduranceQualified_append hsoak

theorem Approves.measure_lt (h : Approves run s key profiles rest answers s')
    (hhonest : s.Honest run answers) (hmem : key ∈ keysOf s.classified) (hkey : key ∈ stock)
    (hopen : s.alreadyQualified run key = false) {changed : Bool}
    (hphase : s.phase = .qualify profiles (point :: rest) changed) :
    s'.measure run stock < s.measure run stock := by
  obtain ⟨hdone, hmono⟩ := h.settles hhonest hmem
  have hbudget : s'.budget run stock < s.budget run stock := by
    unfold budget
    rw [h.excluded]
    exact Exhaustion.budget_lt_of_settled hkey hopen hdone hmono
  have hvalue : s'.measure run stock = 5 * s'.budget run stock + 6 + rest.length := by
    rw [measure, h.phase]
  have hpositive := le_measure_of_qualify run stock hphase
  omega

theorem Approves.within (h : Approves run s key profiles rest answers s')
    (hwithin : Within stock s) {changed : Bool}
    (hphase : s.phase = .qualify profiles (point :: rest) changed) : Within stock s' where
  keys := by
    obtain ⟨applyP95, gateP99, hclassified⟩ := h.classified
    rw [hclassified, keysOf_approveKey]
    exact hwithin.keys
  selected := by
    intro profiles' selected changed' hphase'
    obtain ⟨applyP95, gateP99, hclassified⟩ := h.classified
    obtain ⟨hlength, hall⟩ := hwithin.selected _ _ _ hphase
    rw [h.phase] at hphase'
    cases hphase'
    rw [hclassified, keysOf_approveKey, h.excluded]
    refine ⟨?_, fun p hp => hall p (List.mem_cons_of_mem _ hp)⟩
    rw [List.length_cons] at hlength
    omega

/-- One step keeps to the stock and uses up some of what is left. -/
theorem Within.advance {frontier : Classified} (h : Within (run.stock frontier) s)
    (hhonest : s.Honest run answers) (hended : ¬ s.hasEnded) :
    Within (run.stock frontier) (s.advance run answers) ∧
      (s.advance run answers).measure run (run.stock frontier) <
        s.measure run (run.stock frontier) := by
  unfold ApplyLoop.advance
  split
  next hphase =>
    have hvalue : s.measure run (run.stock frontier) =
        5 * s.budget run (run.stock frontier) + 5 := by rw [measure, hphase]
    rcases @synthesize_cases run s with heq | ⟨profiles, heq, -, hselectable⟩
    · rw [heq]
      refine ⟨⟨h.keys, fun _ _ _ hqualify => by cases hqualify⟩, ?_⟩
      rw [hvalue]
      exact Nat.zero_lt_succ _
    · rw [heq]
      have hlength : (f2UniqueProfilePoints profiles.all).length ≤ 3 :=
        length_f2UniqueProfilePoints_le
      refine ⟨⟨h.keys, fun _ _ _ hqualify => ?_⟩, ?_⟩
      · cases hqualify
        refine ⟨hlength, fun point hpoint => ?_⟩
        obtain ⟨hmem, -⟩ := mem_f2UniqueProfilePoints hpoint
        obtain ⟨⟨confidence, hmem⟩, -, key, hkey, hnot⟩ := hselectable point hmem
        exact ⟨key, hkey, mem_keysOf.mpr ⟨_, hmem, hkey⟩, hnot⟩
      · have hafter : ApplyLoop.measure run (run.stock frontier) { s with
            phase := .qualify profiles (f2UniqueProfilePoints profiles.all) false } =
              5 * s.budget run (run.stock frontier) + 1 +
                (f2UniqueProfilePoints profiles.all).length := rfl
        omega
  next profiles point rest changed hphase =>
    obtain ⟨hlength, hall⟩ := h.selected _ _ _ hphase
    obtain ⟨key, hkey, hmem, hnot⟩ := hall point List.mem_cons_self
    have hstock := h.keys key hmem
    rcases qualifyPoint_cases hhonest hphase hkey with ⟨-, heq⟩ | ⟨hopen, hleaves | happroves⟩
    · rw [heq]
      refine ⟨⟨h.keys, fun _ _ _ hqualify => ?_⟩, ?_⟩
      · cases hqualify
        rw [List.length_cons] at hlength
        exact ⟨by omega, fun p hp => hall p (List.mem_cons_of_mem _ hp)⟩
      · unfold measure
        rw [hphase]
        cases changed with
        | false => exact Nat.lt_succ_self _
        | true => exact Nat.lt_succ_self _
    · exact ⟨hleaves.within h hstock, hleaves.measure_lt hstock hnot hphase⟩
    · exact ⟨happroves.within h hphase,
        happroves.measure_lt hhonest hmem hstock hopen hphase⟩
  next profiles changed hphase =>
    have hvalue : s.measure run (run.stock frontier) =
        5 * s.budget run (run.stock frontier) + if changed then 6 else 1 := by
      rw [measure, hphase]
      cases changed <;> rfl
    cases changed with
    | true =>
      refine ⟨⟨h.keys, fun _ _ _ hqualify => by cases hqualify⟩, ?_⟩
      rw [hvalue]
      exact Nat.lt_succ_self _
    | false =>
      refine ⟨⟨h.keys, fun _ _ _ hqualify => by cases hqualify⟩, ?_⟩
      rw [hvalue]
      exact Nat.zero_lt_succ _
  next finalProfiles hphase => exact absurd ⟨finalProfiles, hphase⟩ hended

end ApplyLoop

end Nidavellir

import Nidavellir.ForgePublication

namespace Nidavellir

open Runs

namespace ApplyLoop

variable (run : ForgeRun) (s : ApplyLoop)

/-- The points that synthesis may publish. -/
def publishable : Classified :=
  s.eligible.filter fun entry => isOffCapSafe entry.1 run.powerLimitW

def candidate : Option PowerSweepPoint :=
  match s.phase with
  | .qualify _ (point :: _) _ =>
    if (f2ApplyKey point).any (s.alreadyQualified run) then none else some point
  | _ => none

/-- The first approved entry of another pair that is no slower than the point and draws no more. -/
def firstDominator (point : PowerSweepPoint) : Option (PowerSweepPoint × ℚ) :=
  s.classified.find? fun entry =>
    (entry.1.approved && (f2ApplyKey entry.1).any fun key => some key != f2ApplyKey point) &&
      (decide (point.sustained ≤ entry.1.sustained) && decide (0 < entry.1.selectionPower) &&
        decide (entry.1.selectionPower ≤ point.selectionPower))

/-- Where the next candidate has a dominator, the first one may be published. -/
def DominatorPublishable : Prop :=
  ∀ point ∈ s.candidate run, ∀ entry ∈ s.firstDominator point, entry ∈ s.publishable run

instance : Decidable (s.DominatorPublishable run) :=
  inferInstanceAs (Decidable (∀ point ∈ s.candidate run, _))

/-- The entry can be published in place of a candidate that it dominates. -/
structure Replaces (point : PowerSweepPoint) (dominator : ApplyPair)
    (entry : PowerSweepPoint × ℚ) : Prop where
  member : entry ∈ s.classified
  pair : f2ApplyKey entry.1 = some dominator
  included : dominator ∉ s.excludedApplyPairs
  safe : isOffCapSafe entry.1 run.powerLimitW = true
  soaked : run.enduranceQualified s.observations dominator = true
  clock : point.sustained ≤ entry.1.sustained
  power : entry.1.selectionPower ≤ point.selectionPower

/-- A step that drops a dominated candidate drops it for a point that can be published, and leaves
one to publish. -/
def DropsForPublishable (s' : ApplyLoop) : Prop :=
  ∀ point dominator, s'.dominated = s.dominated ++ [(point, dominator)] →
    (∃ entry, s.Replaces run point dominator entry) ∧
      (s.publishable run ≠ [] → s'.publishable run ≠ [])

variable {run : ForgeRun} {s : ApplyLoop} {answers : ApplyAnswers}

theorem mem_publishable {entry : PowerSweepPoint × ℚ} :
    entry ∈ s.publishable run ↔ entry ∈ s.classified ∧
      (∃ key, f2ApplyKey entry.1 = some key ∧ key ∉ s.excludedApplyPairs) ∧
      isOffCapSafe entry.1 run.powerLimitW = true := by
  rw [publishable, List.mem_filter, mem_eligible, and_assoc]

theorem firstDominator_of_some {point : PowerSweepPoint} {dominator : ApplyPair}
    (h : f2ApprovedDominator point s.classified = some dominator) :
    ∃ entry, s.firstDominator point = some entry ∧ f2ApplyKey entry.1 = some dominator := by
  unfold f2ApprovedDominator at h
  obtain ⟨candKey, hcand, h⟩ := Option.bind_eq_some_iff.mp h
  simp only at h
  split at h
  next => cases h
  next =>
    obtain ⟨point', hfind, hkey⟩ := Option.bind_eq_some_iff.mp h
    rw [List.find?_filter, List.find?_map, Option.map_eq_some_iff] at hfind
    obtain ⟨entry, hfind, rfl⟩ := hfind
    refine ⟨entry, ?_, hkey⟩
    rw [firstDominator, ← hfind]
    congr 1
    funext other
    simp [hcand, bne]

/-- One step drops no candidate, or the next one for its dominator. -/
theorem advance_dominated : (s.advance run answers).dominated = s.dominated ∨
    ∃ point key dominator, s.candidate run = some point ∧ f2ApplyKey point = some key ∧
      f2ApprovedDominator point s.classified = some dominator ∧
      s.advance run answers =
        { s.excluding {key} with dominated := s.dominated ++ [(point, dominator)] } := by
  unfold ApplyLoop.advance
  split
  next =>
    rcases @synthesize_cases run s with heq | ⟨profiles, heq, -, -⟩
    · exact .inl (by rw [heq])
    · exact .inl (by rw [heq])
  next profiles point rest changed hphase =>
    unfold qualifyPoint
    split
    next => exact .inl rfl
    next key hkey =>
      split
      next => exact .inl rfl
      next halready =>
        split
        next dominator hdominator =>
          refine .inr ⟨point, key, dominator, ?_, hkey, hdominator, rfl⟩
          rw [candidate, hphase]
          simp [hkey, halready]
        next =>
          simp only
          split
          next => exact .inl passed_sameCalls.dominated
          next => exact .inl failed_sameCalls.dominated
  next =>
    split
    next => exact .inl rfl
    next => exact .inl rfl
  next => exact .inl rfl

theorem exists_dropped {dominator : ApplyPair}
    (h : (s.advance run answers).dominated.map Prod.snd =
      s.dominated.map Prod.snd ++ [dominator]) :
    ∃ point, (s.advance run answers).dominated = s.dominated ++ [(point, dominator)] := by
  rcases @advance_dominated run s answers with hsame | ⟨point, key, dominator', -, -, -, heq⟩
  · exact absurd (hsame ▸ h) (by simp)
  · have hdropped : (s.advance run answers).dominated =
        s.dominated ++ [(point, dominator')] := by rw [heq]
    rw [hdropped, List.map_append] at h
    obtain rfl : dominator' = dominator := List.singleton_inj.mp (List.append_cancel_left h)
    exact ⟨point, hdropped⟩

theorem dropsForPublishable_advance (hevident : Evident run s)
    (hcondition : s.DominatorPublishable run) :
    s.DropsForPublishable run (s.advance run answers) := by
  intro point dominator hdropped
  rcases @advance_dominated run s answers with hsame | ⟨point', key, dominator', hcandidate, hkey,
    hdominator, hstep⟩
  · exact absurd (hsame.symm.trans hdropped) (by simp)
  · have heq : [(point', dominator')] = [(point, dominator)] := by
      rw [hstep] at hdropped
      exact List.append_cancel_left hdropped
    obtain ⟨rfl, rfl⟩ := Prod.mk.inj (List.singleton_inj.mp heq)
    obtain ⟨entry, hfirst, hpair⟩ := firstDominator_of_some hdominator
    have hbest := List.find?_some hfirst
    simp only [Bool.and_eq_true, decide_eq_true_eq] at hbest
    obtain ⟨⟨happroved, hany⟩, ⟨hclock, -⟩, hpower⟩ := hbest
    have hother : some dominator' ≠ f2ApplyKey point' := by simpa [hpair] using hany
    have hmem : entry ∈ s.publishable run := hcondition point' hcandidate entry hfirst
    obtain ⟨hentry, ⟨pair, hpair', hincluded⟩, hsafe⟩ := mem_publishable.mp hmem
    obtain rfl : dominator' = pair := Option.some.inj (hpair.symm.trans hpair')
    obtain ⟨soaked, hsoaked, hsoak⟩ := hevident entry hentry happroved
    obtain rfl : dominator' = soaked := Option.some.inj (hpair.symm.trans hsoaked)
    refine ⟨⟨entry, hentry, hpair, hincluded, hsafe, hsoak, hclock, hpower⟩, fun _ => ?_⟩
    -- the dominator is of another pair, so the exclusion leaves it
    refine List.ne_nil_of_mem (a := entry) (mem_publishable.mpr ?_)
    rw [hstep]
    refine ⟨hentry, ⟨dominator', hpair, fun hin => ?_⟩, hsafe⟩
    rcases Finset.mem_union.mp hin with hold | hnew
    · exact hincluded hold
    · exact hother (by rw [hkey, Finset.mem_singleton.mp hnew])

end ApplyLoop

def soakedAnswers (targetMhz anchorMv textureWatts soakWatts : Nat) : ApplyAnswers where
  gate := fun _ =>
    { summary := { qualified := true, stopReason := "ExactApplyQualified" }
      appended := [gateObservation targetMhz anchorMv textureWatts .texture,
        gateObservation targetMhz anchorMv soakWatts .endurance] }
  calibration := noCalibration

def droppedAnswers (targetMhz anchorMv watts : Nat) : ApplyAnswers where
  gate := fun _ =>
    { summary := { qualified := false, stopReason := "ExactApplyRejected: ClockDrop" } }
  calibration :=
    { summary := { confirmed := true, stopReason := "PowerCalibrated" }
      appended := [gateObservation targetMhz anchorMv watts .texture] }

def dominatedFrontier : ClassifiedFrontier where
  points := [(samplePoint 1950 920 180, 9 / 10), (samplePoint 1900 900 172, 9 / 10),
    (samplePoint 1860 890 160, 9 / 10)]
  targets := by decide
  hasTarget := by decide
  fresh := by decide

def dominatedForge : ForgeRun :=
  { sampleForge with saneBaseCurve := [(0, 875, 1740), (1, 890, 1770), (2, 900, 1785)] }

def dominatedAnswers : List ApplyAnswers :=
  let idle := failingAnswers "Cancelled"
  [idle, soakedAnswers 1950 920 185 195, soakedAnswers 1860 890 160 165, idle, idle,
    droppedAnswers 1860 900 170, idle]

def atCapFrontier : ClassifiedFrontier where
  points := [(samplePoint 1900 900 150, 9 / 10), (samplePoint 1800 875 160, 9 / 10)]
  targets := by decide
  hasTarget := by decide
  fresh := by decide

end Nidavellir

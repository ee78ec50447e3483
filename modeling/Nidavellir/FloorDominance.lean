import Nidavellir.Condemnation

namespace Nidavellir

open Envelope

/-- An event that still condemns on the GPU: it applies there and no later rehabilitation
that reaches the GPU names its pair. -/
def EffectiveOn (events : List CondemnationEvent) (gpuKey : String)
    (e : CondemnationEvent) : Prop :=
  ∃ before later, events = before ++ e :: later ∧ condemns gpuKey e ∧
    ∀ r ∈ later, ¬ liftsFor gpuKey r e

theorem CondemnedPairs.mem_foldl_push {events : List CondemnationEvent} {out : CondemnedPairs}
    {s : CondemnationSeverity} {p : Nat × Nat} :
    p ∈ (events.foldl CondemnedPairs.push out).bySeverity s ↔
      p ∈ out.bySeverity s ∨ ∃ e ∈ events, e.severity = s ∧ e.pair = p := by
  induction events generalizing out with
  | nil => simp
  | cons e events ih =>
    have hpush : p ∈ (out.push e).bySeverity s ↔
        p ∈ out.bySeverity s ∨ e.severity = s ∧ e.pair = p := by
      rw [bySeverity_push, List.mem_append]
      apply or_congr_right
      split
      next hs => simp [hs, eq_comm]
      next hs => simp [hs]
    rw [List.foldl_cons, ih, hpush, List.exists_mem_cons_iff, or_assoc]

/-- The pairs of a severity are the pairs of its effective events. -/
theorem mem_condemnedPairs_iff {events : List CondemnationEvent} {gpuKey : String}
    {s : CondemnationSeverity} {p : Nat × Nat} :
    p ∈ (condemnedPairs events gpuKey).bySeverity s ↔
      ∃ e, EffectiveOn events gpuKey e ∧ e.severity = s ∧ e.pair = p := by
  have hempty : p ∉ ({} : CondemnedPairs).bySeverity s := by
    cases s <;> exact List.not_mem_nil
  rw [condemnedPairs, CondemnedPairs.mem_foldl_push, or_iff_right hempty]
  apply exists_congr
  intro e
  rw [Ledger.mem_uncancelled_iff]
  rfl

theorem vfFloorEnvelope_mono_clock {pairs : List (Nat × Nat)} {c c' f : Nat} (hc : c ≤ c')
    (hf : vfFloorEnvelope pairs c = some f) :
    ∃ g, vfFloorEnvelope pairs c' = some g ∧ f ≤ g := by
  have hfloor := floorEnvelope_eq_some_iff.mp (vfFloorEnvelope_eq_some_iff.mp hf)
  cases hg : floorEnvelope (pairs.map toClockMv) c' with
  | none =>
    obtain ⟨w, hw, -⟩ := hfloor.exists_worst_le
    obtain ⟨x, hx, hmem⟩ := hw.1
    have hlt := floorEnvelope_eq_none_iff.mp hg (x, w) hmem
    simp only at hlt
    omega
  | some g =>
    obtain ⟨n, rfl⟩ := Int.eq_ofNat_of_zero_le (floorEnvelope_toClockMv_nonneg hg)
    have hcc : (c : Int) ≤ c' := by omega
    have hle := IsFloor.mono_key hcc hfloor (floorEnvelope_eq_some_iff.mp hg)
    exact ⟨n, vfFloorEnvelope_eq_some_iff.mpr hg, by omega⟩

/-- From a condemned clock on, the floor lies at or above the voltage condemned there. -/
theorem vfFloorEnvelope_ge_of_mem {pairs : List (Nat × Nat)} {c v c' : Nat}
    (hp : (c, v) ∈ pairs) (hc : c ≤ c') : ∃ g, vfFloorEnvelope pairs c' = some g ∧ v ≤ g := by
  have hmem : toClockMv (c, v) ∈ pairs.map toClockMv := List.mem_map_of_mem hp
  obtain ⟨f, hf, hvf⟩ := floorEnvelope_ge_of_mem hmem
  obtain ⟨n, rfl⟩ := Int.eq_ofNat_of_zero_le (floorEnvelope_toClockMv_nonneg hf)
  obtain ⟨g, hg, hng⟩ := vfFloorEnvelope_mono_clock hc (vfFloorEnvelope_eq_some_iff.mpr hf)
  have hvn : v ≤ n := by simpa [toClockMv] using hvf
  exact ⟨g, hg, hvn.trans hng⟩

theorem vfFloorEnvelope_eq_none_of_below {pairs : List (Nat × Nat)} {c : Nat}
    (h : ∀ p ∈ pairs, c < p.1) : vfFloorEnvelope pairs c = none := by
  have hnone : floorEnvelope (pairs.map toClockMv) c = none := by
    rw [floorEnvelope_eq_none_iff]
    intro q hq
    obtain ⟨p, hp, rfl⟩ := List.mem_map.mp hq
    have hlt := h p hp
    show (c : Int) < p.1
    omega
  simp [vfFloorEnvelope, hnone]

theorem CondemnedPairs.refuses_anti_anchor {self : CondemnedPairs} {c a a' : Nat} (ha : a' ≤ a)
    (h : self.refuses c a) : self.refuses c a' := by
  rw [CondemnedPairs.refuses_iff] at h ⊢
  rcases h with ⟨f, hf, hle⟩ | ⟨f, hf, hlt⟩
  · exact Or.inl ⟨f, hf, ha.trans hle⟩
  · exact Or.inr ⟨f, hf, lt_of_le_of_lt ha hlt⟩

theorem CondemnedPairs.refuses_mono_clock {self : CondemnedPairs} {c c' a : Nat} (hc : c ≤ c')
    (h : self.refuses c a) : self.refuses c' a := by
  rw [CondemnedPairs.refuses_iff] at h ⊢
  rcases h with ⟨f, hf, hle⟩ | ⟨f, hf, hlt⟩
  · obtain ⟨g, hg, hfg⟩ := vfFloorEnvelope_mono_clock hc hf
    exact Or.inl ⟨g, hg, hle.trans hfg⟩
  · obtain ⟨g, hg, hfg⟩ := vfFloorEnvelope_mono_clock hc hf
    exact Or.inr ⟨g, hg, lt_of_lt_of_le hlt hfg⟩

theorem CondemnedPairs.not_refuses_below {self : CondemnedPairs} {c a : Nat}
    (h : ∀ s, ∀ p ∈ self.bySeverity s, c < p.1) : ¬ self.refuses c a := by
  rw [CondemnedPairs.refuses_iff, vfFloorEnvelope_eq_none_of_below (h .rigid),
    vfFloorEnvelope_eq_none_of_below (h .quarantine)]
  simp

/-- A condemnation dominates every harder point: it refuses each higher clock at each lower
voltage, and nothing is refused below the lowest condemned clock. -/
theorem condemnations_dominate (events : List CondemnationEvent) (gpuKey : String) :
    (∀ e, EffectiveOn events gpuKey e → ∀ c' a, e.targetMhz ≤ c' →
      match e.severity with
      | .rigid => a ≤ e.vfBinMv → (condemnedPairs events gpuKey).refuses c' a
      | .quarantine => a < e.vfBinMv → (condemnedPairs events gpuKey).refuses c' a) ∧
    (∀ c a c' a', c ≤ c' → a' ≤ a → (condemnedPairs events gpuKey).refuses c a →
      (condemnedPairs events gpuKey).refuses c' a') ∧
    ∀ c, (∀ e, EffectiveOn events gpuKey e → c < e.targetMhz) →
      ∀ a, ¬ (condemnedPairs events gpuKey).refuses c a := by
  refine ⟨?_, ?_, ?_⟩
  · intro e he c' a hc
    have hmem : (e.targetMhz, e.vfBinMv) ∈ (condemnedPairs events gpuKey).bySeverity e.severity :=
      mem_condemnedPairs_iff.mpr ⟨e, he, rfl, rfl⟩
    obtain ⟨g, hg, hvg⟩ := vfFloorEnvelope_ge_of_mem hmem hc
    split
    next hs =>
      intro ha
      rw [hs] at hg
      exact CondemnedPairs.refuses_iff.mpr (Or.inl ⟨g, hg, ha.trans hvg⟩)
    next hs =>
      intro ha
      rw [hs] at hg
      exact CondemnedPairs.refuses_iff.mpr (Or.inr ⟨g, hg, lt_of_lt_of_le ha hvg⟩)
  · intro c a c' a' hc ha href
    exact CondemnedPairs.refuses_anti_anchor ha (CondemnedPairs.refuses_mono_clock hc href)
  · intro c hbelow a
    apply CondemnedPairs.not_refuses_below
    intro s p hp
    obtain ⟨e, he, -, rfl⟩ := mem_condemnedPairs_iff.mp hp
    exact hbelow e he

end Nidavellir

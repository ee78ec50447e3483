import Nidavellir.GpuStress

namespace Nidavellir.GpuStress

open Dispatch AffinePower
open scoped UInt32.CommRing

/-- The map a pair of coefficients stands for. -/
def act (p : UInt32 × UInt32) (x : UInt32) : UInt32 := p.1 * x + p.2

theorem act_compose (h g : UInt32 × UInt32) (x : UInt32) :
    act (compose h g) x = act g (act h x) := by
  unfold act compose
  ring

theorem act_lcg : act (c1, c2) = lcgRound := by
  funext x
  unfold act lcgRound
  ring

theorem act_lcgPow (n : UInt64) (x : UInt32) : act (lcgPow n) x = lcgRound^[n.toNat] x := by
  unfold lcgPow
  rw [act_squaring act_compose, act_lcg]
  have hone : act (1, 0) x = x := by
    unfold act
    ring
  rw [hone]

/-- Two to the sixty-four rounds bring every lane back: the wrap of the exponent is harmless. -/
theorem lcgRound_period : lcgRound^[2 ^ 64] = id := by
  funext x
  have hdoubled : (fun p => compose p p)^[64] (c1, c2) = (1, 0) := by decide +kernel
  have hpow := act_doubled act_compose 64 (c1, c2) x
  rw [hdoubled, act_lcg] at hpow
  rw [← hpow]
  unfold act
  simp

theorem lcgRound_mod (n : Nat) : lcgRound^[n % 2 ^ 64] = lcgRound^[n] := by
  conv_rhs => rw [← Nat.mod_add_div n (2 ^ 64)]
  rw [Function.iterate_add, Function.iterate_mul, lcgRound_period, Function.iterate_id]
  rfl

/-- The jump of `iters * k` rounds, for every number of dispatches. -/
theorem act_jump (iters : UInt32) (k : Nat) (x : UInt32) :
    act (lcgPow (iters.toUInt64 * UInt64.ofNat k)) x = (lcgRound^[iters.toNat])^[k] x := by
  have hwrap : (iters.toUInt64 * UInt64.ofNat k).toNat = iters.toNat * k % 2 ^ 64 := by
    rw [UInt64.toNat_mul, UInt64.toNat_ofNat', UInt32.toNat_toUInt64, Nat.mul_mod_mod]
  rw [act_lcgPow, hwrap, lcgRound_mod, Function.iterate_mul]

section Chase

variable {m : Nat}

/-- `len - 1` for a chain of `2 ^ m` cells. -/
def maskOf (m : Nat) : UInt32 := UInt32.ofNat (2 ^ m - 1)

/-- The masked map a pair stands for. -/
def actMod (mask : UInt32) (p : UInt32 × UInt32) (x : UInt32) : UInt32 := act p x &&& mask

theorem residue_actMod (hm : m ≤ 32) (p : UInt32 × UInt32) (x : UInt32) :
    residue hm (actMod (maskOf m) p x) = residue hm p.1 * residue hm x + residue hm p.2 := by
  unfold actMod act maskOf
  rw [residue_and_mask, map_add, map_mul]

theorem actMod_composeMod (hm : m ≤ 32) (h g : UInt32 × UInt32) (x : UInt32) :
    actMod (maskOf m) (composeMod (maskOf m) h g) x =
      actMod (maskOf m) g (actMod (maskOf m) h x) := by
  apply (and_mask_eq_iff hm).mpr
  rw [act, act, map_add, map_mul, map_add, map_mul, residue_actMod]
  unfold composeMod maskOf
  simp only [residue_and_mask, map_add, map_mul]
  ring

theorem chainStep_eq (hm : m ≤ 32) (x : UInt32) :
    chainStep (maskOf m) x = actMod (maskOf m) (chainCp &&& maskOf m, chainCq &&& maskOf m) x := by
  apply (and_mask_eq_iff hm).mpr
  unfold act maskOf
  simp only [residue_and_mask, map_add, map_mul]
  ring

theorem residue_chainStep (hm : m ≤ 32) (x : UInt32) :
    residue hm (chainStep (maskOf m) x) =
      (chainCp.toNat : ZMod (2 ^ m)) * residue hm x + chainCq.toNat := by
  unfold chainStep maskOf
  rw [residue_and_mask, map_add, map_mul, mul_comm]
  rfl

theorem and_maskOf_chainStep (x : UInt32) :
    chainStep (maskOf m) x &&& maskOf m = chainStep (maskOf m) x := by
  unfold chainStep
  rw [UInt32.and_assoc, UInt32.and_self]

theorem le_maskOf_iff (hm : m ≤ 32) {x : UInt32} : x ≤ maskOf m ↔ x &&& maskOf m = x := by
  have hsize : 2 ^ m ≤ 2 ^ 32 := Nat.pow_le_pow_right Nat.two_pos hm
  have hpos := Nat.two_pow_pos m
  rw [← UInt32.toNat_inj, UInt32.le_iff_toNat_le]
  unfold maskOf
  rw [toNat_and_mask hm, UInt32.toNat_ofNat', Nat.mod_eq_of_lt (by omega)]
  constructor
  · intro h
    exact Nat.mod_eq_of_lt (by omega)
  · intro h
    have := Nat.mod_lt x.toNat hpos
    omega

/-- A map that takes the chain's step at every cell hops along the chain. -/
theorem iterate_eq_chainStep (hm : m ≤ 32) {f : UInt32 → UInt32}
    (hf : ∀ x ≤ maskOf m, f x = chainStep (maskOf m) x) (n : Nat) {x : UInt32}
    (hx : x ≤ maskOf m) : f^[n] x = (chainStep (maskOf m))^[n] x := by
  induction n generalizing x with
  | zero => rw [Function.iterate_zero, Function.iterate_zero]
  | succ n ih =>
    have hinside : chainStep (maskOf m) x ≤ maskOf m :=
      (le_maskOf_iff hm).mpr (and_maskOf_chainStep x)
    rw [Function.iterate_succ_apply, Function.iterate_succ_apply, hf x hx, ih hinside]

/-- The jump of `steps` hops from a masked start. -/
theorem actMod_affinePowMod (hm : m ≤ 32) (n : UInt64) {x : UInt32} (hx : x &&& maskOf m = x) :
    actMod (maskOf m) (affinePowMod n (maskOf m)) x = (chainStep (maskOf m))^[n.toNat] x := by
  have hstep : actMod (maskOf m) (chainCp &&& maskOf m, chainCq &&& maskOf m) =
      chainStep (maskOf m) := by
    funext y
    exact (chainStep_eq hm y).symm
  unfold affinePowMod
  rw [act_squaring (actMod_composeMod hm), hstep]
  have hone : actMod (maskOf m) (1 &&& maskOf m, 0) x = x := by
    conv_rhs => rw [← hx]
    apply (and_mask_eq_iff hm).mpr
    unfold act maskOf
    simp
  rw [hone]

theorem residue_iterate_chainStep (hm : m ≤ 32) (n : Nat) (x : UInt32) :
    residue hm ((chainStep (maskOf m))^[n] x) =
      (fun y : ZMod (2 ^ m) => (chainCp.toNat : ZMod (2 ^ m)) * y + chainCq.toNat)^[n]
        (residue hm x) := by
  induction n generalizing x with
  | zero => rfl
  | succ n ih => rw [Function.iterate_succ_apply, Function.iterate_succ_apply, ih,
      residue_chainStep]

theorem eq_zero_iff_residue (hm : m ≤ 32) {x : UInt32} (hx : x &&& maskOf m = x) :
    x = 0 ↔ residue hm x = 0 := by
  have hmask := and_mask_eq_iff hm (x := x) (y := 0)
  rw [map_zero] at hmask
  rw [← hmask]
  change x = 0 ↔ x &&& maskOf m = 0 &&& maskOf m
  rw [hx, UInt32.zero_and]

/-- The lanes of a chase that end on cell zero, all of them, after `n` hops from their starts. -/
theorem chase_zero_iff (hm : m ≤ 32) (lanes : UInt32) (n : Nat) :
    (∀ i < lanes.toNat,
        (chainStep (maskOf m))^[n] (chainStep (maskOf m) (UInt32.ofNat i)) = 0) ↔
      lanes = 0 ∨ m = 0 ∨ lanes = 1 ∧ 2 ^ m ∣ n + 1 := by
  have hvalue : ∀ x, (chainStep (maskOf m))^[n] (chainStep (maskOf m) x) = 0 ↔
      (chainCp.toNat : ZMod (2 ^ m)) ^ (n + 1) * residue hm x +
        chainCq.toNat * ∑ i ∈ Finset.range (n + 1), (chainCp.toNat : ZMod (2 ^ m)) ^ i = 0 := by
    intro x
    have hmasked : (chainStep (maskOf m))^[n + 1] x &&& maskOf m =
        (chainStep (maskOf m))^[n + 1] x := by
      rw [Function.iterate_succ_apply', and_maskOf_chainStep]
    rw [← Function.iterate_succ_apply, eq_zero_iff_residue hm hmasked, residue_iterate_chainStep,
      iterate_affine]
  have hzero : (chainStep (maskOf m))^[n] (chainStep (maskOf m) 0) = 0 ↔ 2 ^ m ∣ n + 1 := by
    rw [hvalue, map_zero, ← iterate_affine, iterate_affine_zero (by decide) (by decide)]
  constructor
  · intro hall
    by_cases hlanes : lanes.toNat = 0
    · exact .inl (UInt32.toNat_inj.mp hlanes)
    have hfirst := hall 0 (by omega)
    have hdvd := hzero.mp hfirst
    by_cases hmany : lanes.toNat = 1
    · exact .inr (.inr ⟨UInt32.toNat_inj.mp hmany, hdvd⟩)
    · -- Two lanes start apart, and a permutation keeps them apart.
      right; left
      have hsecond := (hvalue _).mp (hall 1 (by omega))
      have hfirst := (hvalue _).mp hfirst
      change _ * residue hm 0 + _ = 0 at hfirst
      change _ * residue hm 1 + _ = 0 at hsecond
      rw [map_zero, mul_zero, zero_add] at hfirst
      rw [map_one, mul_one, hfirst, add_zero, ← Nat.cast_pow, ZMod.natCast_eq_zero_iff] at hsecond
      have hodd : ¬ 2 ∣ chainCp.toNat ^ (n + 1) := by
        intro h
        have := Nat.prime_two.dvd_of_dvd_pow h
        revert this
        decide
      by_contra hm0
      exact hodd ((dvd_pow_self 2 hm0).trans hsecond)
  · rintro (rfl | rfl | ⟨rfl, hdvd⟩) i hi
    · exact absurd hi (by simp)
    · rw [hvalue]
      exact Subsingleton.elim (α := ZMod 1) _ _
    · have hi0 : i = 0 := by
        have : (1 : UInt32).toNat = 1 := rfl
        omega
      subst hi0
      exact hzero.mpr hdvd

end Chase

end Nidavellir.GpuStress

import Mathlib.Algebra.BigOperators.Intervals
import Mathlib.Algebra.Ring.GeomSum
import Mathlib.Data.UInt
import Mathlib.Data.ZMod.Basic
import Mathlib.Logic.Function.Iterate
import Mathlib.Tactic.Ring

namespace Nidavellir.AffinePower

section Squaring

variable {P X : Type*}

/-- The `e`-th power of `base` by repeated squaring, composed onto `result`. -/
def squaring (compose : P → P → P) (e : Nat) (result base : P) : P :=
  if e = 0 then result
  else
    squaring compose (e / 2) (if e % 2 = 1 then compose result base else result)
      (compose base base)
termination_by e
decreasing_by omega

variable {compose : P → P → P} {act : P → X → X}

/-- Where composition composes the actions, squaring reaches the iterate. -/
theorem act_squaring (hact : ∀ h g x, act (compose h g) x = act g (act h x)) (e : Nat)
    (result base : P) (x : X) :
    act (squaring compose e result base) x = (act base)^[e] (act result x) := by
  induction e, result, base using squaring.induct compose with
  | case1 result base =>
    rw [squaring]
    rfl
  | case2 e result base he ih =>
    simp only [dite_eq_ite] at ih
    rw [squaring, if_neg he, ih]
    have hsquare : act (compose base base) = (act base)^[2] := by
      funext y
      exact hact base base y
    rw [hsquare, ← Function.iterate_mul]
    by_cases hodd : e % 2 = 1
    · have hsplit : e = 2 * (e / 2) + 1 := by omega
      rw [if_pos hodd, hact]
      conv_rhs => rw [hsplit, Function.iterate_succ_apply]
    · have hsplit : e = 2 * (e / 2) := by omega
      rw [if_neg hodd]
      conv_rhs => rw [hsplit]

/-- Doubling `n` times makes `2 ^ n` steps of one. -/
theorem act_doubled (hact : ∀ h g x, act (compose h g) x = act g (act h x)) (n : Nat) (base : P)
    (x : X) :
    act ((fun p => compose p p)^[n] base) x = (act base)^[2 ^ n] x := by
  induction n generalizing base with
  | zero => rfl
  | succ n ih =>
    have hsquare : act (compose base base) = (act base)^[2] := by
      funext y
      exact hact base base y
    rw [Function.iterate_succ_apply, ih, hsquare, ← Function.iterate_mul, pow_succ, Nat.mul_comm]

end Squaring

section Iterates

variable {R : Type*} [CommSemiring R]

theorem iterate_affine (a c x : R) (n : Nat) :
    (fun x => a * x + c)^[n] x = a ^ n * x + c * ∑ i ∈ Finset.range n, a ^ i := by
  induction n with
  | zero => simp
  | succ n ih =>
    rw [Function.iterate_succ_apply', ih, geom_sum_succ]
    ring

end Iterates

section Period

variable {a c m n : Nat}

theorem geom_sum_two_mul (a n : Nat) :
    ∑ i ∈ Finset.range (2 * n), a ^ i = (1 + a ^ n) * ∑ i ∈ Finset.range n, a ^ i := by
  rw [two_mul, Finset.sum_range_add, add_mul, one_mul, Finset.mul_sum]
  simp only [pow_add]

theorem pow_mod_four (ha : a % 4 = 1) (n : Nat) : a ^ n % 4 = 1 := by
  simp [Nat.pow_mod, ha]

/-- The geometric sum of a ratio one above a multiple of four has the factors two of its length. -/
theorem two_pow_dvd_geom_sum (ha : a % 4 = 1) (n : Nat) :
    ∀ m, 2 ^ m ∣ ∑ i ∈ Finset.range n, a ^ i ↔ 2 ^ m ∣ n := by
  induction n using Nat.strong_induction_on with
  | _ n ih =>
    intro m
    rcases Nat.eq_zero_or_pos n with rfl | hn
    · simp
    rcases m with _ | m
    · simp
    have hhalf := geom_sum_two_mul a (n / 2)
    have hpow := pow_mod_four ha (n / 2)
    by_cases heven : n % 2 = 0
    · have hsplit : n = 2 * (n / 2) := by omega
      have hodd : (1 + a ^ (n / 2)) / 2 % 2 = 1 := by omega
      have hfactor : 1 + a ^ (n / 2) = 2 * ((1 + a ^ (n / 2)) / 2) := by omega
      have hcop : Nat.Coprime (2 ^ m) ((1 + a ^ (n / 2)) / 2) :=
        Nat.Coprime.pow_left _ ((Nat.coprime_two_left).mpr (Nat.odd_iff.mpr hodd))
      rw [hsplit, hhalf, hfactor, mul_assoc, pow_succ', Nat.mul_dvd_mul_iff_left Nat.two_pos,
        Nat.mul_dvd_mul_iff_left Nat.two_pos, hcop.dvd_mul_left, ih (n / 2) (by omega)]
    · -- An odd number of odd terms is odd, and so is the length.
      have hsplit : n = 2 * (n / 2) + 1 := by omega
      have hsum : (∑ i ∈ Finset.range n, a ^ i) % 2 = 1 := by
        rw [hsplit, geom_sum_succ, hhalf]
        have : (1 + a ^ (n / 2)) % 2 = 0 := by omega
        rw [Nat.add_mod, Nat.mul_mod, Nat.mul_mod (1 + a ^ (n / 2)), this]
        simp
      have htwo : 2 ∣ 2 ^ (m + 1) := ⟨2 ^ m, pow_succ' 2 m⟩
      constructor
      · intro h
        have := htwo.trans h
        omega
      · intro h
        have := htwo.trans h
        omega

theorem two_pow_dvd_mul_of_odd (hc : c % 2 = 1) : 2 ^ m ∣ c * n ↔ 2 ^ m ∣ n := by
  have hcop : Nat.Coprime (2 ^ m) c :=
    Nat.Coprime.pow_left _ (Nat.coprime_two_left.mpr (Nat.odd_iff.mpr hc))
  exact hcop.dvd_mul_left

/-- A congruential generator of full period meets its start again after a multiple of it only. -/
theorem iterate_affine_zero (ha : a % 4 = 1) (hc : c % 2 = 1) :
    (fun x : ZMod (2 ^ m) => (a : ZMod (2 ^ m)) * x + c)^[n] 0 = 0 ↔ 2 ^ m ∣ n := by
  rw [iterate_affine, mul_zero, zero_add]
  have hcast : (c : ZMod (2 ^ m)) * ∑ i ∈ Finset.range n, (a : ZMod (2 ^ m)) ^ i =
      ((c * ∑ i ∈ Finset.range n, a ^ i : Nat) : ZMod (2 ^ m)) := by
    push_cast
    rfl
  rw [hcast, ZMod.natCast_eq_zero_iff, two_pow_dvd_mul_of_odd hc, two_pow_dvd_geom_sum ha]

end Period

section Residue

open scoped UInt32.CommRing

variable {m : Nat}

theorem natCast_mod_two_pow (hm : m ≤ 32) (n : Nat) :
    ((n % 2 ^ 32 : Nat) : ZMod (2 ^ m)) = n := by
  have hdvd : 2 ^ m ∣ 2 ^ 32 := pow_dvd_pow 2 hm
  rw [← ZMod.natCast_mod (n % 2 ^ 32), Nat.mod_mod_of_dvd _ hdvd, ZMod.natCast_mod]

/-- A word modulo a power of two. -/
def residue (hm : m ≤ 32) : UInt32 →+* ZMod (2 ^ m) where
  toFun x := x.toNat
  map_zero' := by simp
  map_one' := by simp
  map_add' x y := by rw [UInt32.toNat_add, natCast_mod_two_pow hm, Nat.cast_add]
  map_mul' x y := by rw [UInt32.toNat_mul, natCast_mod_two_pow hm, Nat.cast_mul]

theorem residue_apply (hm : m ≤ 32) (x : UInt32) : residue hm x = x.toNat := rfl

theorem toNat_and_mask (hm : m ≤ 32) (x : UInt32) :
    (x &&& UInt32.ofNat (2 ^ m - 1)).toNat = x.toNat % 2 ^ m := by
  have hle : 2 ^ m ≤ 2 ^ 32 := Nat.pow_le_pow_right Nat.two_pos hm
  have hpos := Nat.two_pow_pos m
  rw [UInt32.toNat_and, UInt32.toNat_ofNat', Nat.mod_eq_of_lt (by omega),
    Nat.and_two_pow_sub_one_eq_mod]

@[simp] theorem residue_and_mask (hm : m ≤ 32) (x : UInt32) :
    residue hm (x &&& UInt32.ofNat (2 ^ m - 1)) = residue hm x := by
  rw [residue_apply, residue_apply, toNat_and_mask hm, ZMod.natCast_mod]

theorem and_mask_eq_iff (hm : m ≤ 32) {x y : UInt32} :
    x &&& UInt32.ofNat (2 ^ m - 1) = y &&& UInt32.ofNat (2 ^ m - 1) ↔
      residue hm x = residue hm y := by
  rw [← UInt32.toNat_inj, toNat_and_mask hm, toNat_and_mask hm, residue_apply, residue_apply,
    ZMod.natCast_eq_natCast_iff']

end Residue

end Nidavellir.AffinePower

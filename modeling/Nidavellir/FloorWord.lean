import Nidavellir.FieldGuard

namespace Nidavellir

open Envelope

theorem EnvelopeOf.mem_iff {pts env : List (Int × Int)} {worst : Option Int}
    (h : EnvelopeOf pts env worst) (p : Int × Int) :
    p ∈ env ↔ (∃ v, (p.1, v) ∈ pts) ∧ IsGreatest (valuesUpTo (pointsOf pts) p.1) p.2 := by
  constructor
  · intro hp
    exact ⟨h.isKey p hp, h.greatest p hp⟩
  · rintro ⟨⟨v, hv⟩, hgreatest⟩
    obtain ⟨w, hw⟩ := h.covers (p.1, v) hv
    have hvalue : p.2 = w := hgreatest.unique (h.greatest (p.1, w) hw)
    rw [← hvalue] at hw
    exact hw

/-- The envelope depends on the points alone, not on their order or their repetitions. -/
theorem envelope_congr {pts pts' : List (Int × Int)} (hmem : ∀ p, p ∈ pts ↔ p ∈ pts') :
    envelope pts = envelope pts' := by
  obtain ⟨worst, h⟩ := envelopeOf_envelope pts
  obtain ⟨worst', h'⟩ := envelopeOf_envelope pts'
  have hcongr := h.congr hmem
  have : Std.Irrefl fun p q : Int × Int => p.1 < q.1 := ⟨fun p => lt_irrefl p.1⟩
  have : Std.Antisymm fun p q : Int × Int => p.1 < q.1 :=
    ⟨fun p q hpq hqp => absurd hpq (lt_asymm hqp)⟩
  exact h.keys.eq_of_mem_iff h'.keys fun p => (hcongr.mem_iff p).trans (h'.mem_iff p).symm

namespace Word

/-- The value of an `i64` operation in a release build, where it wraps. -/
def i64 (n : Int) : Int := n.bmod (2 ^ 64)

/-- `v0 + ((v1 - v0) * (clock - c0) + (c1 - c0) - 1) / (c1 - c0)`. -/
def chord (clock : Int) (p q : Int × Int) : Int :=
  i64 (p.2 +
    (i64 (i64 (i64 (i64 (q.2 - p.2) * i64 (clock - p.1)) + i64 (q.1 - p.1)) - 1)).tdiv
      (i64 (q.1 - p.1)))

/-- The walk over `env.windows(2)` of both functions. -/
def floorWalk (clock floor : Int) (env : List (Int × Int)) : Int :=
  walkBy (chord clock) clock floor env

def floorEnvelope (pts : List (Int × Int)) (clock : Int) : Option Int :=
  match envelope pts with
  | [] => none
  | (c0, v0) :: rest =>
    if clock < c0 then none else some (floorWalk clock v0 ((c0, v0) :: rest))

/-- `u32::try_from(floor).ok()`. -/
def u32TryFrom (n : Int) : Option UInt32 :=
  if 0 ≤ n ∧ n < 2 ^ 32 then some (UInt32.ofNat n.toNat) else none

def toPoint (p : UInt32 × UInt32) : Int × Int := (p.1.toNat, p.2.toNat)

def vfFloorEnvelope (pairs : List (UInt32 × UInt32)) (clockMhz : UInt32) : Option UInt32 :=
  (floorEnvelope (pairs.map toPoint) clockMhz.toNat).bind u32TryFrom

def fieldVfFloorMv (record : SafeLoopRecord) (clockMhz : Int) : Option Int :=
  floorEnvelope (fieldPairs record) clockMhz

def IsU32 (n : Int) : Prop := 0 ≤ n ∧ n < 2 ^ 32

theorem isU32_toNat (n : UInt32) : IsU32 n.toNat := by
  have := n.toNat_lt
  unfold IsU32
  omega

theorem u32TryFrom_map {n : Int} (h : IsU32 n) :
    (u32TryFrom n).map (fun u => (u.toNat : Int)) = some n := by
  obtain ⟨hpos, hlt⟩ := h
  have hsmall : n.toNat < 2 ^ 32 := by omega
  unfold u32TryFrom
  rw [if_pos ⟨hpos, hlt⟩, Option.map_some, UInt32.toNat_ofNat', Nat.mod_eq_of_lt hsmall,
    Int.toNat_of_nonneg hpos]

theorem u32TryFrom_eq_none {n : Int} (h : ¬ IsU32 n) : u32TryFrom n = none := if_neg h

section Chord

variable {x y a b clock : Int}

theorem i64_of_fits {n : Int} (h : -2 ^ 63 ≤ n) (h' : n < 2 ^ 63) : i64 n = n :=
  Int.bmod_eq_of_le (by omega) (by omega)

theorem i64_i64_add (m n : Int) : i64 (i64 m + n) = i64 (m + n) := Int.bmod_add_bmod

/-- From `2 ^ 63` on the wrapped numerator is negative. -/
theorem i64_of_overflow {n : Int} (h : 2 ^ 63 ≤ n) (h' : n < 2 ^ 64) : i64 n = n - 2 ^ 64 := by
  have hshift : i64 n = i64 (n - 2 ^ 64) := (Int.sub_bmod_right n (2 ^ 64)).symm
  rw [hshift]
  exact i64_of_fits (by omega) (by omega)

theorem chord_eq (hx : IsU32 x) (hy : IsU32 y) (ha : IsU32 a) (hb : IsU32 b)
    (hclock : IsU32 clock) :
    chord clock (x, a) (y, b) =
      i64 (a + (i64 ((b - a) * (clock - x) + (y - x) - 1)).tdiv (y - x)) := by
  unfold IsU32 at *
  unfold chord
  simp only
  rw [i64_of_fits (n := b - a) (by omega) (by omega),
    i64_of_fits (n := clock - x) (by omega) (by omega),
    i64_of_fits (n := y - x) (by omega) (by omega), i64_i64_add, sub_eq_add_neg _ (1 : Int),
    i64_i64_add, ← sub_eq_add_neg]

/-- The numerator fits: nothing wraps, and the chord ends between its two voltages. -/
theorem chord_of_fits (hx : IsU32 x) (hy : IsU32 y) (ha : IsU32 a) (hb : IsU32 b)
    (hxc : x < clock) (hcy : clock < y) (hab : a ≤ b)
    (hfits : (b - a) * (clock - x) + (y - x) - 1 < 2 ^ 63) :
    chord clock (x, a) (y, b) =
        a + ((b - a) * (clock - x) + (y - x) - 1).tdiv (y - x) ∧
      IsU32 (chord clock (x, a) (y, b)) := by
  have hclock : IsU32 clock := ⟨hx.1.trans hxc.le, hcy.trans hy.2⟩
  have hd : 0 < y - x := by omega
  have hrise : (b - a) * (clock - x) ≤ (b - a) * (y - x) :=
    mul_le_mul_of_nonneg_left (by omega) (by omega)
  have hnonneg : 0 ≤ (b - a) * (clock - x) := mul_nonneg (by omega) (by omega)
  rw [chord_eq hx hy ha hb hclock, i64_of_fits (by omega) hfits,
    Int.tdiv_eq_ediv_of_nonneg (by omega)]
  have hupper : ((b - a) * (clock - x) + (y - x) - 1) / (y - x) < b - a + 1 := by
    apply Int.ediv_lt_of_lt_mul hd
    have hsplit : (b - a + 1) * (y - x) = (b - a) * (y - x) + (y - x) := by ring
    omega
  have hlower : 0 ≤ ((b - a) * (clock - x) + (y - x) - 1) / (y - x) :=
    Int.ediv_nonneg (by omega) hd.le
  unfold IsU32 at *
  rw [i64_of_fits (by omega) (by omega)]
  exact ⟨rfl, by omega, by omega⟩

/-- The numerator does not fit: the chord ends below zero. -/
theorem chord_of_overflow (hx : IsU32 x) (hy : IsU32 y) (ha : IsU32 a) (hb : IsU32 b)
    (hxc : x < clock) (hcy : clock < y) (hab : a ≤ b)
    (hover : 2 ^ 63 ≤ (b - a) * (clock - x) + (y - x) - 1) :
    chord clock (x, a) (y, b) < 0 := by
  have hclock : IsU32 clock := ⟨hx.1.trans hxc.le, hcy.trans hy.2⟩
  have hd : 0 < y - x := by omega
  rw [chord_eq hx hy ha hb hclock]
  unfold IsU32 at *
  have hrise : (b - a) * (clock - x) ≤ (b - a) * (y - x - 1) :=
    mul_le_mul_of_nonneg_left (by omega) (by omega)
  have hsquare : b * (y - x) ≤ (2 ^ 32 - 1) * (y - x) :=
    mul_le_mul_of_nonneg_right (by omega) hd.le
  have hsplit : (b - a) * (y - x - 1) + a * (y - x) = b * (y - x) - (b - a) := by ring
  -- What is left of the word holds the lower voltage and one more, times the width.
  have hleft : (a + 1) * (y - x) ≤ 2 ^ 64 - ((b - a) * (clock - x) + (y - x) - 1) := by
    have hone : (a + 1) * (y - x) = a * (y - x) + (y - x) := by ring
    omega
  generalize (b - a) * (clock - x) + (y - x) - 1 = n at hover hleft ⊢
  have hpos : 0 ≤ (a + 1) * (y - x) := mul_nonneg (by omega) hd.le
  have hneg : n - 2 ^ 64 = -(2 ^ 64 - n) := by ring
  have hquot : a + 1 ≤ (2 ^ 64 - n) / (y - x) := (Int.le_ediv_iff_mul_le hd).mpr hleft
  have hsmall : (2 ^ 64 - n) / (y - x) ≤ 2 ^ 64 - n := Int.ediv_le_self _ (by omega)
  rw [i64_of_overflow hover (by omega), hneg, Int.neg_tdiv,
    Int.tdiv_eq_ediv_of_nonneg (by omega), i64_of_fits (by omega) (by omega)]
  omega

end Chord

/-- Between the neighbours of a clock, whose running maxima are `a` and `b`, the numerator of the
interpolation stays below `2 ^ 63`. -/
def NumeratorFits (S : Set (Int × Int)) (clock : Int) : Prop :=
  ∀ x y a b, IsGreatest (keysUpTo S clock) x → IsLeast (keysAfter S clock) y →
    IsGreatest (valuesUpTo S clock) a → IsGreatest (valuesUpTo S y) b →
    (b - a) * (clock - x) + (y - x) - 1 < 2 ^ 63

section Floor

variable {pts : List (Int × Int)} {clock : Int}

def ArePairs (pts : List (Int × Int)) : Prop := ∀ p ∈ pts, IsU32 p.1 ∧ IsU32 p.2

theorem ArePairs.value (hpts : ArePairs pts) {key a : Int}
    (ha : IsGreatest (valuesUpTo (pointsOf pts) key) a) : IsU32 a := by
  obtain ⟨⟨z, -, hz⟩, -⟩ := ha
  exact (hpts (z, a) hz).2

theorem numeratorFits_of_no_key (hnone : ∀ p ∈ pts, clock < p.1) :
    NumeratorFits (pointsOf pts) clock := by
  intro x y a b hx
  obtain ⟨⟨hle, v, hv⟩, -⟩ := hx
  exact absurd (hnone (x, v) hv) (not_lt.mpr hle)

/-- The floor that the walk ends on is a `u32` where the numerator fits, and negative elsewhere. -/
theorem WalkStops.isU32_iff {env : List (Int × Int)} {worst : Option Int} {value : Int}
    (hpts : ArePairs pts) (h : EnvelopeOf pts env worst)
    (hstops : WalkStops (chord clock) clock env value) :
    IsU32 value ↔ NumeratorFits (pointsOf pts) clock := by
  cases hstops with
  | last init _ hx =>
    have hgreatest := h.greatest (_, value) (List.mem_append_right _ List.mem_cons_self)
    refine iff_of_true (hpts.value hgreatest) ?_
    intro x' y a b _ hy
    obtain ⟨⟨hlt, v, hv⟩, -⟩ := hy
    have hle := h.key_le_last (List.getLast?_concat ..) hv
    simp only at hle hlt
    omega
  | exact init _ b tail hy =>
    have hgreatest := h.greatest (clock, value) (List.mem_append_right _ List.mem_cons_self)
    refine iff_of_true (hpts.value hgreatest) ?_
    intro x' y' a' b' hx' hy' _ _
    have hkey := h.last_key le_rfl (h.right_of hy)
    obtain rfl := hx'.unique hkey
    obtain ⟨⟨hlt, v, hv⟩, -⟩ := hy'
    obtain ⟨w, hw⟩ := h.isKey (x', value) (List.mem_append_right _ List.mem_cons_self)
    have hy32 := (hpts _ hv).1
    have hx32 := (hpts _ hw).1
    unfold IsU32 at hy32 hx32
    simp only [sub_self, mul_zero, zero_add] at hy32 hx32 ⊢
    omega
  | @between init x a y b tail hx hy =>
    have htail := h.right_of hy
    have hkey := h.last_key hx.le htail
    have hnext := h.next_key hx.le hy
    have ha := h.last_value hx.le htail
    have hb := h.greatest (y, b) (by simp)
    have hab := worst_mono Set.Subset.rfl hy.le ha hb
    obtain ⟨w, hw⟩ := hkey.1.2
    obtain ⟨v, hv⟩ := hnext.1.2
    have hx32 : IsU32 x := (hpts _ hw).1
    have hy32 : IsU32 y := (hpts _ hv).1
    have ha32 := hpts.value ha
    have hb32 : IsU32 b := hpts.value hb
    constructor
    · intro hvalue x' y' a' b' hx' hy' ha' hb'
      obtain rfl := hx'.unique hkey
      obtain rfl := hy'.unique hnext
      obtain rfl := ha'.unique ha
      obtain rfl := hb'.unique hb
      by_contra hover
      have := chord_of_overflow hx32 hy32 ha32 hb32 hx hy hab (not_lt.mp hover)
      unfold IsU32 at hvalue
      omega
    · intro hfits
      exact (chord_of_fits hx32 hy32 ha32 hb32 hx hy hab (hfits x y a b hkey hnext ha hb)).2

theorem floorEnvelope_isU32_iff (hpts : ArePairs pts) :
    (∀ f, floorEnvelope pts clock = some f → IsU32 f) ↔
      NumeratorFits (pointsOf pts) clock := by
  obtain ⟨worst, h⟩ := envelopeOf_envelope pts
  unfold floorEnvelope
  split
  next hnil =>
    refine iff_of_true (by simp) (numeratorFits_of_no_key ?_)
    intro p hp
    obtain ⟨w, hw⟩ := h.covers p hp
    rw [hnil] at hw
    cases hw
  next c0 v0 rest hcons =>
    rw [hcons] at h
    split
    next hlt =>
      refine iff_of_true (by simp) (numeratorFits_of_no_key ?_)
      intro p hp
      obtain ⟨w, hw⟩ := h.covers p hp
      rcases List.mem_cons.mp hw with heq | hw
      · exact (congrArg Prod.fst heq) ▸ hlt
      · exact hlt.trans ((List.pairwise_cons.mp h.keys).1 (p.1, w) hw)
    next hge =>
      have hstops := walkBy_stops (chord clock) rest h.keys (not_lt.mp hge)
      rw [← WalkStops.isU32_iff hpts h hstops]
      constructor
      · intro hall
        exact hall _ rfl
      · rintro hvalue f ⟨rfl⟩
        exact hvalue

theorem floorEnvelope_eq_of_fits (hpts : ArePairs pts)
    (hfits : NumeratorFits (pointsOf pts) clock) :
    floorEnvelope pts clock = Nidavellir.floorEnvelope pts clock := by
  obtain ⟨worst, h⟩ := envelopeOf_envelope pts
  have hwalk : ∀ floor, floorWalk clock floor (envelope pts) =
      Nidavellir.floorWalk clock floor (envelope pts) := by
    intro floor
    unfold floorWalk
    rw [floorWalk_eq_walkBy]
    apply walkBy_congr
    rintro init ⟨x, a⟩ ⟨y, b⟩ tail heq hx hy
    rw [heq] at h
    have htail : ∀ r ∈ (y, b) :: tail, clock < r.1 := h.right_of hy
    have hkey := h.last_key hx.le htail
    have hnext := h.next_key hx.le hy
    have ha := h.last_value hx.le htail
    have hb := h.greatest (y, b) (by simp)
    obtain ⟨w, hw⟩ := hkey.1.2
    obtain ⟨v, hv⟩ := hnext.1.2
    exact (chord_of_fits (hpts _ hw).1 (hpts _ hv).1 (hpts.value ha) (hpts.value hb) hx hy
      (worst_mono Set.Subset.rfl hy.le ha hb) (hfits x y a b hkey hnext ha hb)).1
  unfold floorEnvelope Nidavellir.floorEnvelope
  cases henv : envelope pts with
  | nil => rfl
  | cons p rest =>
    rw [henv] at hwalk
    simp only [hwalk]

end Floor

/-- Both floors are `none` or the same number just where the numerator of the interpolation fits;
elsewhere the ledger has none and the record a negative one. -/
theorem floors_agree_iff (record : SafeLoopRecord) (pairs : List (UInt32 × UInt32))
    (clockMhz : UInt32) (hrecord : ∀ p, p ∈ fieldPairs record ↔ p ∈ pairs.map toPoint) :
    fieldVfFloorMv record clockMhz.toNat =
        (vfFloorEnvelope pairs clockMhz).map (fun floor => (floor.toNat : Int)) ↔
      NumeratorFits (pointsOf (pairs.map toPoint)) clockMhz.toNat := by
  have hpts : ArePairs (pairs.map toPoint) := by
    intro p hp
    obtain ⟨pair, -, rfl⟩ := List.mem_map.mp hp
    exact ⟨isU32_toNat pair.1, isU32_toNat pair.2⟩
  have hfloor : fieldVfFloorMv record clockMhz.toNat =
      floorEnvelope (pairs.map toPoint) clockMhz.toNat := by
    unfold fieldVfFloorMv floorEnvelope
    rw [envelope_congr hrecord]
  rw [← floorEnvelope_isU32_iff hpts, hfloor]
  unfold vfFloorEnvelope
  cases floorEnvelope (pairs.map toPoint) clockMhz.toNat with
  | none => simp
  | some f =>
    rw [Option.bind_some]
    by_cases hf : IsU32 f
    · rw [u32TryFrom_map hf]
      refine iff_of_true rfl ?_
      rintro g ⟨rfl⟩
      exact hf
    · rw [u32TryFrom_eq_none hf]
      exact iff_of_false (by simp) fun hall => hf (hall f rfl)

/-- A record with a region around each of two condemned pairs. -/
def condemned1815 : SafeLoopRecord where
  blacklist := [.around (pairIntent 1890 900) defaultBlacklistRadius,
    .around (pairIntent 1815 862) defaultBlacklistRadius]

theorem floors_agree_iff_1850 :
    fieldVfFloorMv condemned1815 (1850 : UInt32).toNat =
        (vfFloorEnvelope [(1815, 862), (1890, 900)] 1850).map (fun floor => (floor.toNat : Int)) ↔
      NumeratorFits (pointsOf ([(1815, 862), (1890, 900)].map toPoint)) (1850 : UInt32).toNat := by
  have hperm : (fieldPairs condemned1815).Perm ([(1815, 862), (1890, 900)].map toPoint) := by
    decide +kernel
  exact floors_agree_iff condemned1815 _ 1850 fun _ => hperm.mem_iff

/-- Two condemned pairs at the ends of a `u32`: one clock below the second the product of the
interpolation wraps. -/
theorem floors_differ :
    ¬ ∀ (record : SafeLoopRecord) (pairs : List (UInt32 × UInt32)) (clockMhz : UInt32),
      (fieldPairs record).Perm (pairs.map toPoint) →
        fieldVfFloorMv record clockMhz.toNat =
          (vfFloorEnvelope pairs clockMhz).map (fun floor => (floor.toNat : Int)) := by
  intro h
  let record : SafeLoopRecord :=
    { blacklist := [.around (pairIntent 0 0) defaultBlacklistRadius,
        .around (pairIntent 4294967295 4294967295) defaultBlacklistRadius] }
  have hsame := h record [(0, 0), (4294967295, 4294967295)] 4294967294 (by decide +kernel)
  revert hsame
  decide +kernel

end Word

end Nidavellir

import Mathlib.Order.Bounds.Basic
import Mathlib.Algebra.Order.Ring.Defs
import Mathlib.Data.Set.Insert
import Mathlib.Tactic.Ring
import Mathlib.Tactic.LinearCombination

namespace Envelope

section Keys

variable {R : Type*} [LinearOrder R]

/-- The values of the points at or left of `c`. -/
def valuesUpTo (S : Set (R × R)) (c : R) : Set R := {v | ∃ x ≤ c, (x, v) ∈ S}

def keysUpTo (S : Set (R × R)) (c : R) : Set R := {x | x ≤ c ∧ ∃ v, (x, v) ∈ S}

def keysAfter (S : Set (R × R)) (c : R) : Set R := {y | c < y ∧ ∃ v, (y, v) ∈ S}

theorem valuesUpTo_mono {S T : Set (R × R)} {c d : R} (hS : S ⊆ T) (hc : c ≤ d) :
    valuesUpTo S c ⊆ valuesUpTo T d := by
  intro v hv
  obtain ⟨x, hx, hv⟩ := hv
  exact ⟨x, hx.trans hc, hS hv⟩

theorem worst_mono {S T : Set (R × R)} {c d a b : R} (hS : S ⊆ T) (hc : c ≤ d)
    (ha : IsGreatest (valuesUpTo S c) a) (hb : IsGreatest (valuesUpTo T d) b) : a ≤ b :=
  hb.2 (valuesUpTo_mono hS hc ha.1)

/-- No key lies strictly between the last key up to `c` and the first key after it. -/
theorem key_outside_gap {S : Set (R × R)} {c x y z v : R} (hx : IsGreatest (keysUpTo S c) x)
    (hy : IsLeast (keysAfter S c) y) (hz : (z, v) ∈ S) : z ≤ x ∨ y ≤ z := by
  rcases le_or_gt z c with hzc | hzc
  · exact Or.inl (hx.2 ⟨hzc, v, hz⟩)
  · exact Or.inr (hy.2 ⟨hzc, v, hz⟩)

theorem keysUpTo_gap {S : Set (R × R)} {c d x y : R} (hx : IsGreatest (keysUpTo S c) x)
    (hy : IsLeast (keysAfter S c) y) (hxd : x ≤ d) (hdy : d < y) :
    IsGreatest (keysUpTo S d) x := by
  refine ⟨⟨hxd, hx.1.2⟩, ?_⟩
  intro z hz
  obtain ⟨hzd, v, hz⟩ := hz
  exact (key_outside_gap hx hy hz).resolve_right (not_le.mpr (hzd.trans_lt hdy))

theorem keysAfter_gap {S : Set (R × R)} {c d x y : R} (hx : IsGreatest (keysUpTo S c) x)
    (hy : IsLeast (keysAfter S c) y) (hxd : x ≤ d) (hdy : d < y) :
    IsLeast (keysAfter S d) y := by
  refine ⟨⟨hdy, hy.1.2⟩, ?_⟩
  intro z hz
  obtain ⟨hzd, v, hz⟩ := hz
  exact (key_outside_gap hx hy hz).resolve_left (not_le.mpr (hxd.trans_lt hzd))

theorem valuesUpTo_gap {S : Set (R × R)} {c d x y a : R} (hx : IsGreatest (keysUpTo S c) x)
    (hy : IsLeast (keysAfter S c) y) (ha : IsGreatest (valuesUpTo S c) a)
    (hxd : x ≤ d) (hdy : d < y) : IsGreatest (valuesUpTo S d) a := by
  obtain ⟨z, hzc, hz⟩ := ha.1
  refine ⟨⟨z, (hx.2 ⟨hzc, a, hz⟩).trans hxd, hz⟩, ?_⟩
  intro v hv
  obtain ⟨w, hwd, hw⟩ := hv
  have hwx := (key_outside_gap hx hy hw).resolve_right (not_le.mpr (hwd.trans_lt hdy))
  exact ha.2 ⟨w, hwx.trans hx.1.1, hw⟩

end Keys

section Chord

variable {R : Type*} [CommRing R] [LinearOrder R]

/-- The point `(c, f)` lies on or above the line through `p` and `q`, stated
without a division. -/
def OnOrAbove (p q : R × R) (c f : R) : Prop :=
  (q.2 - p.2) * (c - p.1) ≤ (f - p.2) * (q.1 - p.1)

/-- The floor of `S` at `c`: the running maximum of the values, joined by chords between
neighbouring keys and rounded up to the ring, flat after the last key. -/
inductive IsFloor (S : Set (R × R)) (c : R) : R → Prop
  | flat {w} : IsGreatest (valuesUpTo S c) w → keysAfter S c = ∅ → IsFloor S c w
  | chord {x y a b f} : IsGreatest (keysUpTo S c) x → IsLeast (keysAfter S c) y →
      IsGreatest (valuesUpTo S c) a → IsGreatest (valuesUpTo S y) b →
      IsLeast {g | OnOrAbove (x, a) (y, b) c g} f → IsFloor S c f

theorem IsFloor.unique {S : Set (R × R)} {c f g : R} (hf : IsFloor S c f)
    (hg : IsFloor S c g) : f = g := by
  cases hf with
  | flat hv hn =>
    cases hg with
    | flat hv' hn' => exact hv.unique hv'
    | chord hx hy ha hb hl => exact absurd hy.1 (by simp [hn])
  | @chord x y a b f hx hy ha hb hl =>
    cases hg with
    | flat hv' hn' => exact absurd hy.1 (by simp [hn'])
    | @chord x' y' a' b' g hx' hy' ha' hb' hl' =>
      obtain rfl := hx.unique hx'
      obtain rfl := hy.unique hy'
      obtain rfl := ha.unique ha'
      obtain rfl := hb.unique hb'
      exact hl.unique hl'

variable [IsStrictOrderedRing R]

theorem onOrAbove_left_iff {p q : R × R} {f : R} (h : p.1 < q.1) :
    OnOrAbove p q p.1 f ↔ p.2 ≤ f := by
  have hpos : 0 < q.1 - p.1 := sub_pos.mpr h
  simp only [OnOrAbove, sub_self, mul_zero]
  constructor
  · intro hf
    exact sub_nonneg.mp (nonneg_of_mul_nonneg_left hf hpos)
  · intro hf
    exact mul_nonneg (sub_nonneg.mpr hf) hpos.le

theorem onOrAbove_right_iff {p q : R × R} {f : R} (h : p.1 < q.1) :
    OnOrAbove p q q.1 f ↔ q.2 ≤ f := by
  have hpos : 0 < q.1 - p.1 := sub_pos.mpr h
  simp only [OnOrAbove, mul_le_mul_iff_of_pos_right hpos, sub_le_sub_iff_right]

theorem OnOrAbove.mono {p q : R × R} {c f g : R} (h : p.1 < q.1)
    (hf : OnOrAbove p q c f) (hfg : f ≤ g) : OnOrAbove p q c g := by
  have hpos : 0 ≤ q.1 - p.1 := (sub_pos.mpr h).le
  exact le_trans hf (mul_le_mul_of_nonneg_right (sub_le_sub_right hfg p.2) hpos)

/-- On a rising line a point to the right of `p` is at least as high as `p`. -/
theorem OnOrAbove.left_le {p q : R × R} {c f : R} (h : p.1 < q.1) (hrise : p.2 ≤ q.2)
    (hc : p.1 ≤ c) (hf : OnOrAbove p q c f) : p.2 ≤ f := by
  have hpos : 0 < q.1 - p.1 := sub_pos.mpr h
  have hnum : 0 ≤ (q.2 - p.2) * (c - p.1) :=
    mul_nonneg (sub_nonneg.mpr hrise) (sub_nonneg.mpr hc)
  exact sub_nonneg.mp (nonneg_of_mul_nonneg_left (le_trans hnum hf) hpos)

/-- On a rising line a height that reaches it at one key reaches it at every smaller key. -/
theorem OnOrAbove.anti_key {p q : R × R} {c d f : R} (hrise : p.2 ≤ q.2) (hcd : c ≤ d)
    (hf : OnOrAbove p q d f) : OnOrAbove p q c f := by
  have hslope : (q.2 - p.2) * (c - p.1) ≤ (q.2 - p.2) * (d - p.1) :=
    mul_le_mul_of_nonneg_left (sub_le_sub_right hcd p.1) (sub_nonneg.mpr hrise)
  exact le_trans hslope hf

/-- A chord whose two ends lie on or above a line lies on or above it between them. -/
theorem OnOrAbove.of_chord {p q r s : R × R} {c f : R} (h : p.1 < q.1) (hrs : r.1 < s.1)
    (hl : r.1 ≤ c) (hr : c ≤ s.1) (hp : OnOrAbove p q r.1 r.2)
    (hq : OnOrAbove p q s.1 s.2) (hf : OnOrAbove r s c f) : OnOrAbove p q c f := by
  have hpos : 0 < q.1 - p.1 := sub_pos.mpr h
  have hleft := mul_le_mul_of_nonneg_right hp (sub_nonneg.mpr hr)
  have hright := mul_le_mul_of_nonneg_right hq (sub_nonneg.mpr hl)
  have htop := mul_le_mul_of_nonneg_right hf hpos.le
  have hscaled : (q.2 - p.2) * (c - p.1) * (s.1 - r.1) ≤
      (f - p.2) * (q.1 - p.1) * (s.1 - r.1) := by
    linear_combination hleft + hright + htop
  exact le_of_mul_le_mul_right hscaled (sub_pos.mpr hrs)

/-- The floor never undercuts the running maximum. -/
theorem IsFloor.exists_worst_le {S : Set (R × R)} {c f : R} (h : IsFloor S c f) :
    ∃ w, IsGreatest (valuesUpTo S c) w ∧ w ≤ f := by
  cases h with
  | flat hv hn => exact ⟨f, hv, le_rfl⟩
  | @chord x y a b f hx hy ha hb hf =>
    have hxy : x < y := lt_of_le_of_lt hx.1.1 hy.1.1
    have hrise : a ≤ b := worst_mono Set.Subset.rfl hy.1.1.le ha hb
    exact ⟨a, ha, OnOrAbove.left_le (p := (x, a)) hxy hrise hx.1.1 hf.1⟩

/-- At a key the floor is the running maximum. -/
theorem IsFloor.at_key {S : Set (R × R)} {c v f : R} (hc : (c, v) ∈ S) (h : IsFloor S c f) :
    IsGreatest (valuesUpTo S c) f := by
  cases h with
  | flat hv hn => exact hv
  | @chord x y a b f hx hy ha hb hf =>
    have hxy : x < y := lt_of_le_of_lt hx.1.1 hy.1.1
    obtain rfl : x = c := le_antisymm hx.1.1 (hx.2 ⟨le_rfl, v, hc⟩)
    have hleast : IsLeast {g | OnOrAbove (x, a) (y, b) x g} a :=
      ⟨(onOrAbove_left_iff (p := (x, a)) hxy).mpr le_rfl,
        fun g hg => (onOrAbove_left_iff (p := (x, a)) hxy).mp hg⟩
    rwa [hf.unique hleast]

/-- The floor never falls as the key grows. -/
theorem IsFloor.mono_key {S : Set (R × R)} {c d f g : R} (hcd : c ≤ d) (hf : IsFloor S c f)
    (hg : IsFloor S d g) : f ≤ g := by
  obtain ⟨w, hw, hwg⟩ := hg.exists_worst_le
  cases hf with
  | flat hv hn => exact (worst_mono Set.Subset.rfl hcd hv hw).trans hwg
  | @chord x y a b f hx hy ha hb hl =>
    have hxy : x < y := lt_of_le_of_lt hx.1.1 hy.1.1
    have hrise : a ≤ b := worst_mono Set.Subset.rfl hy.1.1.le ha hb
    rcases le_or_gt y d with hyd | hdy
    · have hend : OnOrAbove (x, a) (y, b) y b :=
        (onOrAbove_right_iff (p := (x, a)) (q := (y, b)) hxy).mpr le_rfl
      have hfb : f ≤ b := hl.2 (hend.anti_key hrise hy.1.1.le)
      exact hfb.trans ((worst_mono Set.Subset.rfl hyd hb hw).trans hwg)
    · -- both keys lie in the gap between `x` and `y`, so the two floors share one chord
      have hxd : x ≤ d := hx.1.1.trans hcd
      have hy' := keysAfter_gap hx hy hxd hdy
      cases hg with
      | flat hv' hn' => exact absurd hy'.1 (by simp [hn'])
      | @chord x' y' a' b' g hx' hy'' ha' hb' hl' =>
        obtain rfl := (keysUpTo_gap hx hy hxd hdy).unique hx'
        obtain rfl := hy'.unique hy''
        obtain rfl := (valuesUpTo_gap hx hy ha hxd hdy).unique ha'
        obtain rfl := hb.unique hb'
        exact hl.2 (OnOrAbove.anti_key (p := (x, a)) (q := (y, b)) hrise hcd hl'.1)

/-- With `q` added, the running maximum at its key reaches the chord of `S` over that key. -/
def ReachesChord (S : Set (R × R)) (q : R × R) : Prop :=
  ∀ x y a b, IsGreatest (keysUpTo S q.1) x → IsLeast (keysAfter S q.1) y →
    IsGreatest (valuesUpTo S q.1) a → IsGreatest (valuesUpTo S y) b →
    ∃ v ∈ valuesUpTo (insert q S) q.1, OnOrAbove (x, a) (y, b) q.1 v

/-- A point that reaches the chord over its key lowers the floor at no key. -/
theorem IsFloor.mono_insert {S : Set (R × R)} {q : R × R} {c f g : R} (hq : ReachesChord S q)
    (hf : IsFloor S c f) (hg : IsFloor (insert q S) c g) : f ≤ g := by
  have hsub : S ⊆ insert q S := Set.subset_insert q S
  cases hf with
  | flat hv hn =>
    obtain ⟨w, hw, hwg⟩ := hg.exists_worst_le
    exact (worst_mono hsub le_rfl hv hw).trans hwg
  | @chord x y a b f hx hy ha hb hl =>
    have hxy : x < y := lt_of_le_of_lt hx.1.1 hy.1.1
    have hold : ∀ d e w, x ≤ d → d < y → d = q.1 → d ≤ e →
        IsGreatest (valuesUpTo (insert q S) e) w → OnOrAbove (x, a) (y, b) d w := by
      rintro d e w hxd hdy rfl hde hw
      obtain ⟨v, hv, hon⟩ := hq x y a b (keysUpTo_gap hx hy hxd hdy)
        (keysAfter_gap hx hy hxd hdy) (valuesUpTo_gap hx hy ha hxd hdy) hb
      exact hon.mono hxy (hw.2 (valuesUpTo_mono Set.Subset.rfl hde hv))
    cases hg with
    | flat hv' hn' => exact absurd (show y ∈ keysAfter (insert q S) c from
        ⟨hy.1.1, hy.1.2.imp fun v hv => hsub hv⟩) (by simp [hn'])
    | @chord x' y' a' b' g hx' hy' ha' hb' hl' =>
      have hxx' : x ≤ x' := hx'.2 ⟨hx.1.1, hx.1.2.imp fun v hv => hsub hv⟩
      have hyy' : y' ≤ y := hy'.2 ⟨hy.1.1, hy.1.2.imp fun v hv => hsub hv⟩
      apply hl.2
      refine OnOrAbove.of_chord (r := (x', a')) (s := (y', b')) hxy
        (lt_of_le_of_lt hx'.1.1 hy'.1.1) hx'.1.1 hy'.1.1.le ?_ ?_ hl'.1
      · obtain ⟨v, hv⟩ := hx'.1.2
        rcases Set.mem_insert_iff.mp hv with heq | hmem
        · exact hold x' c a' hxx' (lt_of_le_of_lt hx'.1.1 hy.1.1) (congrArg Prod.fst heq)
            hx'.1.1 ha'
        · obtain rfl : x = x' := le_antisymm hxx' (hx.2 ⟨hx'.1.1, v, hmem⟩)
          exact (onOrAbove_left_iff (p := (x, a)) hxy).mpr (worst_mono hsub le_rfl ha ha')
      · obtain ⟨v, hv⟩ := hy'.1.2
        rcases Set.mem_insert_iff.mp hv with heq | hmem
        · rcases hyy'.eq_or_lt with rfl | hlt
          · exact (onOrAbove_right_iff (p := (x, a)) hxy).mpr (worst_mono hsub le_rfl hb hb')
          · exact hold y' y' b' (hx.1.1.trans hy'.1.1.le) hlt (congrArg Prod.fst heq) le_rfl hb'
        · obtain rfl : y' = y := le_antisymm hyy' (hy.2 ⟨hy'.1.1, v, hmem⟩)
          exact (onOrAbove_right_iff (p := (x, a)) hxy).mpr (worst_mono hsub le_rfl hb hb')

end Chord

end Envelope

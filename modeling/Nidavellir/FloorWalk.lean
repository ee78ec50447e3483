import Nidavellir.FloorEnvelope

namespace Nidavellir

open Envelope

/-- The ceil division of the source finds the least integer on or above the chord. -/
theorem isLeast_ceilChord {x y a b clock : Int} (hab : a ≤ b) (hx : x ≤ clock) (hxy : x < y) :
    IsLeast {g | OnOrAbove (x, a) (y, b) clock g}
      (a + ((b - a) * (clock - x) + (y - x) - 1).tdiv (y - x)) := by
  have hnum : 0 ≤ (b - a) * (clock - x) := mul_nonneg (by omega) (by omega)
  have hd : 0 < y - x := by omega
  rw [Int.tdiv_eq_ediv_of_nonneg (by omega)]
  simp only [OnOrAbove]
  generalize (b - a) * (clock - x) = n at hnum ⊢
  generalize y - x = d at hd ⊢
  have hdiv := Int.mul_ediv_add_emod (n + d - 1) d
  have hrem := Int.emod_nonneg (n + d - 1) hd.ne'
  have hlt := Int.emod_lt_of_pos (n + d - 1) hd
  generalize (n + d - 1) / d = k at hdiv ⊢
  refine ⟨?_, ?_⟩
  · show n ≤ (a + k - a) * d
    linarith [mul_comm d k, show (a + k - a) * d = d * k by ring]
  · intro g hg
    have hg : n ≤ (g - a) * d := hg
    by_contra hlt'
    have hstep : (g - a + 1) * d ≤ k * d := mul_le_mul_of_nonneg_right (by omega) hd.le
    linarith [mul_comm d k, show (g - a + 1) * d = (g - a) * d + d by ring]

/-- The walk with any value between two neighbours. -/
def walkBy (chord : Int × Int → Int × Int → Int) (clock floor : Int) : List (Int × Int) → Int
  | (c0, v0) :: (c1, v1) :: rest =>
    if clock ≥ c1 then walkBy chord clock v1 ((c1, v1) :: rest)
    else if clock > c0 then chord (c0, v0) (c1, v1)
    else floor
  | _ => floor

/-- Where the walk stops: on the last entry, on the entry of its own clock, or between two. -/
inductive WalkStops (chord : Int × Int → Int × Int → Int) (clock : Int) :
    List (Int × Int) → Int → Prop
  | last (init : List (Int × Int)) {x : Int} (a : Int) (hx : x ≤ clock) :
    WalkStops chord clock (init ++ [(x, a)]) a
  | exact (init : List (Int × Int)) (a : Int) {y : Int} (b : Int) (tail : List (Int × Int))
    (hy : clock < y) : WalkStops chord clock (init ++ (clock, a) :: (y, b) :: tail) a
  | between (init : List (Int × Int)) {x : Int} (a : Int) {y : Int} (b : Int)
    (tail : List (Int × Int)) (hx : x < clock) (hy : clock < y) :
    WalkStops chord clock (init ++ (x, a) :: (y, b) :: tail) (chord (x, a) (y, b))

theorem WalkStops.cons {chord : Int × Int → Int × Int → Int} {clock value : Int}
    {env : List (Int × Int)} (h : WalkStops chord clock env value) (p : Int × Int) :
    WalkStops chord clock (p :: env) value := by
  cases h with
  | last init _ hx => exact .last (p :: init) _ hx
  | exact init _ b tail hy => exact .exact (p :: init) _ b tail hy
  | between init a b tail hx hy => exact .between (p :: init) a b tail hx hy

theorem walkBy_stops (chord : Int × Int → Int × Int → Int) {clock c0 v0 : Int}
    (rest : List (Int × Int)) (hs : ((c0, v0) :: rest).Pairwise (fun p q => p.1 < q.1))
    (hc : c0 ≤ clock) :
    WalkStops chord clock ((c0, v0) :: rest) (walkBy chord clock v0 ((c0, v0) :: rest)) := by
  induction rest generalizing c0 v0 with
  | nil => exact .last [] v0 hc
  | cons p rest ih =>
    obtain ⟨c1, v1⟩ := p
    rw [walkBy]
    split
    next h1 => exact (ih (List.pairwise_cons.mp hs).2 h1).cons (c0, v0)
    next h1 =>
      split
      next h0 => exact .between [] v0 v1 rest h0 (not_le.mp h1)
      next h0 =>
        obtain rfl : clock = c0 := by omega
        exact .exact [] v0 v1 rest (not_le.mp h1)

/-- Only the pair of entries around the clock matters. -/
theorem walkBy_congr {chord chord' : Int × Int → Int × Int → Int} {clock : Int}
    {env : List (Int × Int)} (h : ∀ init p q tail, env = init ++ p :: q :: tail →
      p.1 < clock → clock < q.1 → chord p q = chord' p q) (floor : Int) :
    walkBy chord clock floor env = walkBy chord' clock floor env := by
  induction env generalizing floor with
  | nil => rfl
  | cons p env ih =>
    cases env with
    | nil => rfl
    | cons q env =>
      rw [walkBy, walkBy]
      split
      next => exact ih (fun init p' q' tail heq => h (p :: init) p' q' tail (by rw [heq]; rfl)) _
      next h1 =>
        split
        next h0 => exact h [] p q env rfl h0 (not_le.mp h1)
        next => rfl

theorem floorWalk_eq_walkBy (clock floor : Int) (env : List (Int × Int)) :
    floorWalk clock floor env = walkBy (fun p q =>
      p.2 + ((q.2 - p.2) * (clock - p.1) + (q.1 - p.1) - 1).tdiv (q.1 - p.1)) clock floor env := by
  induction env generalizing floor with
  | nil => rfl
  | cons p env ih =>
    cases env with
    | nil => rfl
    | cons q env => rw [floorWalk, walkBy, ih]

/-- The segment of the envelope that the walk stops on. -/
theorem floorWalk_stops {clock c0 v0 : Int} (rest : List (Int × Int))
    (hs : ((c0, v0) :: rest).Pairwise (fun p q => p.1 < q.1)) (hc : c0 ≤ clock) :
    (∃ init x a, (c0, v0) :: rest = init ++ [(x, a)] ∧ x ≤ clock ∧
      floorWalk clock v0 ((c0, v0) :: rest) = a) ∨
    ∃ init x a y b tail, (c0, v0) :: rest = init ++ (x, a) :: (y, b) :: tail ∧
      x ≤ clock ∧ clock < y ∧
      floorWalk clock v0 ((c0, v0) :: rest) =
        a + ((b - a) * (clock - x) + (y - x) - 1).tdiv (y - x) := by
  rw [floorWalk_eq_walkBy]
  have hstops := walkBy_stops (fun p q =>
    p.2 + ((q.2 - p.2) * (clock - p.1) + (q.1 - p.1) - 1).tdiv (q.1 - p.1)) rest hs hc
  generalize walkBy _ clock v0 ((c0, v0) :: rest) = value at hstops ⊢
  generalize (c0, v0) :: rest = env at hstops ⊢
  cases hstops with
  | last init _ hx => exact .inl ⟨init, _, _, rfl, hx, rfl⟩
  | exact init _ b tail hy =>
    -- The chord starts on its first entry.
    have hsmall : ∀ d : Int, 0 < d → (d - 1).tdiv d = 0 :=
      fun d hd => Int.tdiv_eq_zero_of_lt (by omega) (by omega)
    refine .inr ⟨init, clock, _, _, b, tail, rfl, le_rfl, hy, ?_⟩
    simp [hsmall _ (Int.sub_pos.mpr hy)]
  | between init a b tail hx hy => exact .inr ⟨init, _, a, _, b, tail, rfl, hx.le, hy, rfl⟩

theorem EnvelopeOf.right_of {pts init tail : List (Int × Int)} {worst : Option Int}
    {p q : Int × Int} {clock : Int} (h : EnvelopeOf pts (init ++ p :: q :: tail) worst)
    (hq : clock < q.1) : ∀ r ∈ q :: tail, clock < r.1 := by
  have hkeys := (List.pairwise_cons.mp (List.pairwise_append.mp h.keys).2.1).2
  intro r hr
  rcases List.mem_cons.mp hr with rfl | hr
  · exact hq
  · exact hq.trans ((List.pairwise_cons.mp hkeys).1 r hr)

theorem EnvelopeOf.key_cases {pts init tail : List (Int × Int)} {worst : Option Int}
    {x a clock z v : Int} (h : EnvelopeOf pts (init ++ (x, a) :: tail) worst)
    (ht : ∀ p ∈ tail, clock < p.1) (hz : (z, v) ∈ pts) (hzc : z ≤ clock) : z ≤ x := by
  obtain ⟨w, hw⟩ := h.covers (z, v) hz
  rcases List.mem_append.mp hw with hw | hw
  · exact ((List.pairwise_append.mp h.keys).2.2 (z, w) hw (x, a) (by simp)).le
  · rcases List.mem_cons.mp hw with heq | hw
    · exact (congrArg Prod.fst heq).le
    · have := ht (z, w) hw
      omega

theorem EnvelopeOf.last_key {pts init tail : List (Int × Int)} {worst : Option Int}
    {x a clock : Int} (h : EnvelopeOf pts (init ++ (x, a) :: tail) worst)
    (hx : x ≤ clock) (ht : ∀ p ∈ tail, clock < p.1) :
    IsGreatest (keysUpTo (pointsOf pts) clock) x := by
  refine ⟨⟨hx, h.isKey (x, a) (by simp)⟩, ?_⟩
  intro z hz
  obtain ⟨hzc, v, hz⟩ := hz
  exact h.key_cases ht hz hzc

theorem EnvelopeOf.last_value {pts init tail : List (Int × Int)} {worst : Option Int}
    {x a clock : Int} (h : EnvelopeOf pts (init ++ (x, a) :: tail) worst)
    (hx : x ≤ clock) (ht : ∀ p ∈ tail, clock < p.1) :
    IsGreatest (valuesUpTo (pointsOf pts) clock) a := by
  obtain ⟨hmem, hmax⟩ := h.greatest (x, a) (by simp)
  refine ⟨valuesUpTo_mono Set.Subset.rfl hx hmem, ?_⟩
  intro v hv
  obtain ⟨z, hzc, hz⟩ := hv
  exact hmax ⟨z, h.key_cases ht hz hzc, hz⟩

theorem EnvelopeOf.next_key {pts init tail : List (Int × Int)} {worst : Option Int}
    {x a y b clock : Int} (h : EnvelopeOf pts (init ++ (x, a) :: (y, b) :: tail) worst)
    (hx : x ≤ clock) (hy : clock < y) :
    IsLeast (keysAfter (pointsOf pts) clock) y := by
  obtain ⟨-, hright, hcross⟩ := List.pairwise_append.mp h.keys
  refine ⟨⟨hy, h.isKey (y, b) (by simp)⟩, ?_⟩
  intro z hz
  obtain ⟨hzc, v, hz⟩ := hz
  obtain ⟨w, hw⟩ := h.covers (z, v) hz
  rcases List.mem_append.mp hw with hw | hw
  · have := hcross (z, w) hw (x, a) (by simp)
    simp only at this hzc
    omega
  · rcases List.mem_cons.mp hw with heq | hw
    · have := congrArg Prod.fst heq
      simp only at this hzc
      omega
    · rcases List.mem_cons.mp hw with heq | hw
      · exact (congrArg Prod.fst heq).ge
      · have hyz := (List.pairwise_cons.mp (List.pairwise_cons.mp hright).2).1 (z, w) hw
        exact hyz.le

theorem floorEnvelope_eq_none_iff {pts : List (Int × Int)} {clock : Int} :
    floorEnvelope pts clock = none ↔ ∀ p ∈ pts, clock < p.1 := by
  obtain ⟨worst, h⟩ := envelopeOf_envelope pts
  unfold floorEnvelope
  split
  next hnil =>
    simp only [true_iff]
    intro p hp
    obtain ⟨w, hw⟩ := h.covers p hp
    simp [hnil] at hw
  next c0 v0 rest hcons =>
    rw [hcons] at h
    split
    next hlt =>
      simp only [true_iff]
      intro p hp
      obtain ⟨w, hw⟩ := h.covers p hp
      rcases List.mem_cons.mp hw with heq | hw
      · have := congrArg Prod.fst heq
        simp only at this
        omega
      · have := (List.pairwise_cons.mp h.keys).1 (p.1, w) hw
        simp only at this
        omega
    next hge =>
      obtain ⟨v, hv⟩ := h.isKey (c0, v0) (by simp)
      simp only [reduceCtorEq, false_iff, not_forall]
      exact ⟨(c0, v), hv, hge⟩

theorem floorEnvelope_isFloor {pts : List (Int × Int)} {clock f : Int}
    (hf : floorEnvelope pts clock = some f) : IsFloor (pointsOf pts) clock f := by
  obtain ⟨worst, h⟩ := envelopeOf_envelope pts
  unfold floorEnvelope at hf
  split at hf
  next => simp at hf
  next c0 v0 rest hcons =>
    rw [hcons] at h
    split at hf
    next => simp at hf
    next hge =>
      obtain rfl := Option.some.inj hf
      rcases floorWalk_stops rest h.keys (Int.not_lt.mp hge) with
        ⟨init, x, a, he, hx, hw⟩ | ⟨init, x, a, y, b, tail, he, hx, hy, hw⟩
      · rw [he] at h
        rw [hw]
        refine .flat (h.last_value hx (by simp)) (Set.eq_empty_of_forall_notMem ?_)
        intro z hz
        obtain ⟨hzc, v, hz⟩ := hz
        obtain ⟨w, hzw⟩ := h.covers (z, v) hz
        rcases List.mem_append.mp hzw with hzw | hzw
        · have := (List.pairwise_append.mp h.keys).2.2 (z, w) hzw (x, a) (by simp)
          simp only at this hzc
          omega
        · have := congrArg Prod.fst (List.mem_singleton.mp hzw)
          simp only at this hzc
          omega
      · rw [he] at h
        rw [hw]
        have htail : ∀ p ∈ (y, b) :: tail, clock < p.1 := h.right_of hy
        have hgy := h.greatest (y, b) (by simp)
        have hax := h.last_value hx htail
        exact .chord (h.last_key hx htail) (h.next_key hx hy) hax hgy
          (isLeast_ceilChord (worst_mono Set.Subset.rfl hy.le hax hgy) hx (by omega))

/-- The computed floor is the floor of the condemned points. -/
theorem floorEnvelope_eq_some_iff {pts : List (Int × Int)} {clock f : Int} :
    floorEnvelope pts clock = some f ↔ IsFloor (pointsOf pts) clock f := by
  refine ⟨floorEnvelope_isFloor, ?_⟩
  intro hf
  cases hg : floorEnvelope pts clock with
  | none =>
    obtain ⟨w, ⟨⟨x, hx, hmem⟩, -⟩, -⟩ := hf.exists_worst_le
    have := floorEnvelope_eq_none_iff.mp hg (x, w) hmem
    simp only at this
    omega
  | some g => rw [hf.unique (floorEnvelope_isFloor hg)]

/-- `q` lies between two condemned clocks and below the chord that joins them. -/
def SplitsChord (pts : List (Int × Int)) (q : Int × Int) : Prop :=
  ∃ f, floorEnvelope pts q.1 = some f ∧ q.2 < f ∧ ∀ p ∈ pts, p.1 ≤ q.1 → p.2 < f

instance (pts : List (Int × Int)) (q : Int × Int) : Decidable (SplitsChord pts q) :=
  match h : floorEnvelope pts q.1 with
  | none => isFalse fun ⟨f, hf, _⟩ => by simp [h] at hf
  | some f => decidable_of_iff (q.2 < f ∧ ∀ p ∈ pts, p.1 ≤ q.1 → p.2 < f)
      ⟨fun hf => ⟨f, h, hf⟩, fun ⟨g, hg, hf⟩ => by
        obtain rfl := Option.some.inj (h.symm.trans hg); exact hf⟩

theorem reachesChord_of_not_splitsChord {pts : List (Int × Int)} {q : Int × Int}
    (h : ¬ SplitsChord pts q) : ReachesChord (pointsOf pts) q := by
  intro x y a b hx hy ha hb
  have hxy : x < y := lt_of_le_of_lt hx.1.1 hy.1.1
  cases hf : floorEnvelope pts q.1 with
  | none =>
    obtain ⟨hxq, v, hv⟩ := hx.1
    exact absurd hxq (not_le.mpr (floorEnvelope_eq_none_iff.mp hf (x, v) hv))
  | some f =>
    have hon : OnOrAbove (x, a) (y, b) q.1 f := by
      cases floorEnvelope_eq_some_iff.mp hf with
      | flat hv hn => exact absurd hy.1 (by simp [hn])
      | @chord x' y' a' b' f hx' hy' ha' hb' hl' =>
        obtain rfl := hx.unique hx'
        obtain rfl := hy.unique hy'
        obtain rfl := ha.unique ha'
        obtain rfl := hb.unique hb'
        exact hl'.1
    by_cases hq : q.2 < f
    · obtain ⟨p, hp, hpq, hpf⟩ : ∃ p ∈ pts, p.1 ≤ q.1 ∧ f ≤ p.2 := by
        by_contra hno
        push Not at hno
        exact h ⟨f, hf, hq, hno⟩
      exact ⟨p.2, ⟨p.1, hpq, Set.mem_insert_of_mem _ hp⟩, hon.mono hxy hpf⟩
    · exact ⟨q.2, ⟨q.1, le_rfl, Set.mem_insert _ _⟩, hon.mono hxy (not_lt.mp hq)⟩

/-- Every condemned pair lies at or below the floor of its own clock. -/
theorem floorEnvelope_ge_of_mem {pts : List (Int × Int)} {p : Int × Int} (hp : p ∈ pts) :
    ∃ f, floorEnvelope pts p.1 = some f ∧ p.2 ≤ f := by
  cases hf : floorEnvelope pts p.1 with
  | none => exact absurd (floorEnvelope_eq_none_iff.mp hf p hp) (lt_irrefl _)
  | some f =>
    have hgreatest := (floorEnvelope_eq_some_iff.mp hf).at_key (mem_pointsOf.mpr hp)
    exact ⟨f, rfl, hgreatest.2 ⟨p.1, le_rfl, hp⟩⟩

theorem floorEnvelope_append_isSome {pts : List (Int × Int)} {q : Int × Int} {clock f : Int}
    (hf : floorEnvelope pts clock = some f) :
    ∃ g, floorEnvelope (pts ++ [q]) clock = some g := by
  cases hg : floorEnvelope (pts ++ [q]) clock with
  | some g => exact ⟨g, rfl⟩
  | none =>
    have hnone : floorEnvelope pts clock = none := by
      rw [floorEnvelope_eq_none_iff] at hg ⊢
      exact fun p hp => hg p (List.mem_append_left _ hp)
    simp [hnone] at hf

theorem floorEnvelope_append_mono {pts : List (Int × Int)} {q : Int × Int}
    (h : ¬ SplitsChord pts q) {clock f : Int} (hf : floorEnvelope pts clock = some f) :
    ∃ g, floorEnvelope (pts ++ [q]) clock = some g ∧ f ≤ g := by
  obtain ⟨g, hg⟩ := floorEnvelope_append_isSome (q := q) hf
  refine ⟨g, hg, ?_⟩
  have hfloor := floorEnvelope_eq_some_iff.mp hg
  rw [pointsOf_append] at hfloor
  exact (floorEnvelope_eq_some_iff.mp hf).mono_insert (reachesChord_of_not_splitsChord h) hfloor

/-- A point that splits a chord lowers the floor at its own clock. -/
theorem floorEnvelope_append_lt {pts : List (Int × Int)} {q : Int × Int} {f g : Int}
    (h : SplitsChord pts q) (hf : floorEnvelope pts q.1 = some f)
    (hg : floorEnvelope (pts ++ [q]) q.1 = some g) : g < f := by
  obtain ⟨f', hf', hq, hbelow⟩ := h
  obtain rfl := Option.some.inj (hf.symm.trans hf')
  have hfloor := floorEnvelope_eq_some_iff.mp hg
  rw [pointsOf_append] at hfloor
  obtain ⟨⟨x, hx, hmem⟩, -⟩ := hfloor.at_key (v := q.2) (Set.mem_insert _ _)
  rcases Set.mem_insert_iff.mp hmem with heq | hmem
  · have := congrArg Prod.snd heq
    simp only at this
    omega
  · exact hbelow (x, g) hmem hx

/-- Evidence raises the floor at every clock, except evidence that splits a chord. -/
theorem floorEnvelope_append_mono_iff {pts : List (Int × Int)} {q : Int × Int} :
    (∀ clock f, floorEnvelope pts clock = some f →
      ∃ g, floorEnvelope (pts ++ [q]) clock = some g ∧ f ≤ g) ↔ ¬ SplitsChord pts q := by
  refine ⟨?_, fun h clock f hf => floorEnvelope_append_mono h hf⟩
  intro hmono hs
  obtain ⟨f, hf, hsplit⟩ := hs
  obtain ⟨g, hg, hfg⟩ := hmono q.1 f hf
  exact absurd (floorEnvelope_append_lt ⟨f, hf, hsplit⟩ hf hg) (not_lt.mpr hfg)

end Nidavellir

import Nidavellir.Lib.Envelope
import Mathlib.Data.List.Sort
import Mathlib.Data.List.Induction
import Mathlib.Data.Int.Order.Basic
import Mathlib.Tactic.Linarith

namespace Nidavellir

open Envelope

/-- The order of `sort_unstable` on `(i64, i64)`. -/
def pairLe (p q : Int × Int) : Prop := p.1 < q.1 ∨ p.1 = q.1 ∧ p.2 ≤ q.2

instance : DecidableRel pairLe := fun p q => by unfold pairLe; infer_instance

instance : Std.Total pairLe := ⟨fun p q => by unfold pairLe; omega⟩

instance : IsTrans (Int × Int) pairLe := ⟨fun p q r h h' => by unfold pairLe at *; omega⟩

/-- One turn of the envelope loop. `worst` is `none` where the source has `i64::MIN`. -/
def envelopeStep (state : List (Int × Int) × Option Int) (pt : Int × Int) :
    List (Int × Int) × Option Int :=
  let worst := state.2.elim pt.2 (max · pt.2)
  match state.1.getLast? with
  | some last =>
    if last.1 = pt.1 then (state.1.dropLast ++ [(last.1, worst)], some worst)
    else (state.1 ++ [(pt.1, worst)], some worst)
  | none => (state.1 ++ [(pt.1, worst)], some worst)

def envelope (pts : List (Int × Int)) : List (Int × Int) :=
  ((pts.insertionSort pairLe).foldl envelopeStep ([], none)).1

/-- The walk over `env.windows(2)`, with its two `break`s. -/
def floorWalk (clock : Int) (floor : Int) : List (Int × Int) → Int
  | (c0, v0) :: (c1, v1) :: rest =>
    if clock ≥ c1 then floorWalk clock v1 ((c1, v1) :: rest)
    else if clock > c0 then v0 + ((v1 - v0) * (clock - c0) + (c1 - c0) - 1).tdiv (c1 - c0)
    else floor
  | _ => floor

/-- The floor that `vf_floor_envelope` and `field_vf_floor_mv` both compute. -/
def floorEnvelope (pts : List (Int × Int)) (clock : Int) : Option Int :=
  match envelope pts with
  | [] => none
  | (c0, v0) :: rest =>
    if clock < c0 then none else some (floorWalk clock v0 ((c0, v0) :: rest))

def pointsOf (pts : List (Int × Int)) : Set (Int × Int) := {p | p ∈ pts}

theorem mem_pointsOf {pts : List (Int × Int)} {p : Int × Int} : p ∈ pointsOf pts ↔ p ∈ pts :=
  Iff.rfl

theorem pointsOf_append (pts : List (Int × Int)) (q : Int × Int) :
    pointsOf (pts ++ [q]) = insert q (pointsOf pts) := by
  ext p
  simp [pointsOf, or_comm]

/-- What the envelope loop has built after the points `pts`, taken in clock order. -/
structure EnvelopeOf (pts env : List (Int × Int)) (worst : Option Int) : Prop where
  keys : env.Pairwise (fun p q => p.1 < q.1)
  isKey : ∀ p ∈ env, ∃ v, (p.1, v) ∈ pts
  covers : ∀ p ∈ pts, ∃ w, (p.1, w) ∈ env
  greatest : ∀ p ∈ env, IsGreatest (valuesUpTo (pointsOf pts) p.1) p.2
  worst_eq : worst = env.getLast?.map Prod.snd

theorem EnvelopeOf.key_le_last {pts env : List (Int × Int)} {worst : Option Int}
    {last p : Int × Int} (h : EnvelopeOf pts env worst) (hl : env.getLast? = some last)
    (hp : p ∈ pts) : p.1 ≤ last.1 := by
  obtain ⟨w, hw⟩ := h.covers p hp
  obtain ⟨init, rfl⟩ := List.getLast?_eq_some_iff.mp hl
  rcases List.mem_append.mp hw with hi | hi
  · exact ((List.pairwise_append.mp h.keys).2.2 (p.1, w) hi last (by simp)).le
  · obtain rfl : (p.1, w) = last := by simpa using hi
    exact le_rfl

/-- The running maximum after one more point at the greatest clock. -/
theorem EnvelopeOf.worst_push {pts env : List (Int × Int)} {worst : Option Int} {pt : Int × Int}
    (h : EnvelopeOf pts env worst) (hle : ∀ p ∈ pts, p.1 ≤ pt.1) :
    IsGreatest (valuesUpTo (pointsOf (pts ++ [pt])) pt.1) (worst.elim pt.2 (max · pt.2)) := by
  rw [h.worst_eq, pointsOf_append]
  cases hl : env.getLast? with
  | none =>
    have hempty : pts = [] := by
      cases pts with
      | nil => rfl
      | cons p pts =>
        obtain ⟨w, hw⟩ := h.covers p (by simp)
        simp [List.getLast?_eq_none_iff.mp hl] at hw
    subst hempty
    refine ⟨⟨pt.1, le_rfl, Set.mem_insert _ _⟩, ?_⟩
    intro v hv
    obtain ⟨x, hx, hv⟩ := hv
    have hpt : (x, v) = pt := by simpa [pointsOf] using hv
    simp [← hpt]
  | some last =>
    obtain ⟨⟨x, hx, hv⟩, hmax⟩ := h.greatest last (List.mem_of_getLast? hl)
    refine ⟨?_, ?_⟩
    · rcases max_choice last.2 pt.2 with hm | hm
      · exact ⟨x, hle _ hv, by simpa [hm] using Or.inr hv⟩
      · exact ⟨pt.1, le_rfl, by simp [hm]⟩
    · intro v hv
      obtain ⟨y, hy, hv⟩ := hv
      rcases Set.mem_insert_iff.mp hv with rfl | hv
      · exact le_max_right _ _
      · exact le_trans (hmax ⟨y, h.key_le_last hl hv, hv⟩) (le_max_left _ _)

theorem EnvelopeOf.greatest_push {pts env : List (Int × Int)} {worst : Option Int}
    {pt p : Int × Int} (h : EnvelopeOf pts env worst) (hp : p ∈ env) (hlt : p.1 < pt.1) :
    IsGreatest (valuesUpTo (pointsOf (pts ++ [pt])) p.1) p.2 := by
  have hsame : valuesUpTo (pointsOf (pts ++ [pt])) p.1 = valuesUpTo (pointsOf pts) p.1 := by
    rw [pointsOf_append]
    refine Set.Subset.antisymm ?_ (valuesUpTo_mono (Set.subset_insert _ _) le_rfl)
    intro v hv
    obtain ⟨x, hx, hv⟩ := hv
    rcases Set.mem_insert_iff.mp hv with heq | hv
    · have := congrArg Prod.fst heq
      simp only at this
      omega
    · exact ⟨x, hx, hv⟩
  rw [hsame]
  exact h.greatest p hp

/-- Writing the entry of `pt` behind the entries whose clocks lie below it. -/
theorem EnvelopeOf.extend {pts env init : List (Int × Int)} {worst : Option Int} {pt : Int × Int}
    (h : EnvelopeOf pts env worst) (hle : ∀ p ∈ pts, p.1 ≤ pt.1)
    (hinit : init.Sublist env) (hlt : ∀ p ∈ init, p.1 < pt.1)
    (hrest : ∀ p ∈ env, p ∈ init ∨ p.1 = pt.1) :
    EnvelopeOf (pts ++ [pt]) (init ++ [(pt.1, worst.elim pt.2 (max · pt.2))])
      (some (worst.elim pt.2 (max · pt.2))) where
  keys := List.pairwise_append.mpr ⟨h.keys.sublist hinit, by simp, by simpa using hlt⟩
  isKey := by
    intro p hp
    rcases List.mem_append.mp hp with hp | hp
    · obtain ⟨v, hv⟩ := h.isKey p (hinit.subset hp)
      exact ⟨v, by simp [hv]⟩
    · obtain rfl := List.mem_singleton.mp hp
      exact ⟨pt.2, by simp⟩
  covers := by
    intro p hp
    rcases List.mem_append.mp hp with hp | hp
    · obtain ⟨w, hw⟩ := h.covers p hp
      rcases hrest _ hw with hw | heq
      · exact ⟨w, by simp [hw]⟩
      · exact ⟨_, List.mem_append_right _ (List.mem_singleton.mpr (by rw [heq]))⟩
    · obtain rfl := List.mem_singleton.mp hp
      exact ⟨_, List.mem_append_right _ (List.mem_singleton.mpr rfl)⟩
  greatest := by
    intro p hp
    rcases List.mem_append.mp hp with hp | hp
    · exact h.greatest_push (hinit.subset hp) (hlt p hp)
    · obtain rfl := List.mem_singleton.mp hp
      exact h.worst_push hle
  worst_eq := by simp

theorem EnvelopeOf.step {pts : List (Int × Int)} {state : List (Int × Int) × Option Int}
    {pt : Int × Int} (h : EnvelopeOf pts state.1 state.2) (hle : ∀ p ∈ pts, p.1 ≤ pt.1) :
    EnvelopeOf (pts ++ [pt]) (envelopeStep state pt).1 (envelopeStep state pt).2 := by
  obtain ⟨env, worst⟩ := state
  have hkey : ∀ p ∈ env, p.1 ≤ pt.1 := by
    intro p hp
    obtain ⟨v, hv⟩ := h.isKey p hp
    exact hle (p.1, v) hv
  simp only [envelopeStep]
  split
  next last hl =>
    obtain ⟨init, rfl⟩ := List.getLast?_eq_some_iff.mp hl
    have hlast := (List.pairwise_append.mp h.keys).2.2
    split
    next heq =>
      simp only [List.dropLast_concat, heq]
      refine h.extend hle (List.sublist_append_left _ _) ?_ ?_
      · exact fun p hp => heq ▸ hlast p hp last (by simp)
      · intro p hp
        rcases List.mem_append.mp hp with hp | hp
        · exact Or.inl hp
        · exact Or.inr (List.mem_singleton.mp hp ▸ heq)
    next hne =>
      refine h.extend hle (List.Sublist.refl _) ?_ (fun p hp => Or.inl hp)
      intro p hp
      rcases List.mem_append.mp hp with hi | hi
      · exact lt_of_lt_of_le (hlast p hi last (by simp)) (hkey last (by simp))
      · obtain rfl := List.mem_singleton.mp hi
        exact lt_of_le_of_ne (hkey p hp) hne
  next hn =>
    obtain rfl := List.getLast?_eq_none_iff.mp hn
    exact h.extend hle (List.Sublist.refl _) (by simp) (by simp)

theorem envelopeOf_foldl {pts : List (Int × Int)} (hs : pts.Pairwise pairLe) :
    EnvelopeOf pts (pts.foldl envelopeStep ([], none)).1
      (pts.foldl envelopeStep ([], none)).2 := by
  induction pts using List.reverseRecOn with
  | nil => exact ⟨by simp, by simp, by simp, by simp, rfl⟩
  | append_singleton pts pt ih =>
    obtain ⟨hs, -, hle⟩ := List.pairwise_append.mp hs
    rw [List.foldl_append, List.foldl_cons, List.foldl_nil]
    refine (ih hs).step ?_
    intro p hp
    have h : pairLe p pt := hle p hp pt (by simp)
    unfold pairLe at h
    omega

theorem EnvelopeOf.congr {pts pts' env : List (Int × Int)} {worst : Option Int}
    (h : EnvelopeOf pts env worst) (hmem : ∀ p, p ∈ pts ↔ p ∈ pts') :
    EnvelopeOf pts' env worst := by
  have hset : pointsOf pts = pointsOf pts' := Set.ext hmem
  exact ⟨h.keys, fun p hp => (h.isKey p hp).imp fun v => (hmem _).mp,
    fun p hp => h.covers p ((hmem p).mpr hp), hset ▸ h.greatest, h.worst_eq⟩

/-- The built envelope lists every clock once, rising, with the running maximum there. -/
theorem envelopeOf_envelope (pts : List (Int × Int)) :
    ∃ worst, EnvelopeOf pts (envelope pts) worst :=
  ⟨_, (envelopeOf_foldl (List.pairwise_insertionSort pairLe pts)).congr
    fun _ => List.mem_insertionSort pairLe⟩

end Nidavellir

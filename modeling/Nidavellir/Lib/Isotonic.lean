import Mathlib.Algebra.Order.Field.Basic
import Mathlib.Algebra.BigOperators.Group.List.Basic
import Mathlib.Algebra.Order.BigOperators.Group.List
import Mathlib.Data.List.Basic
import Mathlib.Tactic.Linarith
import Mathlib.Tactic.LinearCombination
import Mathlib.Tactic.Ring

namespace Isotonic

variable {α : Type*} [Field α]

/-- The squared distance of two sequences. -/
def distance (xs ys : List α) : α := (List.zipWith (fun x y => (x - y) ^ 2) xs ys).sum

def mean (block : List α) : α := block.sum / block.length

/-- Each entry at the mean of its block. -/
def levels (blocks : List (List α)) : List α :=
  blocks.flatMap fun block => List.replicate block.length (mean block)

/-- What a block weighs against a sequence, measured from a level. -/
def pull (level : α) (block ys : List α) : α :=
  (List.zipWith (fun x y => (x - level) * y) block ys).sum

theorem distance_append {xs xs' ys ys' : List α} (h : ys.length = xs.length) :
    distance (xs ++ xs') (ys ++ ys') = distance xs ys + distance xs' ys' := by
  unfold distance
  rw [List.zipWith_append h.symm, List.sum_append]

theorem pull_append {level : α} {left right ys zs : List α} (h : ys.length = left.length) :
    pull level (left ++ right) (ys ++ zs) = pull level left ys + pull level right zs := by
  unfold pull
  rw [List.zipWith_append h.symm, List.sum_append]

theorem pull_shift (level level' : α) {block ys : List α} (h : ys.length = block.length) :
    pull level block ys = pull level' block ys + (level' - level) * ys.sum := by
  induction block generalizing ys with
  | nil =>
    rw [List.length_eq_zero_iff.mp h]
    simp [pull]
  | cons x block ih =>
    obtain ⟨y, ys, rfl⟩ := List.exists_cons_of_length_eq_add_one h
    have hrest := ih (Nat.succ.inj h)
    unfold pull at hrest ⊢
    simp only [List.zipWith_cons_cons, List.sum_cons, hrest]
    ring

/-- The distance to any sequence, by way of a constant one. -/
theorem distance_eq (level : α) {block ys : List α} (h : ys.length = block.length) :
    distance block ys = distance block (List.replicate block.length level) +
      distance (List.replicate block.length level) ys +
        2 * (level * (block.sum - block.length * level) - pull level block ys) := by
  induction block generalizing ys with
  | nil =>
    rw [List.length_eq_zero_iff.mp h]
    simp [pull, distance]
  | cons x block ih =>
    obtain ⟨y, ys, rfl⟩ := List.exists_cons_of_length_eq_add_one h
    have hrest := ih (Nat.succ.inj h)
    unfold pull distance at hrest ⊢
    simp only [List.length_cons, List.replicate_succ, List.zipWith_cons_cons, List.sum_cons, hrest,
      Nat.cast_add, Nat.cast_one]
    ring

theorem mean_singleton (x : α) : mean [x] = x := by simp [mean]

theorem levels_cons (block : List α) (blocks : List (List α)) :
    levels (block :: blocks) = List.replicate block.length (mean block) ++ levels blocks :=
  List.flatMap_cons

theorem length_levels (blocks : List (List α)) :
    (levels blocks).length = blocks.flatten.length := by
  induction blocks with
  | nil => rfl
  | cons block blocks ih =>
    rw [levels_cons, List.length_append, List.length_replicate, ih, List.flatten_cons,
      List.length_append]

variable [LinearOrder α]

/-- The non-increasing sequence that is closest to the given one. -/
structure IsProjection (xs ps : List α) : Prop where
  length : ps.length = xs.length
  sorted : ps.Pairwise (· ≥ ·)
  closest : ∀ ys : List α, ys.length = xs.length → ys.Pairwise (· ≥ ·) → ys ≠ ps →
    distance xs ps < distance xs ys

/-- One block joins the blocks below it for as long as it stands higher than they do; the last
block comes first. -/
def push : List (List α) → List α → List (List α)
  | [], right => [right]
  | left :: blocks, right =>
    if mean right ≤ mean left then right :: left :: blocks else push blocks (left ++ right)

def pool (xs : List α) : List (List α) := xs.foldl (fun blocks x => push blocks [x]) []

def project (xs : List α) : List α := levels (pool xs).reverse

/-- A block whose mean no non-increasing sequence can improve on. -/
def Tight (block : List α) : Prop :=
  ∀ ys : List α, ys.length = block.length → ys.Pairwise (· ≥ ·) → pull (mean block) block ys ≤ 0

theorem tight_singleton (x : α) : Tight [x] := by
  intro ys hlen _
  obtain ⟨y, ys, rfl⟩ := List.exists_cons_of_length_eq_add_one hlen
  rw [mean_singleton]
  simp [pull]

theorem levels_sorted {blocks : List (List α)}
    (h : blocks.Pairwise fun lower upper => mean upper ≤ mean lower) :
    (levels blocks).Pairwise (· ≥ ·) := by
  refine List.pairwise_flatMap.mpr ⟨fun block _ => ?_, h.imp fun {lower upper} hle => ?_⟩
  · exact List.pairwise_replicate.mpr (.inr le_rfl)
  · intro x hx y hy
    rw [List.eq_of_mem_replicate hx, List.eq_of_mem_replicate hy]
    exact hle

variable [IsStrictOrderedRing α]

theorem distance_nonneg (xs ys : List α) : 0 ≤ distance xs ys := by
  refine List.sum_nonneg fun d hd => ?_
  obtain ⟨i, hi, rfl⟩ := List.mem_iff_getElem.mp hd
  rw [List.getElem_zipWith]
  exact sq_nonneg _

theorem eq_of_distance_eq_zero {xs ys : List α} (hlen : ys.length = xs.length)
    (h : distance xs ys = 0) : xs = ys := by
  induction xs generalizing ys with
  | nil => exact (List.length_eq_zero_iff.mp hlen).symm
  | cons x xs ih =>
    obtain ⟨y, ys, rfl⟩ := List.exists_cons_of_length_eq_add_one hlen
    have hsplit : distance (x :: xs) (y :: ys) = (x - y) ^ 2 + distance xs ys := List.sum_cons
    have hsq := sq_nonneg (x - y)
    have hrest := distance_nonneg xs ys
    have hxy : x - y = 0 := pow_eq_zero_iff two_ne_zero |>.mp (by linarith)
    rw [sub_eq_zero.mp hxy, ih (Nat.succ.inj hlen) (by linarith)]

theorem length_pos {block : List α} (hne : block ≠ []) : (0 : α) < block.length :=
  Nat.cast_pos.mpr (List.length_pos_iff.mpr hne)

theorem sum_eq_mean {block : List α} (hne : block ≠ []) :
    block.sum = block.length * mean block := by
  unfold mean
  rw [mul_div_cancel₀ _ (length_pos hne).ne']

theorem sum_le_of_forall_le {ys : List α} {c : α} (h : ∀ y ∈ ys, y ≤ c) :
    ys.sum ≤ ys.length * c := by
  rw [← nsmul_eq_mul]
  exact List.sum_le_card_nsmul ys c h

theorem le_sum_of_forall_le {ys : List α} {c : α} (h : ∀ y ∈ ys, c ≤ y) :
    ys.length * c ≤ ys.sum := by
  rw [← nsmul_eq_mul]
  exact List.card_nsmul_le_sum ys c h

theorem mean_le {block : List α} (hne : block ≠ []) {c : α} (h : ∀ y ∈ block, y ≤ c) :
    mean block ≤ c := by
  have hsum := sum_le_of_forall_le h
  rw [sum_eq_mean hne] at hsum
  exact le_of_mul_le_mul_left hsum (length_pos hne)

theorem le_mean {block : List α} (hne : block ≠ []) {c : α} (h : ∀ y ∈ block, c ≤ y) :
    c ≤ mean block := by
  have hsum := le_sum_of_forall_le h
  rw [sum_eq_mean hne] at hsum
  exact le_of_mul_le_mul_left hsum (length_pos hne)

section Merge

variable {left right : List α} (hleft : left ≠ []) (hright : right ≠ [])

include hleft hright

/-- The joint mean balances the two. -/
theorem mean_balance : left.length * (mean left - mean (left ++ right)) +
    right.length * (mean right - mean (left ++ right)) = 0 := by
  have hjoint : (left ++ right).sum = (left ++ right).length * mean (left ++ right) :=
    sum_eq_mean (by simp [hleft])
  rw [List.sum_append, sum_eq_mean hleft, sum_eq_mean hright, List.length_append, Nat.cast_add]
    at hjoint
  linarith

theorem mean_between (h : mean left ≤ mean right) :
    mean left ≤ mean (left ++ right) ∧ mean (left ++ right) ≤ mean right := by
  have hbalance := mean_balance hleft hright
  have hpos := length_pos hleft
  have hpos' := length_pos hright
  constructor
  · by_contra hlt
    push Not at hlt
    have h₁ := mul_pos hpos (sub_pos.mpr hlt)
    have h₂ := mul_pos hpos' (sub_pos.mpr (hlt.trans_le h))
    linarith
  · by_contra hlt
    push Not at hlt
    have h₁ := mul_pos hpos (sub_pos.mpr (h.trans_lt hlt))
    have h₂ := mul_pos hpos' (sub_pos.mpr hlt)
    linarith

/-- Two tight blocks that violate the order are tight together. -/
theorem Tight.append (hl : Tight left) (hr : Tight right) (h : mean left ≤ mean right) :
    Tight (left ++ right) := by
  intro ys hlen hsorted
  obtain ⟨zs, rest, rfl, hzs⟩ : ∃ zs rest, ys = zs ++ rest ∧ zs.length = left.length :=
    ⟨ys.take left.length, ys.drop left.length, (List.take_append_drop _ _).symm, by
      rw [List.length_take, hlen, List.length_append, Nat.min_eq_left (Nat.le_add_right _ _)]⟩
  have hrest : rest.length = right.length := by
    rw [List.length_append, List.length_append] at hlen
    omega
  obtain ⟨hzsorted, hrsorted, hcross⟩ := List.pairwise_append.mp hsorted
  obtain ⟨c, tail, rfl⟩ : ∃ c tail, rest = c :: tail := by
    refine List.exists_cons_of_ne_nil fun hnil => hright ?_
    rw [hnil] at hrest
    exact List.length_eq_zero_iff.mp hrest.symm
  -- the first entry on the right separates the two halves of the sequence
  have hlow : left.length * c ≤ zs.sum := by
    rw [← hzs]
    exact le_sum_of_forall_le fun y hy => hcross y hy c List.mem_cons_self
  have hhigh : (c :: tail).sum ≤ right.length * c := by
    rw [← hrest]
    refine sum_le_of_forall_le fun y hy => ?_
    rcases List.mem_cons.mp hy with rfl | hy
    · exact le_rfl
    · exact (List.pairwise_cons.mp hrsorted).1 y hy
  obtain ⟨hlm, hmr⟩ := mean_between hleft hright h
  have hbalance := mean_balance hleft hright
  have hdown := mul_le_mul_of_nonpos_left hlow (sub_nonpos.mpr hlm)
  have hup := mul_le_mul_of_nonneg_left hhigh (sub_nonneg.mpr hmr)
  rw [pull_append hzs, pull_shift _ (mean left) hzs, pull_shift _ (mean right) hrest]
  have htight := hl zs hzs hzsorted
  have htight' := hr (c :: tail) hrest hrsorted
  have hzero : (mean left - mean (left ++ right)) * (left.length * c) +
      (mean right - mean (left ++ right)) * (right.length * c) = 0 := by
    linear_combination c * hbalance
  linarith

end Merge

/-- What the pooling keeps of its blocks, the last of which comes first. -/
structure Pooled (xs : List α) (blocks : List (List α)) : Prop where
  content : blocks.reverse.flatten = xs
  nonempty : ∀ block ∈ blocks, block ≠ []
  tight : ∀ block ∈ blocks, Tight block
  sorted : blocks.Pairwise fun upper lower => mean upper ≤ mean lower

theorem Pooled.push {xs right : List α} {blocks : List (List α)} (h : Pooled xs blocks)
    (hne : right ≠ []) (htight : Tight right) : Pooled (xs ++ right) (push blocks right) := by
  induction blocks generalizing xs right with
  | nil =>
    have hxs : xs = [] := h.content.symm
    subst hxs
    unfold Isotonic.push
    exact ⟨by simp, by simpa using hne, by simpa using htight, List.pairwise_singleton _ _⟩
  | cons left blocks ih =>
    obtain ⟨hbelow, hsorted⟩ := List.pairwise_cons.mp h.sorted
    unfold Isotonic.push
    split
    case isTrue hle =>
      refine ⟨?_, ?_, ?_, List.pairwise_cons.mpr ⟨?_, h.sorted⟩⟩
      · rw [List.reverse_cons, List.flatten_append, h.content, List.flatten_singleton]
      · exact List.forall_mem_cons.mpr ⟨hne, h.nonempty⟩
      · exact List.forall_mem_cons.mpr ⟨htight, h.tight⟩
      · intro block hblock
        rcases List.mem_cons.mp hblock with rfl | hblock
        · exact hle
        · exact hle.trans (hbelow block hblock)
    case isFalse hgt =>
      have hcontent : xs = blocks.reverse.flatten ++ left := by
        rw [← h.content, List.reverse_cons, List.flatten_append, List.flatten_singleton]
      have hrest : Pooled blocks.reverse.flatten blocks :=
        ⟨rfl, fun b hb => h.nonempty b (List.mem_cons_of_mem _ hb),
          fun b hb => h.tight b (List.mem_cons_of_mem _ hb), hsorted⟩
      have hleft := h.nonempty left List.mem_cons_self
      have hjoint := (h.tight left List.mem_cons_self).append hleft hne htight (not_le.mp hgt).le
      rw [hcontent, List.append_assoc]
      exact ih hrest (by simp [hleft]) hjoint

theorem pooled_foldl {xs done : List α} {blocks : List (List α)} (h : Pooled done blocks) :
    Pooled (done ++ xs) (xs.foldl (fun blocks x => Isotonic.push blocks [x]) blocks) := by
  induction xs generalizing done blocks with
  | nil => rwa [List.append_nil]
  | cons x xs ih =>
    have hstep := ih (h.push (List.cons_ne_nil x []) (tight_singleton x))
    rwa [List.append_assoc] at hstep

theorem pooled_pool (xs : List α) : Pooled xs (pool xs) := by
  have hnil : Pooled ([] : List α) [] := ⟨rfl, by simp, by simp, List.Pairwise.nil⟩
  exact pooled_foldl hnil

/-- Going by way of the levels is never longer. -/
theorem distance_levels_add_le {blocks : List (List α)} (hne : ∀ block ∈ blocks, block ≠ [])
    (htight : ∀ block ∈ blocks, Tight block) {ys : List α}
    (hlen : ys.length = blocks.flatten.length) (hsorted : ys.Pairwise (· ≥ ·)) :
    distance blocks.flatten (levels blocks) + distance (levels blocks) ys ≤
      distance blocks.flatten ys := by
  induction blocks generalizing ys with
  | nil => simp [distance, levels]
  | cons block blocks ih =>
    obtain ⟨hblock, hblocks⟩ := List.forall_mem_cons.mp hne
    obtain ⟨hb, hbs⟩ := List.forall_mem_cons.mp htight
    rw [List.flatten_cons, List.length_append] at hlen
    obtain ⟨zs, rest, rfl, hzs⟩ : ∃ zs rest, ys = zs ++ rest ∧ zs.length = block.length :=
      ⟨ys.take block.length, ys.drop block.length, (List.take_append_drop _ _).symm, by
        rw [List.length_take, hlen, Nat.min_eq_left (Nat.le_add_right _ _)]⟩
    obtain ⟨hzsorted, hrsorted, -⟩ := List.pairwise_append.mp hsorted
    have hrest := ih hblocks hbs (by rw [List.length_append] at hlen; omega) hrsorted
    have hone := distance_eq (mean block) hzs
    rw [sum_eq_mean hblock, sub_self, mul_zero, zero_sub] at hone
    have hpull := hb zs hzs hzsorted
    rw [levels_cons, List.flatten_cons, distance_append List.length_replicate,
      distance_append (by rw [hzs, List.length_replicate]), distance_append hzs]
    linarith

theorem project_isProjection (xs : List α) : IsProjection xs (project xs) := by
  have h := pooled_pool xs
  have hreverse : ∀ block, block ∈ (pool xs).reverse → block ∈ pool xs :=
    fun _ => List.mem_reverse.mp
  have hlen : (project xs).length = xs.length := by
    unfold project
    rw [length_levels, h.content]
  have hsorted : (project xs).Pairwise (· ≥ ·) := by
    refine levels_sorted (List.pairwise_reverse.mpr ?_)
    exact h.sorted
  refine ⟨hlen, hsorted, fun ys hys hysorted hne => ?_⟩
  have hvia := distance_levels_add_le (fun b hb => h.nonempty b (hreverse b hb))
    (fun b hb => h.tight b (hreverse b hb)) (by rw [h.content, hys]) hysorted
  rw [h.content] at hvia
  have hnonneg := distance_nonneg (project xs) ys
  have hpos : distance (project xs) ys ≠ 0 :=
    fun hzero => hne (eq_of_distance_eq_zero (by rw [hys, hlen]) hzero).symm
  have hlt := lt_of_le_of_ne hnonneg hpos.symm
  unfold project at hlt ⊢
  linarith

/-- Every level is the mean of a block of entries. -/
theorem exists_block_of_mem_project {xs : List α} {p : α} (hp : p ∈ project xs) :
    ∃ block, block ≠ [] ∧ block ⊆ xs ∧ p = mean block := by
  obtain ⟨block, hblock, hmem⟩ := List.mem_flatMap.mp hp
  have h := pooled_pool xs
  refine ⟨block, h.nonempty block (List.mem_reverse.mp hblock), ?_, List.eq_of_mem_replicate hmem⟩
  rw [← h.content]
  exact fun x hx => List.mem_flatten.mpr ⟨block, hblock, hx⟩

theorem project_le {xs : List α} {c p : α} (h : ∀ x ∈ xs, x ≤ c) (hp : p ∈ project xs) :
    p ≤ c := by
  obtain ⟨block, hne, hsub, rfl⟩ := exists_block_of_mem_project hp
  exact mean_le hne fun y hy => h y (hsub hy)

theorem le_project {xs : List α} {c p : α} (h : ∀ x ∈ xs, c ≤ x) (hp : p ∈ project xs) :
    c ≤ p := by
  obtain ⟨block, hne, hsub, rfl⟩ := exists_block_of_mem_project hp
  exact le_mean hne fun y hy => h y (hsub hy)

end Isotonic

import Mathlib.Data.List.MinMax
import Mathlib.Data.List.Destutter
import Mathlib.Order.Bounds.Basic

namespace Extremes

section Keys

variable {α β : Type*} [LinearOrder β]

/-- The first of the elements with the least key. -/
def minByKey (f : α → β) (l : List α) : Option α := l.argmin f

/-- The last of the elements with the greatest key. -/
def maxByKey (f : α → β) (l : List α) : Option α := l.reverse.argmax f

theorem minByKey_mem {f : α → β} {l : List α} {a : α} (h : minByKey f l = some a) : a ∈ l :=
  List.argmin_mem h

theorem maxByKey_mem {f : α → β} {l : List α} {a : α} (h : maxByKey f l = some a) : a ∈ l :=
  List.mem_reverse.mp (List.argmax_mem h)

theorem le_of_minByKey {f : α → β} {l : List α} {a b : α} (h : minByKey f l = some a)
    (hb : b ∈ l) : f a ≤ f b :=
  List.le_of_mem_argmin hb h

theorem le_of_maxByKey {f : α → β} {l : List α} {a b : α} (h : maxByKey f l = some a)
    (hb : b ∈ l) : f b ≤ f a :=
  List.le_of_mem_argmax (List.mem_reverse.mpr hb) h

@[simp] theorem minByKey_eq_none {f : α → β} {l : List α} : minByKey f l = none ↔ l = [] :=
  List.argmin_eq_none

@[simp] theorem maxByKey_eq_none {f : α → β} {l : List α} : maxByKey f l = none ↔ l = [] := by
  rw [maxByKey, List.argmax_eq_none, List.reverse_eq_nil_iff]

/-- A bound lies above the greatest key just when it lies above every key. -/
theorem maxByKey_all_iff {f : α → β} {l : List α} {p : β → Prop} [DecidablePred p]
    (hp : ∀ x y, x ≤ y → p y → p x) :
    (((maxByKey f l).map f).all fun m => p m) ↔ ∀ a ∈ l, p (f a) := by
  cases h : maxByKey f l with
  | none => simp [maxByKey_eq_none.mp h]
  | some m =>
    simp only [Option.map_some, Option.all_some, decide_eq_true_eq]
    constructor
    · intro hm a ha
      exact hp _ _ (le_of_maxByKey h ha) hm
    · intro hall
      exact hall m (maxByKey_mem h)

theorem max?_all_iff {l : List β} {p : β → Prop} [DecidablePred p]
    (hp : ∀ x y, x ≤ y → p y → p x) : (l.max?.all fun m => p m) ↔ ∀ a ∈ l, p a := by
  cases h : l.max? with
  | none => simp [List.max?_eq_none_iff.mp h]
  | some m =>
    obtain ⟨hm, hle⟩ := List.max?_eq_some_iff.mp h
    simp only [Option.all_some, decide_eq_true_eq]
    constructor
    · intro hpm a ha
      exact hp _ _ (hle a ha) hpm
    · intro hall
      exact hall m hm

/-- The least key of the elements that satisfy `p` is the least element of the set of their
keys. -/
theorem minByKey_isLeast {f : α → β} {l : List α} {S : Set β}
    (hS : ∀ x, x ∈ S ↔ ∃ a ∈ l, f a = x) {a : α} (h : minByKey f l = some a) :
    IsLeast S (f a) := by
  refine ⟨(hS _).mpr ⟨a, minByKey_mem h, rfl⟩, ?_⟩
  intro x hx
  obtain ⟨b, hb, rfl⟩ := (hS x).mp hx
  exact le_of_minByKey h hb

/-- The second value exists whenever the first does, and is no smaller. -/
def Raised (x y : Option β) : Prop := ∀ v, x = some v → ∃ w, y = some w ∧ v ≤ w

theorem Raised.refl (x : Option β) : Raised x x := fun v hv => ⟨v, hv, le_refl v⟩

theorem Raised.antisymm {x y : Option β} (hxy : Raised x y) (hyx : Raised y x) : x = y := by
  cases hx : x with
  | none =>
    cases hy : y with
    | none => rfl
    | some w =>
      obtain ⟨v, hv, _⟩ := hyx w hy
      simp [hx] at hv
  | some v =>
    obtain ⟨w, hw, hvw⟩ := hxy v hx
    obtain ⟨v', hv', hwv⟩ := hyx w hw
    obtain rfl := Option.some.inj (hx.symm.trans hv')
    rw [hw, le_antisymm hvw hwv]

theorem raised_max? {l l' : List β} (h : ∀ x ∈ l, ∃ y ∈ l', x ≤ y) : Raised l.max? l'.max? := by
  intro v hv
  obtain ⟨y, hy, hvy⟩ := h v (List.max?_mem hv)
  cases hmax : l'.max? with
  | none =>
    rw [List.max?_eq_none_iff.mp hmax] at hy
    simp at hy
  | some w => exact ⟨w, rfl, le_trans hvy ((List.max?_eq_some_iff.mp hmax).2 y hy)⟩

theorem max?_eq_of_perm {values values' : List β} (h : values.Perm values') :
    values.max? = values'.max? := by
  refine Raised.antisymm (raised_max? fun x hx => ⟨x, h.mem_iff.mp hx, le_rfl⟩)
    (raised_max? fun x hx => ⟨x, h.mem_iff.mpr hx, le_rfl⟩)

theorem min?_eq_of_perm {values values' : List β} (h : values.Perm values') :
    values.min? = values'.min? := by
  cases hmin : values.min? with
  | none =>
    rw [List.min?_eq_none_iff] at hmin
    subst hmin
    rw [List.nil_perm.mp h, List.min?_nil]
  | some least =>
    obtain ⟨hmem, hle⟩ := List.min?_eq_some_iff.mp hmin
    exact (List.min?_eq_some_iff.mpr
      ⟨h.mem_iff.mp hmem, fun x hx => hle x (h.mem_iff.mpr hx)⟩).symm

end Keys

section Runs

variable {α : Type*} [DecidableEq α]

/-- A list with each run of equal neighbours cut to one. -/
def dedup (l : List α) : List α := l.destutter (· ≠ ·)

theorem mem_destutter' {a b : α} {l : List α} :
    a ∈ l.destutter' (· ≠ ·) b ↔ a = b ∨ a ∈ l := by
  induction l generalizing b with
  | nil => simp
  | cons c l ih =>
    rw [List.destutter'_cons]
    split
    next => rw [List.mem_cons, ih, List.mem_cons]
    next hbc =>
      obtain rfl : b = c := not_not.mp hbc
      rw [ih, List.mem_cons, or_self_left]

theorem mem_dedup {a : α} {l : List α} : a ∈ dedup l ↔ a ∈ l := by
  cases l with
  | nil => simp [dedup]
  | cons b l => rw [dedup, List.destutter_cons', mem_destutter', List.mem_cons]

theorem getElem?_zero_destutter' {a : α} {l : List α} :
    (l.destutter' (· ≠ ·) a)[0]? = some a := by
  induction l generalizing a with
  | nil => rfl
  | cons b l ih =>
    rw [List.destutter'_cons]
    split
    next => rfl
    next => exact ih

theorem getElem?_zero_dedup {a : α} {l : List α} : (dedup (a :: l))[0]? = some a := by
  rw [dedup, List.destutter_cons']
  exact getElem?_zero_destutter'

/-- A sorted list cut at its equal neighbours rises strictly. -/
theorem pairwise_lt_dedup {β : Type*} [LinearOrder β] {l : List β} (h : l.Pairwise (· ≤ ·)) :
    (dedup l).Pairwise (· < ·) := by
  have hsorted : (dedup l).Pairwise (· ≤ ·) := h.sublist (List.destutter_sublist _ l)
  have hchain : (dedup l).IsChain (· ≠ ·) := List.isChain_destutter _ l
  have hlt : (dedup l).IsChain (· < ·) := by
    have hle : (dedup l).IsChain (· ≤ ·) := hsorted.isChain
    generalize dedup l = d at hchain hle
    induction d with
    | nil => exact List.isChain_nil
    | cons a d ih =>
      cases d with
      | nil => exact List.isChain_singleton a
      | cons b d =>
        rw [List.isChain_cons_cons] at hchain hle ⊢
        exact ⟨lt_of_le_of_ne hle.1 hchain.1, ih hchain.2 hle.2⟩
  exact List.isChain_iff_pairwise.mp hlt

theorem nodup_dedup {β : Type*} [LinearOrder β] {l : List β} (h : l.Pairwise (· ≤ ·)) :
    (dedup l).Nodup :=
  (pairwise_lt_dedup h).imp ne_of_lt

/-- In a strictly rising list an element stands where as many others lie below it. -/
theorem getElem?_eq_some_iff_filter {β : Type*} [LinearOrder β] {l : List β}
    (h : l.Pairwise (· < ·)) {i : Nat} {x : β} :
    l[i]? = some x ↔ x ∈ l ∧ (l.filter (· < x)).length = i := by
  induction l generalizing i with
  | nil => simp
  | cons a l ih =>
    obtain ⟨habove, hrest⟩ := List.pairwise_cons.mp h
    have hnone : l.filter (· < a) = [] :=
      List.filter_eq_nil_iff.mpr fun b hb => by simpa using (habove b hb).le
    cases i with
    | zero =>
      rw [List.getElem?_cons_zero, Option.some_inj]
      constructor
      · rintro rfl
        simp [hnone]
      · rintro ⟨hmem, hlength⟩
        rcases List.mem_cons.mp hmem with rfl | hmem
        · rfl
        · simp [habove x hmem] at hlength
    | succ i =>
      rw [List.getElem?_cons_succ, ih hrest]
      constructor
      · rintro ⟨hmem, rfl⟩
        simp [hmem, habove x hmem]
      · rintro ⟨hmem, hlength⟩
        rcases List.mem_cons.mp hmem with rfl | hmem
        · simp [hnone] at hlength
        · simpa [hmem, habove x hmem] using hlength

end Runs

end Extremes

import Mathlib.Algebra.Ring.Nat
import Mathlib.Data.List.Basic
import Mathlib.Data.List.Nodup
import Mathlib.Logic.Function.Iterate

namespace Nidavellir.Dispatch

section Passes

variable {ι σ τ : Type*} {grid : List ι}

/-- One pass over a grid: every invocation runs once, in the order the scheduler takes them. -/
def Dispatched (grid : List ι) (kernel : ι → σ → σ) (s s' : σ) : Prop :=
  ∃ order : List ι, order.Perm grid ∧ order.foldl (fun s i => kernel i s) s = s'

/-- Passes one after the other, numbered from zero. -/
inductive Submitted (grid : List ι) (kernel : Nat → ι → σ → σ) (s : σ) : Nat → σ → Prop
  | start : Submitted grid kernel s 0 s
  | pass {k : Nat} {s' s'' : σ} (before : Submitted grid kernel s k s')
      (step : Dispatched grid (kernel k) s' s'') : Submitted grid kernel s (k + 1) s''

theorem exists_dispatched (grid : List ι) (kernel : ι → σ → σ) (s : σ) :
    ∃ s', Dispatched grid kernel s s' :=
  ⟨_, grid, List.Perm.refl _, rfl⟩

theorem exists_submitted (grid : List ι) (kernel : Nat → ι → σ → σ) (s : σ) (k : Nat) :
    ∃ s', Submitted grid kernel s k s' := by
  induction k with
  | zero => exact ⟨s, .start⟩
  | succ k ih =>
    obtain ⟨s', hbefore⟩ := ih
    obtain ⟨s'', hstep⟩ := exists_dispatched grid (kernel k) s'
    exact ⟨s'', .pass hbefore hstep⟩

theorem Submitted.invariant {kernel : Nat → ι → σ → σ} {s s' : σ} {k : Nat}
    {I : Nat → σ → Prop} (hstart : I 0 s)
    (hstep : ∀ k s' s'', I k s' → Dispatched grid (kernel k) s' s'' → I (k + 1) s'')
    (h : Submitted grid kernel s k s') : I k s' := by
  induction h with
  | start => exact hstart
  | pass _ step ih => exact hstep _ _ _ ih step

theorem Submitted.unchanged {kernel : Nat → ι → σ → σ} {s s' : σ}
    (h : Submitted grid kernel s 0 s') : s' = s := by
  cases h
  rfl

theorem foldl_project {kernel : ι → σ → σ} {kernel' : ι → τ → τ} {view : σ → τ}
    (hview : ∀ i s, view (kernel i s) = kernel' i (view s)) (order : List ι) (s : σ) :
    view (order.foldl (fun s i => kernel i s) s) =
      order.foldl (fun t i => kernel' i t) (view s) := by
  induction order generalizing s with
  | nil => rfl
  | cons i order ih => rw [List.foldl_cons, List.foldl_cons, ih, hview]

/-- A part of the state that the kernel carries on by itself is dispatched by itself. -/
theorem Submitted.project {kernel : Nat → ι → σ → σ} {kernel' : Nat → ι → τ → τ} {view : σ → τ}
    (hview : ∀ k i s, view (kernel k i s) = kernel' k i (view s)) {s s' : σ} {k : Nat}
    (h : Submitted grid kernel s k s') : Submitted grid kernel' (view s) k (view s') := by
  induction h with
  | start => exact .start
  | pass _ step ih =>
    obtain ⟨order, hperm, rfl⟩ := step
    exact .pass ih ⟨order, hperm, (foldl_project (hview _) order _).symm⟩

end Passes

section Lanes

variable {α : Type*} {n m : Nat} {cells cells' : List α}

/-- An invocation within bounds rewrites its own cell. -/
def lane (n : Nat) (f : Nat → α → α) (i : Nat) (cells : List α) : List α :=
  if n ≤ i then cells else cells.modify i (f i)

theorem getElem?_foldl_lane (f : Nat → α → α) {order : List Nat} (hnodup : order.Nodup)
    (cells : List α) (j : Nat) :
    (order.foldl (fun cells i => lane n f i cells) cells)[j]? =
      if j ∈ order ∧ j < n then cells[j]?.map (f j) else cells[j]? := by
  induction order generalizing cells with
  | nil => simp
  | cons i order ih =>
    obtain ⟨hnew, hrest⟩ := List.nodup_cons.mp hnodup
    rw [List.foldl_cons, ih hrest]
    unfold lane
    by_cases hij : i = j
    · subst hij
      by_cases hn : n ≤ i
      · have hlt : ¬ i < n := by omega
        simp [hn, hlt]
      · have hlt : i < n := by omega
        simp [hn, hlt, hnew]
    · have hji : j ≠ i := fun h => hij h.symm
      have hkeep : (if n ≤ i then cells else cells.modify i (f i))[j]? = cells[j]? := by
        split
        · rfl
        · simp [hij]
      rw [hkeep]
      simp [hji]

/-- Lanes that keep to their own cells leave the same buffer in every order. -/
theorem Dispatched.lanes {f : Nat → α → α} (hlen : cells.length = n) (hm : n ≤ m)
    (h : Dispatched (List.range m) (lane n f) cells cells') : cells' = cells.mapIdx f := by
  obtain ⟨order, hperm, rfl⟩ := h
  have hnodup : order.Nodup := hperm.nodup_iff.mpr List.nodup_range
  apply List.ext_getElem?
  intro j
  rw [getElem?_foldl_lane f hnodup, List.getElem?_mapIdx]
  by_cases hj : j < n
  · have hmem : j ∈ order := hperm.mem_iff.mpr (List.mem_range.mpr (by omega))
    rw [if_pos ⟨hmem, hj⟩]
  · have hnone : cells[j]? = none := List.getElem?_eq_none (by omega)
    simp [hnone]

/-- Lanes that carry their cell on have carried it `k` times after `k` passes. -/
theorem Submitted.accumulates {f : Nat → α → α} {k : Nat} (hlen : cells.length = n) (hm : n ≤ m)
    (h : Submitted (List.range m) (fun _ => lane n f) cells k cells') :
    cells' = cells.mapIdx fun i => (f i)^[k] := by
  refine Submitted.invariant (I := fun k cells' => cells' = cells.mapIdx fun i => (f i)^[k])
    ?_ ?_ h
  · exact (List.mapIdx_eq_iff.mpr fun i => by simp).symm
  · intro k s' s'' hs' step
    have hs'len : s'.length = n := by simp [hs', hlen]
    rw [step.lanes hs'len hm, hs', List.mapIdx_mapIdx]
    congr 1
    funext i x
    exact (Function.iterate_succ_apply' (f i) k x).symm

/-- Lanes that write their cell anew have written it after the first pass. -/
theorem Submitted.rewrites {f : Nat → Nat → α → α} {value : Nat → α} {k : Nat}
    (hvalue : ∀ k i x, i < n → f k i x = value i) (hlen : cells.length = n) (hm : n ≤ m)
    (hk : 0 < k) (h : Submitted (List.range m) (fun k => lane n (f k)) cells k cells') :
    cells' = (List.range n).map value := by
  have hinv : cells'.length = n ∧ (0 < k → cells' = (List.range n).map value) := by
    refine Submitted.invariant
      (I := fun k cells' => cells'.length = n ∧ (0 < k → cells' = (List.range n).map value))
      ?_ ?_ h
    · exact ⟨hlen, fun h => absurd h (by omega)⟩
    · intro k s' s'' hs' step
      rw [step.lanes hs'.1 hm]
      refine ⟨by simp [hs'.1], fun _ => ?_⟩
      apply List.ext_getElem
      · simp [hs'.1]
      · intro i h₁ h₂
        have hi : i < n := by simpa using h₂
        simp [hvalue k i _ hi]
  exact hinv.2 hk

end Lanes

section GridStride

variable {α : Type*} {fuel : Nat} {n stride i : UInt32} {pattern : UInt32 → α}
  {cells cells' : List α} {j : Nat}

/-- One invocation of a grid-stride loop that writes a pattern: from cell `i` on in steps of the
grid, until it leaves the buffer. The counter is a word and wraps. -/
def gridStride (n stride : UInt32) (pattern : UInt32 → α) :
    Nat → UInt32 → List α → Option (List α)
  | 0, _, _ => none
  | fuel + 1, i, cells =>
    if n ≤ i then some cells
    else gridStride n stride pattern fuel (i + stride) (cells.set i.toNat (pattern i))

/-- The cell holds what the pattern says. -/
def Patterned (pattern : UInt32 → α) (cells : List α) (j : Nat) : Prop :=
  cells[j]? = some (pattern (UInt32.ofNat j))

theorem Patterned.set (h : Patterned pattern cells j) (i : UInt32) :
    Patterned pattern (cells.set i.toNat (pattern i)) j := by
  unfold Patterned at *
  by_cases hij : i.toNat = j
  · subst hij
    have hlt := (List.getElem?_eq_some_iff.mp h).1
    rw [List.getElem?_set_self hlt, UInt32.ofNat_toNat]
  · rw [List.getElem?_set_ne hij, h]

theorem patterned_set_self (h : i.toNat < cells.length) :
    Patterned pattern (cells.set i.toNat (pattern i)) i.toNat := by
  unfold Patterned
  rw [List.getElem?_set_self h, UInt32.ofNat_toNat]

theorem length_of_gridStride (h : gridStride n stride pattern fuel i cells = some cells') :
    cells'.length = cells.length := by
  induction fuel generalizing i cells with
  | zero => cases h
  | succ fuel ih =>
    rw [gridStride] at h
    split at h
    next => cases h; rfl
    next => rw [ih h, List.length_set]

theorem Patterned.gridStride (hj : Patterned pattern cells j)
    (h : gridStride n stride pattern fuel i cells = some cells') : Patterned pattern cells' j := by
  induction fuel generalizing i cells with
  | zero => cases h
  | succ fuel ih =>
    rw [Dispatch.gridStride] at h
    split at h
    next => cases h; exact hj
    next => exact ih (hj.set i) h

/-- The loop reaches every cell of its residue class above its start. -/
theorem patterned_of_gridStride (hlen : cells.length = n.toNat)
    (h : gridStride n stride pattern fuel i cells = some cells') (t : Nat)
    (ht : i.toNat + t * stride.toNat < n.toNat) :
    Patterned pattern cells' (i.toNat + t * stride.toNat) := by
  induction fuel generalizing i cells t with
  | zero => cases h
  | succ fuel ih =>
    have hin : i.toNat < n.toNat := by omega
    have hbelow : ¬ n ≤ i := by rw [UInt32.le_iff_toNat_le]; omega
    rw [gridStride, if_neg hbelow] at h
    rcases t with _ | t
    · have hself : Patterned pattern (cells.set i.toNat (pattern i)) i.toNat :=
        patterned_set_self (by omega)
      simpa using hself.gridStride h
    · -- Below `n` the counter has not wrapped yet.
      have hsmall : i.toNat + stride.toNat < 2 ^ 32 := by
        have := n.toNat_lt
        have : stride.toNat ≤ (t + 1) * stride.toNat := Nat.le_mul_of_pos_left _ (by omega)
        omega
      have hnext : (i + stride).toNat = i.toNat + stride.toNat := by
        rw [UInt32.toNat_add, Nat.mod_eq_of_lt hsmall]
      have hstep : i.toNat + (t + 1) * stride.toNat = (i + stride).toNat + t * stride.toNat := by
        rw [hnext, Nat.succ_mul]
        omega
      rw [hstep] at ht ⊢
      exact ih (by rw [List.length_set, hlen]) h t ht

/-- Where the counter has room for one more stride past the end, the loop ends. -/
theorem gridStride_ends (pattern : UInt32 → α) (hstride : 0 < stride.toNat)
    (hroom : n.toNat + stride.toNat ≤ 2 ^ 32) (hfuel : n.toNat - i.toNat < fuel) :
    ∃ cells', gridStride n stride pattern fuel i cells = some cells' := by
  induction fuel generalizing i cells with
  | zero => omega
  | succ fuel ih =>
    rw [gridStride]
    split
    next => exact ⟨cells, rfl⟩
    next hbelow =>
      rw [UInt32.le_iff_toNat_le] at hbelow
      have hnext : (i + stride).toNat = i.toNat + stride.toNat := by
        rw [UInt32.toNat_add, Nat.mod_eq_of_lt (by omega)]
      exact ih (by omega)

/-- One grid-stride pass over cells that are there, as long as every loop ends. -/
def stridePass (n stride : UInt32) (pattern : UInt32 → α) (fuel i : Nat)
    (cells : Option (List α)) : Option (List α) :=
  cells.bind (gridStride n stride pattern fuel (UInt32.ofNat i))

theorem foldl_stridePass_none (order : List Nat) :
    order.foldl (fun cells i => stridePass n stride pattern fuel i cells) none = none := by
  induction order with
  | nil => rfl
  | cons i order ih => exact ih

theorem patterned_foldl_stridePass {order : List Nat} (hlen : cells.length = n.toNat)
    (horder : ∀ i ∈ order, i < 2 ^ 32)
    (h : order.foldl (fun cells i => stridePass n stride pattern fuel i cells) (some cells) =
      some cells') :
    cells'.length = n.toNat ∧ ∀ j < n.toNat,
      (Patterned pattern cells j ∨ ∃ i ∈ order, ∃ t, j = i + t * stride.toNat) →
        Patterned pattern cells' j := by
  induction order generalizing cells with
  | nil =>
    cases h
    refine ⟨hlen, fun j _ hj => ?_⟩
    rcases hj with hj | ⟨i, hi, _⟩
    · exact hj
    · cases hi
  | cons i order ih =>
    rw [List.foldl_cons] at h
    cases hone : stridePass n stride pattern fuel i (some cells) with
    | none =>
      rw [hone, foldl_stridePass_none] at h
      cases h
    | some between =>
      rw [hone] at h
      have hbetween : between.length = n.toNat := (length_of_gridStride hone).trans hlen
      obtain ⟨hlen', hall⟩ := ih hbetween (fun i hi => horder i (List.mem_cons_of_mem _ hi)) h
      refine ⟨hlen', fun j hjn hj => ?_⟩
      have hi : (UInt32.ofNat i).toNat = i := by
        rw [UInt32.toNat_ofNat', Nat.mod_eq_of_lt (horder i List.mem_cons_self)]
      rcases hj with hj | ⟨i', hi', t, rfl⟩
      · exact hall j hjn (.inl (hj.gridStride hone))
      · rcases List.mem_cons.mp hi' with rfl | hi'
        · have hreached := patterned_of_gridStride hlen hone t (by rw [hi]; exact hjn)
          rw [hi] at hreached
          exact hall _ hjn (.inl hreached)
        · exact hall _ hjn (.inr ⟨i', hi', t, rfl⟩)

/-- A grid-stride pass that ends has written the whole pattern, in every order. -/
theorem Dispatched.stridden (hlen : cells.length = n.toNat) (hstride : 0 < stride.toNat)
    (h : Dispatched (List.range stride.toNat) (stridePass n stride pattern fuel) (some cells)
      (some cells')) :
    cells' = (List.range n.toNat).map fun j => pattern (UInt32.ofNat j) := by
  obtain ⟨order, hperm, hfold⟩ := h
  have horder : ∀ i ∈ order, i < 2 ^ 32 := by
    intro i hi
    have := List.mem_range.mp (hperm.mem_iff.mp hi)
    have := stride.toNat_lt
    omega
  obtain ⟨hlen', hall⟩ := patterned_foldl_stridePass hlen horder hfold
  apply List.ext_getElem?
  intro j
  by_cases hj : j < n.toNat
  · -- Cell `j` lies on the loop of the invocation it is congruent to.
    have hstart : j % stride.toNat ∈ order :=
      hperm.mem_iff.mpr (List.mem_range.mpr (Nat.mod_lt _ hstride))
    have hon : j = j % stride.toNat + j / stride.toNat * stride.toNat := by
      have := Nat.mod_add_div' j stride.toNat
      omega
    have hcell : Patterned pattern cells' j := hall j hj (.inr ⟨_, hstart, _, hon⟩)
    unfold Patterned at hcell
    rw [hcell, List.getElem?_map, List.getElem?_range hj]
    rfl
  · rw [List.getElem?_eq_none (by omega), List.getElem?_eq_none (by simpa using hj)]

theorem exists_foldl_stridePass (pattern : UInt32 → α) (hstride : 0 < stride.toNat)
    (hroom : n.toNat + stride.toNat ≤ 2 ^ 32) (order : List Nat) (cells : List α) :
    ∃ cells', order.foldl
      (fun cells i => stridePass n stride pattern (n.toNat + 1) i cells) (some cells) =
        some cells' := by
  induction order generalizing cells with
  | nil => exact ⟨cells, rfl⟩
  | cons i order ih =>
    have hone : ∃ between,
        stridePass n stride pattern (n.toNat + 1) i (some cells) = some between :=
      gridStride_ends pattern hstride hroom (Nat.lt_succ_of_le (Nat.sub_le _ _))
    obtain ⟨between, hone⟩ := hone
    rw [List.foldl_cons, hone]
    exact ih between

end GridStride

end Nidavellir.Dispatch

import Mathlib.Data.List.SplitBy
import Mathlib.Data.List.Sort

namespace GapRuns

variable {α β : Type*} {r : α → α → Bool} {l l' : List α} {runs runs' : List (List α)}

/-- The runs of a list, each as long as its neighbours allow. -/
structure MaximalRuns (r : α → α → Bool) (l : List α) (runs : List (List α)) : Prop where
  joined : l = runs.flatten
  nonempty : [] ∉ runs
  within : ∀ run ∈ runs, run.IsChain fun a b => r a b = true
  between : runs.IsChain fun a b => ∃ ha hb, r (a.getLast ha) (b.head hb) = false

theorem maximalRuns_iff : MaximalRuns r l runs ↔ l.splitBy r = runs := by
  rw [List.splitBy_eq_iff]
  exact ⟨fun h => ⟨h.joined, h.nonempty, h.within, h.between⟩,
    fun h => ⟨h.1, h.2.1, h.2.2.1, h.2.2.2⟩⟩

theorem MaximalRuns.unique (h : MaximalRuns r l runs) (h' : MaximalRuns r l runs') :
    runs = runs' :=
  (maximalRuns_iff.mp h).symm.trans (maximalRuns_iff.mp h')

/-- One element joins the last run or opens a new one. -/
def push (r : α → α → Bool) (runs : List (List α)) (a : α) : List (List α) :=
  match runs.getLast? with
  | none => [[a]]
  | some run => if run.getLast?.any (r · a) then runs.dropLast ++ [run ++ [a]] else runs ++ [[a]]

def greedyRuns (r : α → α → Bool) (l : List α) : List (List α) := l.foldl (push r) []

theorem MaximalRuns.push (h : MaximalRuns r l runs) (a : α) :
    MaximalRuns r (l ++ [a]) (push r runs a) := by
  rcases List.eq_nil_or_concat' runs with rfl | ⟨init, run, rfl⟩
  · have hempty : l = [] := h.joined
    subst hempty
    exact maximalRuns_iff.mpr rfl
  · have hrun : run ≠ [] := fun h' => h.nonempty (by simp [h'])
    obtain ⟨front, last, rfl⟩ := (List.eq_nil_or_concat' run).resolve_left hrun
    have hpush : GapRuns.push r (init ++ [front ++ [last]]) a =
        if r last a then init ++ [front ++ [last] ++ [a]]
        else init ++ [front ++ [last]] ++ [[a]] := by
      simp [GapRuns.push]
    rw [hpush]
    obtain ⟨hjoined, hnonempty, hwithin, hbetween⟩ := h
    subst hjoined
    by_cases hnear : r last a = true
    · rw [if_pos hnear]
      refine ⟨by simp, by simpa using hnonempty, ?_, ?_⟩
      · rw [List.forall_mem_append, List.forall_mem_singleton] at hwithin ⊢
        refine ⟨hwithin.1, List.isChain_append.mpr ⟨hwithin.2, List.isChain_singleton _, ?_⟩⟩
        simpa using hnear
      · rw [List.isChain_append] at hbetween ⊢
        refine ⟨hbetween.1, List.isChain_singleton _, ?_⟩
        intro before hbefore after hafter
        obtain ⟨hne, hne', hfar⟩ := hbetween.2.2 before hbefore _ rfl
        have hafter : after = front ++ [last] ++ [a] := by simpa using hafter.symm
        subst hafter
        refine ⟨hne, by simp, ?_⟩
        rwa [List.head_append_of_ne_nil]
    · rw [if_neg hnear]
      refine ⟨by simp, by simpa using hnonempty, ?_, ?_⟩
      · rw [List.forall_mem_append, List.forall_mem_singleton]
        exact ⟨hwithin, List.isChain_singleton _⟩
      · rw [List.isChain_append]
        refine ⟨hbetween, List.isChain_singleton _, ?_⟩
        intro before hbefore after hafter
        have hbefore : before = front ++ [last] := by simpa using hbefore.symm
        have hafter : after = [a] := by simpa using hafter.symm
        subst hbefore hafter
        exact ⟨by simp, by simp, by simpa using hnear⟩

/-- The single pass finds the maximal runs. -/
theorem maximalRuns_greedyRuns (r : α → α → Bool) (l : List α) :
    MaximalRuns r l (greedyRuns r l) := by
  induction l using List.reverseRecOn with
  | nil => exact maximalRuns_iff.mpr rfl
  | append_singleton l a ih =>
    unfold greedyRuns
    rw [List.foldl_append]
    exact ih.push a

theorem greedyRuns_of_isChain (hne : l ≠ []) (h : l.IsChain fun a b => r a b = true) :
    greedyRuns r l = [l] :=
  ((maximalRuns_iff.mp (maximalRuns_greedyRuns r l)).symm.trans (List.splitBy_of_isChain hne h))

section Keyed

variable {key : α → β} {near : β → β → Bool}

theorem MaximalRuns.map (h : MaximalRuns (fun a b => near (key a) (key b)) l runs) :
    MaximalRuns near (l.map key) (runs.map (List.map key)) where
  joined := by rw [h.joined, List.map_flatten]
  nonempty := by
    intro hmem
    obtain ⟨run, hrun, hempty⟩ := List.mem_map.mp hmem
    rw [List.map_eq_nil_iff.mp hempty] at hrun
    exact h.nonempty hrun
  within := by
    intro keys hkeys
    obtain ⟨run, hrun, rfl⟩ := List.mem_map.mp hkeys
    exact (List.isChain_map key).mpr (h.within run hrun)
  between := by
    refine (List.isChain_map _).mpr (h.between.imp ?_)
    rintro a b ⟨ha, hb, hfar⟩
    refine ⟨by simpa using ha, by simpa using hb, ?_⟩
    rwa [List.getLast_map, List.head_map]

/-- A run by itself is one run. -/
theorem MaximalRuns.alone {run : List α} (h : MaximalRuns r l runs) (hrun : run ∈ runs) :
    greedyRuns r run = [run] :=
  greedyRuns_of_isChain (fun hempty => h.nonempty (hempty ▸ hrun)) (h.within run hrun)

variable [LinearOrder β]

theorem head_le_of_sorted {a : α} (hsorted : l.Pairwise fun a b => key a ≤ key b) (hne : l ≠ [])
    (ha : a ∈ l) : key (l.head hne) ≤ key a := by
  cases l with
  | nil => exact absurd rfl hne
  | cons first rest =>
    rcases List.mem_cons.mp ha with rfl | hrest
    · exact le_rfl
    · exact (List.pairwise_cons.mp hsorted).1 a hrest

theorem le_getLast_of_sorted {a : α} (hsorted : l.Pairwise fun a b => key a ≤ key b)
    (hne : l ≠ []) (ha : a ∈ l) : key a ≤ key (l.getLast hne) := by
  rcases List.eq_nil_or_concat' l with rfl | ⟨front, last, rfl⟩
  · exact absurd rfl hne
  · rw [List.getLast_append_singleton]
    rcases List.mem_append.mp ha with hfront | hlast
    · exact (List.pairwise_append.mp hsorted).2.2 a hfront last (List.mem_singleton_self _)
    · rw [List.mem_singleton.mp hlast]

/-- The runs of a sorted list lie strictly one above the other. -/
theorem MaximalRuns.strict (h : MaximalRuns (fun a b => near (key a) (key b)) l runs)
    (hnear : ∀ x, near x x = true) (hsorted : l.Pairwise fun a b => key a ≤ key b) :
    runs.Pairwise fun low high => ∀ a ∈ low, ∀ b ∈ high, key a < key b := by
  obtain ⟨hjoined, hnonempty, -, hbetween⟩ := h
  subst hjoined
  induction runs with
  | nil => exact List.Pairwise.nil
  | cons run rest ih =>
    rw [List.flatten_cons, List.pairwise_append] at hsorted
    obtain ⟨hrun, hrest, hacross⟩ := hsorted
    obtain ⟨hfirst, hlater⟩ := List.isChain_cons.mp hbetween
    refine List.pairwise_cons.mpr
      ⟨?_, ih (fun hmem => hnonempty (List.mem_cons_of_mem _ hmem)) hlater hrest⟩
    intro high hhigh a ha b hb
    cases rest with
    | nil => cases hhigh
    | cons next later =>
      obtain ⟨hne, hne', hfar⟩ := hfirst next rfl
      have hlast := le_getLast_of_sorted hrun hne ha
      have hgap : key (run.getLast hne) < key (next.head hne') := by
        refine lt_of_le_of_ne (hacross _ (List.getLast_mem hne) _ ?_) ?_
        · exact List.mem_flatten.mpr ⟨next, List.mem_cons_self, List.head_mem hne'⟩
        · intro heq
          rw [heq, hnear] at hfar
          cases hfar
      have hhead : key (next.head hne') ≤ key b := by
        rw [List.flatten_cons, List.pairwise_append] at hrest
        rcases List.mem_cons.mp hhigh with rfl | hlater
        · exact head_le_of_sorted hrest.1 hne' hb
        · exact hrest.2.2 _ (List.head_mem hne') b (List.mem_flatten.mpr ⟨high, hlater, hb⟩)
      exact lt_of_le_of_lt hlast (lt_of_lt_of_le hgap hhead)

/-- A run holds exactly the elements whose keys it has. -/
theorem MaximalRuns.eq_filter (h : MaximalRuns (fun a b => near (key a) (key b)) l runs)
    (hnear : ∀ x, near x x = true) (hsorted : l.Pairwise fun a b => key a ≤ key b)
    {run : List α} (hrun : run ∈ runs) :
    run = l.filter fun a => decide (key a ∈ run.map key) := by
  have hstrict := h.strict hnear hsorted
  obtain ⟨low, high, rfl⟩ := List.append_of_mem hrun
  rw [List.pairwise_append, List.pairwise_cons] at hstrict
  obtain ⟨-, ⟨hhigh, -⟩, hlow⟩ := hstrict
  have hnone : ∀ others : List (List α),
      (∀ other ∈ others, ∀ a ∈ other, ∀ b ∈ run, key a ≠ key b) →
      (others.flatten.filter fun a => decide (key a ∈ run.map key)) = [] := by
    intro others hapart
    rw [List.filter_eq_nil_iff]
    intro a ha
    obtain ⟨other, hother, haother⟩ := List.mem_flatten.mp ha
    rw [decide_eq_true_iff, List.mem_map]
    rintro ⟨b, hb, heq⟩
    exact hapart other hother a haother b hb heq.symm
  have hself : (run.filter fun a => decide (key a ∈ run.map key)) = run := by
    rw [List.filter_eq_self]
    intro a ha
    rw [decide_eq_true_iff]
    exact List.mem_map_of_mem ha
  rw [h.joined, List.flatten_append, List.flatten_cons, List.filter_append, List.filter_append,
    hself, hnone low fun other hother a ha b hb =>
      ne_of_lt (hlow other hother run List.mem_cons_self a ha b hb),
    hnone high fun other hother a ha b hb => ne_of_gt (hhigh other hother b hb a ha),
    List.nil_append, List.append_nil]

/-- The keys of the runs do not depend on how elements of one key are ordered. -/
theorem MaximalRuns.keys_eq (h : MaximalRuns (fun a b => near (key a) (key b)) l runs)
    (h' : MaximalRuns (fun a b => near (key a) (key b)) l' runs') (hperm : l.Perm l')
    (hsorted : l.Pairwise fun a b => key a ≤ key b)
    (hsorted' : l'.Pairwise fun a b => key a ≤ key b) :
    runs.map (List.map key) = runs'.map (List.map key) := by
  have hkeys : l.map key = l'.map key :=
    List.Perm.eq_of_pairwise (fun _ _ _ _ => le_antisymm) (List.pairwise_map.mpr hsorted)
      (List.pairwise_map.mpr hsorted') (hperm.map key)
  have hmap := h.map
  rw [hkeys] at hmap
  exact hmap.unique h'.map

end Keyed

end GapRuns

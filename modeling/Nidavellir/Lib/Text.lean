import Mathlib.Data.List.DropRight

namespace Text

/-- The characters with the Unicode property White_Space. -/
def isWhitespace (c : Char) : Bool :=
  (0x09 ≤ c.val && c.val ≤ 0x0D) || c.val == 0x20 || c.val == 0x85 || c.val == 0xA0 ||
    c.val == 0x1680 || (0x2000 ≤ c.val && c.val ≤ 0x200A) || c.val == 0x2028 ||
    c.val == 0x2029 || c.val == 0x202F || c.val == 0x205F || c.val == 0x3000

def toAsciiLowercase (s : List Char) : List Char := s.map Char.toLower

/-- The needle stands somewhere in the text. -/
def contains (s needle : List Char) : Bool :=
  match s with
  | [] => needle.isEmpty
  | c :: rest => needle.isPrefixOf (c :: rest) || contains rest needle

def trimStart (s : List Char) : List Char := s.dropWhile isWhitespace

def trimEnd (s : List Char) : List Char := s.rdropWhile isWhitespace

def trim (s : List Char) : List Char := trimEnd (trimStart s)

/-- The lines that end in a newline, without it, and the rest of the text. -/
def splitLines : List Char → List (List Char) × List Char
  | [] => ([], [])
  | c :: s =>
    let (complete, rest) := splitLines s
    if c = '\n' then ([] :: complete, rest)
    else
      match complete with
      | [] => ([], c :: rest)
      | line :: complete => ((c :: line) :: complete, rest)

/-- Drops a carriage return at the end of a line that a newline ended. -/
def stripCr (line : List Char) : List Char :=
  if line.getLast? = some '\r' then line.dropLast else line

/-- The lines of a text; a last one without a newline counts when it is not empty. -/
def lines (s : List Char) : List (List Char) :=
  let (complete, rest) := splitLines s
  complete.map stripCr ++ if rest = [] then [] else [rest]

/-- The last line of a text when no newline ends it. -/
def openLine (s : List Char) : List Char := (splitLines s).2

def joinLines (complete : List (List Char)) : List Char := complete.flatMap (· ++ ['\n'])

theorem splitLines_cons_of_ne {c : Char} {s : List Char} (hc : c ≠ '\n') :
    splitLines (c :: s) =
      match (splitLines s).1 with
      | [] => ([], c :: (splitLines s).2)
      | line :: complete => ((c :: line) :: complete, (splitLines s).2) := by
  simp only [splitLines, hc, if_false]

theorem splitLines_of_notMem {s : List Char} (h : '\n' ∉ s) : splitLines s = ([], s) := by
  induction s with
  | nil => rfl
  | cons c s ih =>
    rw [List.mem_cons, not_or] at h
    rw [splitLines_cons_of_ne (Ne.symm h.1), ih h.2]

theorem splitLines_line {line s : List Char} (h : '\n' ∉ line) :
    splitLines (line ++ '\n' :: s) = (line :: (splitLines s).1, (splitLines s).2) := by
  induction line with
  | nil => simp [splitLines]
  | cons c line ih =>
    rw [List.mem_cons, not_or] at h
    rw [List.cons_append, splitLines_cons_of_ne (Ne.symm h.1), ih h.2]

/-- Complete lines and an open one split back into themselves. -/
theorem splitLines_join {complete : List (List Char)} {rest : List Char}
    (hc : ∀ line ∈ complete, '\n' ∉ line) (hr : '\n' ∉ rest) :
    splitLines (joinLines complete ++ rest) = (complete, rest) := by
  induction complete with
  | nil => exact splitLines_of_notMem hr
  | cons line complete ih =>
    have hrest := ih fun l hl => hc l (List.mem_cons_of_mem _ hl)
    have hjoin : joinLines (line :: complete) ++ rest =
        line ++ '\n' :: (joinLines complete ++ rest) := by
      simp [joinLines]
    rw [hjoin, splitLines_line (hc line List.mem_cons_self), hrest]

/-- Every text is the join of its lines. -/
theorem splitLines_spec (s : List Char) :
    s = joinLines (splitLines s).1 ++ (splitLines s).2 ∧
      (∀ line ∈ (splitLines s).1, '\n' ∉ line) ∧ '\n' ∉ (splitLines s).2 := by
  induction s with
  | nil => simp [splitLines, joinLines]
  | cons c s ih =>
    obtain ⟨hs, hc, hr⟩ := ih
    by_cases hn : c = '\n'
    · subst hn
      have hsplit : splitLines ('\n' :: s) = ([] :: (splitLines s).1, (splitLines s).2) := by
        simp [splitLines]
      rw [hsplit]
      refine ⟨?_, ?_, hr⟩
      · show '\n' :: s = '\n' :: (joinLines (splitLines s).1 ++ (splitLines s).2)
        rw [← hs]
      · intro line hline
        rcases List.mem_cons.mp hline with rfl | hline
        · exact List.not_mem_nil
        · exact hc line hline
    · rw [splitLines_cons_of_ne hn]
      cases h : (splitLines s).1 with
      | nil =>
        rw [h] at hs
        refine ⟨?_, by simp, ?_⟩
        · show c :: s = c :: (splitLines s).2
          exact congrArg (c :: ·) hs
        · simp [Ne.symm hn, hr]
      | cons line complete =>
        rw [h] at hs hc
        refine ⟨?_, ?_, hr⟩
        · show c :: s = c :: (joinLines (line :: complete) ++ (splitLines s).2)
          rw [← hs]
        · intro l hl
          rcases List.mem_cons.mp hl with rfl | hl
          · simp [Ne.symm hn, hc line List.mem_cons_self]
          · exact hc l (List.mem_cons_of_mem _ hl)

theorem splitLines_append_open {s t : List Char} (h : '\n' ∉ t) :
    splitLines (s ++ t) = ((splitLines s).1, openLine s ++ t) := by
  obtain ⟨hs, hc, hr⟩ := splitLines_spec s
  have hjoin : s ++ t = joinLines (splitLines s).1 ++ (openLine s ++ t) := by
    rw [← List.append_assoc, openLine, ← hs]
  rw [hjoin]
  exact splitLines_join hc (by simp [openLine, hr, h])

/-- Lines appended to a text: the first one is glued to the text's open line. -/
theorem splitLines_append_lines {s t : List Char} {later : List (List Char)} (h : '\n' ∉ t)
    (hl : ∀ line ∈ later, '\n' ∉ line) :
    splitLines (s ++ t ++ '\n' :: joinLines later) =
      ((splitLines s).1 ++ (openLine s ++ t) :: later, []) := by
  obtain ⟨hs, hc, hr⟩ := splitLines_spec s
  have hjoin : s ++ t ++ '\n' :: joinLines later =
      joinLines ((splitLines s).1 ++ (openLine s ++ t) :: later) ++ [] := by
    have hglued : joinLines ((splitLines s).1 ++ (openLine s ++ t) :: later) =
        joinLines (splitLines s).1 ++ openLine s ++ t ++ '\n' :: joinLines later := by
      simp [joinLines]
    rw [List.append_nil, hglued, openLine, ← hs]
  rw [hjoin]
  apply splitLines_join
  · intro line hline
    rcases List.mem_append.mp hline with hold | hnew
    · exact hc line hold
    · rcases List.mem_cons.mp hnew with rfl | hlater
      · simp [openLine, hr, h]
      · exact hl line hlater
  · exact List.not_mem_nil

/-- Dropping from the front stops at a character that is kept. -/
theorem dropWhile_append_kept {p : Char → Bool} {c : Char} (hc : p c = false)
    (x rest : List Char) :
    (x ++ c :: rest).dropWhile p = x.dropWhile p ++ c :: rest := by
  rw [List.dropWhile_append]
  split
  next hx => rw [List.isEmpty_iff.mp hx, List.nil_append, List.dropWhile_cons_of_neg (by simp [hc])]
  next => rfl

theorem trimEnd_append_kept {c : Char} (hc : isWhitespace c = false) (x rest : List Char) :
    trimEnd (x ++ c :: rest) = x ++ c :: trimEnd rest := by
  unfold trimEnd List.rdropWhile
  have hreverse : (x ++ c :: rest).reverse = rest.reverse ++ c :: x.reverse := by simp
  rw [hreverse, dropWhile_append_kept hc]
  simp

theorem trimEnd_concat_kept {c : Char} (hc : isWhitespace c = false) (x : List Char) :
    trimEnd (x ++ [c]) = x ++ [c] := by
  rw [trimEnd_append_kept hc]
  rfl

theorem trimEnd_prefix (x : List Char) : trimEnd x <+: x :=
  List.rdropWhile_prefix _ x

theorem dropWhile_eq_nil_of_all {p : Char → Bool} {x : List Char} (h : x.all p) :
    x.dropWhile p = [] := by
  rw [List.dropWhile_eq_nil_iff]
  exact List.all_eq_true.mp h

theorem trim_of_kept {x : List Char} (h : ∀ c ∈ x, isWhitespace c = false) : trim x = x := by
  have hstart : trimStart x = x := List.dropWhile_eq_self_iff.mpr fun hl => by
    rw [h _ (List.getElem_mem ..)]
    exact Bool.false_ne_true
  unfold trim trimEnd
  rw [hstart, List.rdropWhile_eq_self_iff]
  intro hne
  rw [h _ (List.getLast_mem hne)]
  exact Bool.false_ne_true

theorem isWhitespace_of_isDigit {c : Char} (h : c.isDigit = true) : isWhitespace c = false := by
  have hdigit : 0x30 ≤ c.val.toNat ∧ c.val.toNat ≤ 0x39 := by
    simpa [Char.isDigit, UInt32.le_iff_toNat_le] using h
  simp only [isWhitespace, Bool.or_eq_false_iff, Bool.and_eq_false_iff, decide_eq_false_iff_not,
    beq_eq_false_iff_ne, UInt32.le_iff_toNat_le, ne_eq, ← UInt32.toNat_inj, UInt32.reduceToNat]
  omega

theorem stripCr_of_getLast? {line : List Char} (h : line.getLast? ≠ some '\r') :
    stripCr line = line :=
  if_neg h

end Text

import Nidavellir.Lib.Text
import Nidavellir.Lib.Utf8

namespace JsonLines

open Text

/-- An append-only file of one entry a line: how an entry is written, what the reader makes of a
line, and what may stand before an entry on its line. -/
structure Format (α : Type*) where
  encode : α → List Char
  read : List Char → Option α
  blank : List Char → Bool

variable {α : Type*}

/-- The laws of a format on the entries that `ok` admits. -/
structure Format.Lawful (fmt : Format α) (ok : α → Prop) : Prop where
  one_line : ∀ e, ok e → '\n' ∉ fmt.encode e
  no_cr : ∀ e, ok e → (fmt.encode e).getLast? ≠ some '\r'
  blank_nil : fmt.blank []
  read_blank : ∀ x, fmt.blank x → fmt.read x = none
  read_after_blank : ∀ e x, ok e → fmt.blank x → fmt.read (x ++ fmt.encode e) = some e
  read_glued : ∀ e x, ok e → ¬ fmt.blank x → fmt.read (x ++ fmt.encode e) = none
  read_cut : ∀ e x q, ok e → q ≠ [] → q <+: fmt.encode e → q ≠ fmt.encode e →
    fmt.read (x ++ q) = none
  not_blank : ∀ e x q, ok e → q ≠ [] → q <+: fmt.encode e → ¬ fmt.blank (x ++ q)

namespace Format

variable (fmt : Format α)

def line (e : α) : ByteArray := Utf8.encode (fmt.encode e ++ ['\n'])

def append (file : ByteArray) (e : α) : ByteArray := file ++ fmt.line e

def loadText (text : List Char) : List α := (lines text).filterMap fmt.read

def loadAll (file : ByteArray) : List α := ((Utf8.decode file).map fmt.loadText).getD []

/-- The lines a reader sees in a file; none in a file that is not UTF-8. -/
def linesOf (file : ByteArray) : List (List Char) := ((Utf8.decode file).map lines).getD []

/-- The line of a file that no newline ends. -/
def openLineOf (file : ByteArray) : List Char := ((Utf8.decode file).map openLine).getD []

/-- The torn writes of `e` that cost nothing: the bytes `written` behind `file`, with the
entries of `later` appended after them. -/
inductive TornHarmless (file written : ByteArray) (e : α) (later : List α) : Prop
  | unreadable (hcut : ¬ (file ++ written).IsValidUTF8) (hlater : later = [])
      (hnone : ∀ l ∈ linesOf file, fmt.read l = none)
  | unwritten (hfile : file.IsValidUTF8) (hwritten : written = .empty)
      (hopen : later = [] ∨ fmt.blank (openLineOf file))
  | written (hvalid : (file ++ written).IsValidUTF8) (hwritten : written ≠ .empty)
      (hopen : fmt.read (openLineOf file) = none) (hlater : later = [] ∨ written = fmt.line e)

variable {fmt}

theorem foldl_append (file : ByteArray) (later : List α) :
    later.foldl fmt.append file = file ++ Utf8.encode (joinLines (later.map fmt.encode)) := by
  induction later generalizing file with
  | nil =>
    have hempty : Utf8.encode (joinLines []) = .empty := rfl
    rw [List.map_nil, hempty, ByteArray.append_empty, List.foldl_nil]
  | cons e later ih =>
    rw [List.foldl_cons, ih, append, line, ByteArray.append_assoc, ← Utf8.encode_append]
    rfl

@[simp] theorem loadAll_encode (text : List Char) :
    fmt.loadAll (Utf8.encode text) = fmt.loadText text := by
  simp [loadAll]

@[simp] theorem openLineOf_encode (text : List Char) :
    openLineOf (Utf8.encode text) = openLine text := by
  simp [openLineOf]

theorem loadAll_invalid {file : ByteArray} (h : ¬ file.IsValidUTF8) : fmt.loadAll file = [] := by
  rw [loadAll, Utf8.decode_eq_none_iff.mpr h]
  rfl

theorem loadAll_eq_nil_iff {file : ByteArray} :
    fmt.loadAll file = [] ↔ ∀ l ∈ linesOf file, fmt.read l = none := by
  rw [loadAll, linesOf]
  cases Utf8.decode file with
  | none => simp
  | some text => simp [loadText, List.filterMap_eq_nil_iff]

/-- What the complete lines of a text hold. -/
def loadComplete (fmt : Format α) (text : List Char) : List α :=
  ((splitLines text).1.map stripCr).filterMap fmt.read

theorem append_toList_eq_iff {l m : List α} {a b : Option α} {first : List α} :
    l ++ a.toList ++ m = l ++ b.toList ++ first ++ m ↔ a.toList = b.toList ++ first := by
  rw [List.append_assoc l b.toList, List.append_left_inj, List.append_right_inj]

theorem lost_ne {l m m' first : List α} {e : α} : l ++ m ≠ l ++ m' ++ first ++ e :: m := by
  intro heq
  have hlen := congrArg List.length heq
  simp only [List.length_append, List.length_cons] at hlen
  omega

namespace Lawful

variable {ok : α → Prop} (h : fmt.Lawful ok)

include h

theorem loadText_open (text : List Char) :
    fmt.loadText text = fmt.loadComplete text ++ (fmt.read (openLine text)).toList := by
  have hempty := h.read_blank [] h.blank_nil
  unfold loadText lines loadComplete openLine
  rw [List.filterMap_append]
  split
  next hr => simp [hr, hempty]
  next hr => cases hread : fmt.read (splitLines text).2 <;> simp [hread]

theorem loadText_append_open (text : List Char) {q : List Char} (hq : '\n' ∉ q) :
    fmt.loadText (text ++ q) =
      fmt.loadComplete text ++ (fmt.read (openLine text ++ q)).toList := by
  rw [h.loadText_open, loadComplete, openLine, splitLines_append_open hq]
  rfl

theorem stripCr_glued {e : α} (he : ok e) (x : List Char) (hne : fmt.encode e ≠ []) :
    stripCr (x ++ fmt.encode e) = x ++ fmt.encode e := by
  apply stripCr_of_getLast?
  rw [List.getLast?_append_of_ne_nil _ hne]
  exact h.no_cr e he

theorem encode_ne_nil {e : α} (he : ok e) : fmt.encode e ≠ [] := by
  intro hnil
  have hread := h.read_after_blank e [] he h.blank_nil
  have hnone := h.read_blank [] h.blank_nil
  rw [hnil, List.append_nil, hnone] at hread
  simp at hread

theorem read_encode {e : α} (he : ok e) : fmt.read (fmt.encode e) = some e :=
  h.read_after_blank e [] he h.blank_nil

theorem loadText_glued (text : List Char) {x : List Char} {e : α} {later : List α}
    (hx : '\n' ∉ x) (he : ok e) (hlater : ∀ e ∈ later, ok e) :
    fmt.loadText (text ++ (x ++ fmt.encode e) ++ '\n' :: joinLines (later.map fmt.encode)) =
      fmt.loadComplete text ++ (fmt.read (openLine text ++ x ++ fmt.encode e)).toList ++
        later := by
  have hline : '\n' ∉ x ++ fmt.encode e := by
    rw [List.mem_append, not_or]
    exact ⟨hx, h.one_line e he⟩
  have hlines : ∀ line ∈ later.map fmt.encode, '\n' ∉ line := by
    intro line hline
    obtain ⟨e', he', rfl⟩ := List.mem_map.mp hline
    exact h.one_line e' (hlater e' he')
  have hrest : ((later.map fmt.encode).map stripCr).filterMap fmt.read = later := by
    rw [List.map_map, List.filterMap_map]
    have hsome : ∀ e' ∈ later, (fmt.read ∘ stripCr ∘ fmt.encode) e' = some e' := by
      intro e' he'
      have hstrip := h.stripCr_glued (hlater e' he') [] (h.encode_ne_nil (hlater e' he'))
      rw [List.nil_append] at hstrip
      rw [Function.comp_apply, Function.comp_apply, hstrip]
      exact h.read_encode (hlater e' he')
    rw [List.filterMap_congr hsome, List.filterMap_some]
  have hglued : stripCr (openLine text ++ (x ++ fmt.encode e)) =
      openLine text ++ x ++ fmt.encode e := by
    rw [← List.append_assoc]
    exact h.stripCr_glued he _ (h.encode_ne_nil he)
  have hempty := h.read_blank [] h.blank_nil
  rw [h.loadText_open, loadComplete, openLine, splitLines_append_lines hline hlines,
    List.map_append, List.map_cons, List.filterMap_append, hglued, hempty]
  cases hread : fmt.read (openLine text ++ x ++ fmt.encode e) with
  | none =>
    rw [List.filterMap_cons_none hread, hrest]
    simp [loadComplete]
  | some e' =>
    rw [List.filterMap_cons_some hread, hrest]
    simp [loadComplete]

/-- An entry behind an open line is read when that line is blank, and is lost otherwise. -/
theorem read_behind {e : α} (he : ok e) (x : List Char) :
    fmt.read (x ++ fmt.encode e) = if fmt.blank x then some e else none := by
  split
  next hx => exact h.read_after_blank e x he hx
  next hx => exact h.read_glued e x he hx

/-- A line that reads as an entry takes no further entry. -/
theorem read_cut_behind {e : α} (he : ok e) {x q : List Char} (hq : q ≠ [])
    (hpre : q <+: fmt.encode e) :
    (fmt.read (x ++ q) = none ∨ fmt.read (x ++ q) = some e) ∧
      (fmt.read x ≠ none → fmt.read (x ++ q) = none) := by
  by_cases hall : q = fmt.encode e
  · rw [hall, h.read_behind he]
    split
    next hx => exact ⟨Or.inr rfl, fun hread => absurd (h.read_blank x hx) hread⟩
    next => exact ⟨Or.inl rfl, fun _ => rfl⟩
  · have hnone := h.read_cut e x q he hq hpre hall
    exact ⟨Or.inl hnone, fun _ => hnone⟩

/-- Behind a readable open line nothing written by `e` may count, and behind an unreadable one
at most `e` itself. -/
theorem exists_first_iff {e : α} (he : ok e) {x q : List Char} (hq : q ≠ [])
    (hpre : q <+: fmt.encode e) :
    (∃ first, (first = [] ∨ first = [e]) ∧
      (fmt.read (x ++ q)).toList = (fmt.read x).toList ++ first) ↔ fmt.read x = none := by
  obtain ⟨hcases, hlost⟩ := h.read_cut_behind he hq hpre (x := x)
  constructor
  · intro hex
    obtain ⟨first, -, heq⟩ := hex
    by_contra hread
    rw [hlost hread] at heq
    obtain ⟨hnil, -⟩ := List.append_eq_nil_iff.mp heq.symm
    exact hread (Option.toList_eq_nil_iff.mp hnil)
  · intro hread
    rw [hread]
    rcases hcases with hnone | hsome
    · exact ⟨[], Or.inl rfl, by rw [hnone]; rfl⟩
    · exact ⟨[e], Or.inr rfl, by rw [hsome]; rfl⟩

end Lawful

section TornAppend

variable {ok : α → Prop} {file written rest : ByteArray} {e : α} {later : List α}

/-- The reader finds what was readable before, then `e` or not, then the later entries. -/
def Kept (fmt : Format α) (file written : ByteArray) (e : α) (later : List α) : Prop :=
  ∃ first, (first = [] ∨ first = [e]) ∧
    fmt.loadAll (later.foldl fmt.append (file ++ written)) = fmt.loadAll file ++ first ++ later

theorem kept_iff_of_invalid (h : ¬ (file ++ written).IsValidUTF8) :
    fmt.Kept file written e later ↔ later = [] ∧ ∀ l ∈ linesOf file, fmt.read l = none := by
  have hinvalid : ¬ (later.foldl fmt.append (file ++ written)).IsValidUTF8 := by
    rw [foldl_append, Utf8.isValidUTF8_append_iff (Utf8.isValidUTF8_encode _)]
    exact h
  rw [← loadAll_eq_nil_iff, Kept, loadAll_invalid hinvalid]
  constructor
  · intro hkept
    obtain ⟨first, -, heq⟩ := hkept
    obtain ⟨hleft, hlater⟩ := List.append_eq_nil_iff.mp heq.symm
    exact ⟨hlater, (List.append_eq_nil_iff.mp hleft).1⟩
  · intro hnone
    obtain ⟨rfl, hload⟩ := hnone
    exact ⟨[], Or.inl rfl, by rw [hload]; rfl⟩

theorem kept_iff_of_unwritten (hfmt : fmt.Lawful ok) (hlater : ∀ e ∈ later, ok e)
    (h : file.IsValidUTF8) :
    fmt.Kept file .empty e later ↔ later = [] ∨ fmt.blank (openLineOf file) := by
  obtain ⟨text, rfl⟩ := Utf8.exists_encode h
  rw [Kept, ByteArray.append_empty, openLineOf_encode]
  cases later with
  | nil => exact iff_of_true ⟨[], Or.inl rfl, by simp⟩ (Or.inl rfl)
  | cons e₂ later =>
    have he₂ := hlater e₂ List.mem_cons_self
    have hglued := hfmt.loadText_glued text (x := []) List.not_mem_nil he₂
      fun e' he' => hlater e' (List.mem_cons_of_mem _ he')
    have htext : Utf8.encode text ++ Utf8.encode (joinLines ((e₂ :: later).map fmt.encode)) =
        Utf8.encode (text ++ ([] ++ fmt.encode e₂) ++
          '\n' :: joinLines (later.map fmt.encode)) := by
      rw [← Utf8.encode_append]
      simp [joinLines]
    rw [foldl_append, htext, loadAll_encode, loadAll_encode, hglued, hfmt.loadText_open,
      List.append_nil, hfmt.read_behind he₂]
    cases hblank : fmt.blank (openLine text) with
    | true =>
      have hnone := hfmt.read_blank _ hblank
      refine iff_of_true ⟨[], Or.inl rfl, ?_⟩ (Or.inr rfl)
      rw [hnone]
      simp
    | false =>
      refine iff_of_false ?_ (by simp)
      intro hkept
      obtain ⟨first, -, heq⟩ := hkept
      rw [if_neg (by simp), Option.toList_none, List.append_nil] at heq
      exact lost_ne heq

theorem kept_iff_of_written (hfmt : fmt.Lawful ok) (he : ok e) (hlater : ∀ e ∈ later, ok e)
    (hline : written ++ rest = fmt.line e) (h : (file ++ written).IsValidUTF8)
    (hne : written ≠ .empty) :
    fmt.Kept file written e later ↔
      fmt.read (openLineOf file) = none ∧ (later = [] ∨ written = fmt.line e) := by
  obtain ⟨hfile, q, rfl, hpre⟩ := Utf8.split_written hline h
  obtain ⟨text, rfl⟩ := Utf8.exists_encode hfile
  have hq : q ≠ [] := fun hnil => hne (Utf8.encode_eq_empty_iff.mpr hnil)
  rw [Kept, openLineOf_encode, foldl_append, ← Utf8.encode_append, ← Utf8.encode_append,
    loadAll_encode, loadAll_encode, hfmt.loadText_open text]
  rcases List.prefix_concat_iff.mp hpre with hfull | hcut
  · have htext : text ++ q ++ joinLines (later.map fmt.encode) =
        text ++ ([] ++ fmt.encode e) ++ '\n' :: joinLines (later.map fmt.encode) := by
      rw [hfull]
      simp
    have hwritten : Utf8.encode q = fmt.line e := by rw [hfull, line]
    rw [htext, hfmt.loadText_glued text List.not_mem_nil he hlater, List.append_nil,
      and_iff_left (Or.inr hwritten),
      ← hfmt.exists_first_iff he (hfmt.encode_ne_nil he) (List.prefix_refl _)]
    simp only [append_toList_eq_iff]
  · have hnewline : '\n' ∉ q := fun hmem => hfmt.one_line e he (hcut.subset hmem)
    have hshort : Utf8.encode q ≠ fmt.line e := by
      intro heq
      have hall := Utf8.encode_injective heq
      have hlen := hcut.length_le
      rw [hall, List.length_append, List.length_singleton] at hlen
      omega
    cases later with
    | nil =>
      have htext : text ++ q ++ joinLines ([].map fmt.encode) = text ++ q := by
        simp [joinLines]
      rw [htext, hfmt.loadText_append_open text hnewline, and_iff_left (Or.inl rfl),
        ← hfmt.exists_first_iff he hq hcut]
      simp
    | cons e₂ later =>
      have he₂ := hlater e₂ List.mem_cons_self
      have htext : text ++ q ++ joinLines ((e₂ :: later).map fmt.encode) =
          text ++ (q ++ fmt.encode e₂) ++ '\n' :: joinLines (later.map fmt.encode) := by
        simp [joinLines]
      have hglued := hfmt.loadText_glued text hnewline he₂
        fun e' he' => hlater e' (List.mem_cons_of_mem _ he')
      have hlost := hfmt.read_glued e₂ _ he₂ (hfmt.not_blank e (openLine text) q he hq hcut)
      rw [htext, hglued, hlost]
      refine iff_of_false ?_ ?_
      · intro hkept
        obtain ⟨first, -, heq⟩ := hkept
        rw [Option.toList_none, List.append_nil] at heq
        exact lost_ne heq
      · intro hcond
        rcases hcond.2 with hnil | hfull
        · simp at hnil
        · exact hshort hfull

/-- A torn write costs nothing readable exactly when it is harmless. -/
theorem kept_iff_tornHarmless (hfmt : fmt.Lawful ok) (he : ok e) (hlater : ∀ e ∈ later, ok e)
    (hline : written ++ rest = fmt.line e) :
    fmt.Kept file written e later ↔ fmt.TornHarmless file written e later := by
  by_cases hvalid : (file ++ written).IsValidUTF8
  · by_cases hempty : written = .empty
    · subst hempty
      have hfile : file.IsValidUTF8 := by rwa [ByteArray.append_empty] at hvalid
      rw [kept_iff_of_unwritten hfmt hlater hfile]
      constructor
      · intro hopen
        exact .unwritten hfile rfl hopen
      · intro hharmless
        cases hharmless with
        | unreadable hcut => exact absurd hvalid hcut
        | unwritten _ _ hopen => exact hopen
        | written _ hne => exact absurd rfl hne
    · rw [kept_iff_of_written hfmt he hlater hline hvalid hempty]
      constructor
      · intro hcond
        exact .written hvalid hempty hcond.1 hcond.2
      · intro hharmless
        cases hharmless with
        | unreadable hcut => exact absurd hvalid hcut
        | unwritten _ hwritten => exact absurd hwritten hempty
        | written _ _ hopen hdone => exact ⟨hopen, hdone⟩
  · rw [kept_iff_of_invalid hvalid]
    constructor
    · intro hcond
      exact .unreadable hvalid hcond.1 hcond.2
    · intro hharmless
      cases hharmless with
      | unreadable _ hnil hnone => exact ⟨hnil, hnone⟩
      | unwritten hfile hwritten =>
        rw [hwritten, ByteArray.append_empty] at hvalid
        exact absurd hfile hvalid
      | written hok => exact absurd hok hvalid

end TornAppend

end Format

end JsonLines

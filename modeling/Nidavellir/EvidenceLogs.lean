import Nidavellir.Condemnation
import Nidavellir.F2Observation
import Nidavellir.Lib.JsonLines

namespace Nidavellir

open JsonLines Text

/-- The two functions of `serde_json` the logs use. -/
structure SerdeJson (α : Type) where
  toString : α → List Char
  fromStr : List Char → Option α

def isJsonWhitespace (c : Char) : Bool := c == ' ' || c == '\t' || c == '\n' || c == '\r'

/-- What the logs rely on, for the values `ok` admits: a value is written as one object on one
line, and a text is read as a value when it is that object behind whitespace, not when the
object follows anything else, and not when it ends inside the object. -/
structure SerdeJson.Documented {α : Type} (json : SerdeJson α) (ok : α → Prop) : Prop where
  object : ∀ e, ok e → ∃ body, json.toString e = '{' :: body ++ ['}']
  one_line : ∀ e, ok e → '\n' ∉ json.toString e
  decodes : ∀ e x, ok e → x.all isJsonWhitespace → json.fromStr (x ++ json.toString e) = some e
  trailing : ∀ e x, ok e → ¬ x.all isJsonWhitespace → json.fromStr (x ++ json.toString e) = none
  cut : ∀ e x q, ok e → q ≠ [] → q <+: json.toString e → q ≠ json.toString e →
    json.fromStr (x ++ q) = none
  blank : ∀ x, x.all isJsonWhitespace → json.fromStr x = none

def isBom (c : Char) : Bool := c == '\uFEFF'

def trimBom (l : List Char) : List Char := l.dropWhile isBom

namespace CondemnationLedger

def append (json : SerdeJson CondemnationEvent) (file : ByteArray) (event : CondemnationEvent) :
    ByteArray :=
  file ++ Utf8.encode (json.toString event ++ ['\n'])

def loadAll (json : SerdeJson CondemnationEvent) (file : ByteArray) : List CondemnationEvent :=
  match Utf8.decode file with
  | some data => (lines data).filterMap fun l => json.fromStr (trimBom l)
  | none => []

def format (json : SerdeJson CondemnationEvent) : Format CondemnationEvent where
  encode := json.toString
  read l := json.fromStr (trimBom l)
  blank l := (trimBom l).all isJsonWhitespace

end CondemnationLedger

/-- One observation a line; blank and malformed lines are skipped. -/
def parseObservations (json : SerdeJson F2Observation) (data : List Char) : List F2Observation :=
  (((lines data).map fun l => trim (trimBom l)).filter fun l => !l.isEmpty).filterMap
    json.fromStr

namespace F2ObservationStore

def append (json : SerdeJson F2Observation) (file : ByteArray) (obs : F2Observation) :
    ByteArray :=
  file ++ Utf8.encode (json.toString obs ++ ['\n'])

def loadAll (json : SerdeJson F2Observation) (file : ByteArray) : List F2Observation :=
  match Utf8.decode file with
  | some data => parseObservations json data
  | none => []

def format (json : SerdeJson F2Observation) : Format F2Observation where
  encode := json.toString
  read l := if (trim (trimBom l)).isEmpty then none else json.fromStr (trim (trimBom l))
  blank l := (trimBom l).all isWhitespace

end F2ObservationStore

theorem isWhitespace_of_json {c : Char} (h : isJsonWhitespace c) : isWhitespace c := by
  simp only [isJsonWhitespace, Bool.or_eq_true, beq_iff_eq] at h
  rcases h with ((rfl | rfl) | rfl) | rfl <;> rfl

theorem trimBom_append_brace (x rest : List Char) :
    trimBom (x ++ '{' :: rest) = trimBom x ++ '{' :: rest :=
  dropWhile_append_kept rfl x rest

section Laws

variable {α : Type} {json : SerdeJson α} {ok : α → Prop}

theorem SerdeJson.Documented.cut_eq (h : json.Documented ok) {e : α} (he : ok e) {q : List Char}
    (hq : q ≠ []) (hpre : q <+: json.toString e) : ∃ rest, q = '{' :: rest := by
  obtain ⟨body, hbody⟩ := h.object e he
  rw [hbody] at hpre
  cases q with
  | nil => exact absurd rfl hq
  | cons c rest =>
    obtain ⟨rfl, -⟩ := List.cons_prefix_cons.mp hpre
    exact ⟨rest, rfl⟩

theorem SerdeJson.Documented.toString_ne_nil (h : json.Documented ok) {e : α} (he : ok e) :
    json.toString e ≠ [] := by
  obtain ⟨body, hbody⟩ := h.object e he
  rw [hbody]
  exact List.cons_ne_nil _ _

theorem SerdeJson.Documented.no_cr (h : json.Documented ok) {e : α} (he : ok e) :
    (json.toString e).getLast? ≠ some '\r' := by
  obtain ⟨body, hbody⟩ := h.object e he
  rw [hbody, List.getLast?_concat]
  decide

theorem SerdeJson.Documented.trimEnd_toString (h : json.Documented ok) {e : α} (he : ok e) :
    trimEnd (json.toString e) = json.toString e := by
  obtain ⟨body, hbody⟩ := h.object e he
  rw [hbody]
  exact trimEnd_concat_kept rfl _

end Laws

theorem CondemnationLedger.format_lawful {json : SerdeJson CondemnationEvent}
    {ok : CondemnationEvent → Prop} (h : json.Documented ok) : (format json).Lawful ok where
  one_line := h.one_line
  no_cr e he := h.no_cr he
  blank_nil := rfl
  read_blank x hx := h.blank _ hx
  read_after_blank e x he hx := by
    obtain ⟨rest, hrest⟩ := h.cut_eq he (h.toString_ne_nil he) (List.prefix_refl _)
    have hread := h.decodes e (trimBom x) he hx
    show json.fromStr (trimBom (x ++ json.toString e)) = some e
    rw [hrest] at hread ⊢
    rwa [trimBom_append_brace]
  read_glued e x he hx := by
    obtain ⟨rest, hrest⟩ := h.cut_eq he (h.toString_ne_nil he) (List.prefix_refl _)
    have hread := h.trailing e (trimBom x) he hx
    show json.fromStr (trimBom (x ++ json.toString e)) = none
    rw [hrest] at hread ⊢
    rwa [trimBom_append_brace]
  read_cut e x q he hq hpre hne := by
    have hread := h.cut e (trimBom x) q he hq hpre hne
    obtain ⟨rest, rfl⟩ := h.cut_eq he hq hpre
    show json.fromStr (trimBom (x ++ '{' :: rest)) = none
    rwa [trimBom_append_brace]
  not_blank e x q he hq hpre := by
    obtain ⟨rest, rfl⟩ := h.cut_eq he hq hpre
    show ¬ (trimBom (x ++ '{' :: rest)).all isJsonWhitespace
    rw [trimBom_append_brace]
    simp [isJsonWhitespace]

theorem trim_append_brace (x rest : List Char) :
    trim (trimBom (x ++ '{' :: rest)) = trimStart (trimBom x) ++ trimEnd ('{' :: rest) := by
  have hrest : trimEnd ('{' :: rest) = '{' :: trimEnd rest := by
    rw [← List.nil_append ('{' :: rest), trimEnd_append_kept rfl, List.nil_append]
  rw [trimBom_append_brace, trim, trimStart, dropWhile_append_kept rfl,
    trimEnd_append_kept rfl, hrest]
  rfl

theorem trimEnd_brace_ne_nil (rest : List Char) : trimEnd ('{' :: rest) ≠ [] := by
  rw [← List.nil_append ('{' :: rest), trimEnd_append_kept rfl, List.nil_append]
  exact List.cons_ne_nil _ _

/-- A line with an object, whole or cut, is parsed from the last white space before it. -/
theorem F2ObservationStore.read_append_brace (json : SerdeJson F2Observation)
    (x rest : List Char) :
    (format json).read (x ++ '{' :: rest) =
      json.fromStr (trimStart (trimBom x) ++ trimEnd ('{' :: rest)) := by
  have hne : (trimStart (trimBom x) ++ trimEnd ('{' :: rest)).isEmpty = false := by
    rw [List.isEmpty_eq_false_iff]
    intro hnil
    exact trimEnd_brace_ne_nil rest (List.append_eq_nil_iff.mp hnil).2
  show (if (trim (trimBom (x ++ '{' :: rest))).isEmpty then none
    else json.fromStr (trim (trimBom (x ++ '{' :: rest)))) = _
  rw [trim_append_brace, hne]
  rfl

/-- What Unicode trimming leaves in front of an object is empty or no JSON whitespace. -/
theorem trimStart_eq_nil_or (x : List Char) :
    trimStart x = [] ∨ ¬ (trimStart x).all isJsonWhitespace := by
  cases h : trimStart x with
  | nil => exact Or.inl rfl
  | cons c rest =>
    right
    intro hall
    have hc : isJsonWhitespace c := List.all_eq_true.mp hall c List.mem_cons_self
    have hne : x.dropWhile isWhitespace ≠ [] := by
      rw [trimStart] at h
      simp [h]
    have hhead := List.head_dropWhile_not isWhitespace hne
    have hcons : (x.dropWhile isWhitespace).head hne = c := by
      simp only [trimStart] at h
      simp [h]
    rw [hcons, isWhitespace_of_json hc] at hhead
    simp at hhead

theorem F2ObservationStore.format_lawful {json : SerdeJson F2Observation}
    {ok : F2Observation → Prop} (h : json.Documented ok) : (format json).Lawful ok where
  one_line := h.one_line
  no_cr e he := h.no_cr he
  blank_nil := rfl
  read_blank x hx := by
    have hstart : trimStart (trimBom x) = [] := dropWhile_eq_nil_of_all hx
    show (if (trim (trimBom x)).isEmpty then none else _) = none
    rw [trim, hstart]
    rfl
  read_after_blank e x he hx := by
    have hstart : trimStart (trimBom x) = [] := dropWhile_eq_nil_of_all hx
    have hread := h.decodes e [] he rfl
    rw [← h.trimEnd_toString he] at hread
    obtain ⟨rest, hrest⟩ := h.cut_eq he (h.toString_ne_nil he) (List.prefix_refl _)
    show (format json).read (x ++ json.toString e) = some e
    rw [hrest] at hread ⊢
    rwa [read_append_brace, hstart]
  read_glued e x he hx := by
    have hstart : trimStart (trimBom x) ≠ [] := by
      intro hnil
      rw [trimStart, List.dropWhile_eq_nil_iff] at hnil
      exact hx (List.all_eq_true.mpr hnil)
    have hread := h.trailing e _ he ((trimStart_eq_nil_or (trimBom x)).resolve_left hstart)
    rw [← h.trimEnd_toString he] at hread
    obtain ⟨rest, hrest⟩ := h.cut_eq he (h.toString_ne_nil he) (List.prefix_refl _)
    show (format json).read (x ++ json.toString e) = none
    rw [hrest] at hread ⊢
    rwa [read_append_brace]
  read_cut e x q he hq hpre hne := by
    have hshort : trimEnd q <+: q := trimEnd_prefix q
    have hcut : trimEnd q ≠ json.toString e := by
      -- the object would be a prefix of its own proper part
      intro heq
      rw [heq] at hshort
      exact hne (hpre.eq_of_length_le hshort.length_le)
    obtain ⟨rest, rfl⟩ := h.cut_eq he hq hpre
    have hread := h.cut e (trimStart (trimBom x)) _ he (trimEnd_brace_ne_nil rest)
      (hshort.trans hpre) hcut
    rwa [read_append_brace]
  not_blank e x q he hq hpre := by
    obtain ⟨rest, rfl⟩ := h.cut_eq he hq hpre
    show ¬ (trimBom (x ++ '{' :: rest)).all isWhitespace
    rw [trimBom_append_brace]
    simp [isWhitespace]

theorem CondemnationLedger.loadAll_eq (json : SerdeJson CondemnationEvent) (file : ByteArray) :
    loadAll json file = (format json).loadAll file := by
  unfold loadAll Format.loadAll
  cases Utf8.decode file <;> rfl

theorem F2ObservationStore.loadAll_eq (json : SerdeJson F2Observation) (file : ByteArray) :
    loadAll json file = (format json).loadAll file := by
  have hparse : ∀ data, parseObservations json data = (format json).loadText data := by
    intro data
    unfold parseObservations Format.loadText
    rw [List.filterMap_filter, List.filterMap_map]
    apply List.filterMap_congr
    intro l hl
    show (if !(trim (trimBom l)).isEmpty then json.fromStr (trim (trimBom l)) else none) =
      if (trim (trimBom l)).isEmpty then none else json.fromStr (trim (trimBom l))
    cases (trim (trimBom l)).isEmpty <;> rfl
  unfold loadAll Format.loadAll
  cases Utf8.decode file with
  | none => rfl
  | some data => exact hparse data

end Nidavellir

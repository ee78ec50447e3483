import Nidavellir.EvidenceLogs
import Nidavellir.Startup

namespace Nidavellir

open SafeLoopStore

/-- One byte order mark. -/
def stripBom : List Char → List Char
  | [] => []
  | c :: rest => if isBom c then rest else c :: rest

/-- What the store relies on, for the values `ok` admits: a value is written as one object, which
reads as the value, and no part of it reads as one. -/
structure SerdeJson.Saves {α : Type} (json : SerdeJson α) (ok : α → Prop) : Prop where
  object : ∀ a, ok a → ∃ body, json.toString a = '{' :: body
  decodes : ∀ a, ok a → json.fromStr (json.toString a) = some a
  cut : ∀ a q, ok a → q <+: json.toString a → q ≠ json.toString a → json.fromStr q = none

def StoredFile.ofBytes {α : Type} (parse : List Char → Option α) :
    Option ByteArray → StoredFile α
  | none => .absent
  | some bytes =>
    match (Utf8.decode bytes).bind parse with
    | some content => .holds content
    | none => .unreadable

/-- `serde_json` for the three files the startup parses. -/
structure StoreJson where
  bootFlag : SerdeJson BootFlag
  record : SerdeJson SafeLoopRecord
  applied : SerdeJson AppliedProfile

/-- The files of the data directory, byte for byte. -/
structure DataFiles where
  bootFlag : Option ByteArray
  record : Option ByteArray
  cleanShutdown : Option ByteArray
  applied : Option ByteArray

def DataFiles.dir (json : StoreJson) (files : DataFiles) : DataDir where
  bootFlag := .ofBytes (fun data => json.bootFlag.fromStr (stripBom data)) files.bootFlag
  record := .ofBytes (fun data => json.record.fromStr (stripBom data)) files.record
  cleanShutdown := .ofBytes (fun _ => some ()) files.cleanShutdown
  applied := .ofBytes (fun data => json.applied.fromStr (trimBom data)) files.applied

@[simp] theorem StoredFile.present_ofBytes {α : Type} (parse : List Char → Option α)
    (bytes : Option ByteArray) : (ofBytes parse bytes).present = bytes.isSome := by
  unfold ofBytes
  split
  next => rfl
  next bytes => split <;> rfl

theorem StoredFile.read_ofBytes_encode {α : Type} (parse : List Char → Option α)
    (text : List Char) : (ofBytes parse (some (Utf8.encode text))).read = parse text := by
  simp only [ofBytes, Utf8.decode_encode, Option.bind_some]
  cases parse text with
  | none => rfl
  | some content => rfl

theorem stripBom_brace (rest : List Char) : stripBom ('{' :: rest) = '{' :: rest := rfl

/-- What a complete save leaves reads as the record. -/
theorem load_saved {json : StoreJson} {ok : SafeLoopRecord → Prop}
    (hjson : json.record.Saves ok) {record : SafeLoopRecord} (hok : ok record)
    (files : DataFiles) :
    loadRecord ({ files with
      record := some (Utf8.encode (json.record.toString record)) }.dir json) = record := by
  obtain ⟨body, hbody⟩ := hjson.object record hok
  have hread := hjson.decodes record hok
  unfold loadRecord DataFiles.dir
  rw [StoredFile.read_ofBytes_encode]
  rw [hbody] at hread ⊢
  rw [stripBom_brace, hread]
  rfl

/-- What a cut save leaves reads as the default record. -/
theorem load_cut {json : StoreJson} {ok : SafeLoopRecord → Prop} (hjson : json.record.Saves ok)
    {record : SafeLoopRecord} (hok : ok record) {written rest : ByteArray}
    (hline : written ++ rest = Utf8.encode (json.record.toString record)) (hrest : rest ≠ .empty)
    (files : DataFiles) : loadRecord ({ files with record := some written }.dir json) = {} := by
  have hparse : (Utf8.decode written).bind
      (fun data => json.record.fromStr (stripBom data)) = none := by
    by_cases hvalid : written.IsValidUTF8
    · have hvalid' : (ByteArray.empty ++ written).IsValidUTF8 := by
        rwa [ByteArray.empty_append]
      obtain ⟨-, q, rfl, hpre⟩ := Utf8.split_written hline hvalid'
      have hne : q ≠ json.record.toString record := by
        intro hall
        rw [hall] at hline
        have hsize := congrArg ByteArray.size hline
        rw [ByteArray.size_append] at hsize
        exact hrest (ByteArray.size_eq_zero_iff.mp (by omega))
      have hstrip : stripBom q = q := by
        cases q with
        | nil => rfl
        | cons c q =>
          obtain ⟨body, hbody⟩ := hjson.object record hok
          rw [hbody] at hpre
          obtain ⟨rfl, -⟩ := List.cons_prefix_cons.mp hpre
          exact stripBom_brace q
      rw [Utf8.decode_encode, Option.bind_some, hstrip]
      exact hjson.cut record q hok hpre hne
    · rw [Utf8.decode_eq_none_iff.mpr hvalid]
      rfl
  unfold loadRecord DataFiles.dir StoredFile.ofBytes
  simp only [hparse]
  rfl

/-- The record file after a save of `record` over `saved` that was cut short: not begun, or begun
and cut behind the bytes `written`. -/
def cutSave (json : StoreJson) (saved : SafeLoopRecord) (written : Option ByteArray) :
    ByteArray :=
  written.getD (Utf8.encode (json.record.toString saved))

theorem load_cutSave_iff {json : StoreJson} {ok : SafeLoopRecord → Prop}
    (hjson : json.record.Saves ok) {saved record : SafeLoopRecord} (hsaved : ok saved)
    (hrecord : ok record) (hset : saved.safeMode = true ∨ saved.blacklist ≠ [])
    (written : Option ByteArray) (rest : ByteArray)
    (hwritten : ∀ bytes, written = some bytes →
      bytes ++ rest = Utf8.encode (json.record.toString record)) (files : DataFiles) :
    loadRecord ({ files with record := some (cutSave json saved written) }.dir json) ≠ {} ↔
      written = none ∨ rest = .empty ∧ record ≠ {} := by
  have hnotDefault : saved ≠ {} := by
    intro hdefault
    rw [hdefault] at hset
    simp at hset
  cases written with
  | none =>
    rw [cutSave, Option.getD_none, load_saved hjson hsaved]
    exact iff_of_true hnotDefault (Or.inl rfl)
  | some bytes =>
    have hbytes := hwritten bytes rfl
    rw [cutSave, Option.getD_some]
    by_cases hrest : rest = .empty
    · have hwhole : bytes = Utf8.encode (json.record.toString record) := by
        rw [← hbytes, hrest, ByteArray.append_empty]
      rw [hwhole, load_saved hjson hrecord]
      simp [hrest]
    · rw [load_cut hjson hrecord hbytes hrest]
      simp [hrest]

end Nidavellir

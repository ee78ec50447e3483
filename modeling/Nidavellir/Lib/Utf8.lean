import Mathlib.Init

namespace Utf8

def encode (text : List Char) : ByteArray := (String.ofList text).toByteArray

/-- The text of the bytes, when they are UTF-8. -/
def decode (bytes : ByteArray) : Option (List Char) := bytes.utf8Decode?.map Array.toList

theorem encode_eq (text : List Char) : encode text = text.utf8Encode :=
  String.toByteArray_ofList

theorem encode_append (s t : List Char) : encode (s ++ t) = encode s ++ encode t := by
  simp only [encode_eq, List.utf8Encode_append]

theorem encode_injective {s t : List Char} (h : encode s = encode t) : s = t :=
  String.ofList_injective (String.toByteArray_inj.mp h)

@[simp] theorem encode_eq_empty_iff {s : List Char} : encode s = .empty ↔ s = [] := by
  constructor
  · intro h
    exact encode_injective (h.trans rfl)
  · intro h
    rw [h]
    rfl

theorem isValidUTF8_encode (text : List Char) : (encode text).IsValidUTF8 := by
  rw [encode_eq]
  exact ByteArray.isValidUTF8_utf8Encode

theorem exists_encode {bytes : ByteArray} (h : bytes.IsValidUTF8) :
    ∃ text, bytes = encode text := by
  obtain ⟨text, rfl⟩ := h
  exact ⟨text, (encode_eq text).symm⟩

@[simp] theorem decode_encode (text : List Char) : decode (encode text) = some text := by
  simp [decode, encode_eq]

theorem decode_eq_none_iff {bytes : ByteArray} :
    decode bytes = none ↔ ¬ bytes.IsValidUTF8 := by
  rw [decode, Option.map_eq_none_iff, ← ByteArray.isSome_utf8Decode?_iff,
    Option.not_isSome_iff_eq_none]

/-- A cut before the first byte of a character leaves two valid texts. -/
theorem isValidUTF8_of_append {x y : ByteArray} (h : (x ++ y).IsValidUTF8)
    (hy : ∀ h₀ : 0 < y.size, y[0].IsUTF8FirstByte) : x.IsValidUTF8 ∧ y.IsValidUTF8 := by
  let s : String := String.fromUTF8 (x ++ y) h
  let p : String.Pos.Raw := ⟨x.size⟩
  have hs : s.toByteArray = x ++ y := rfl
  have hend : s.rawEndPos = ⟨x.size + y.size⟩ := by
    ext
    show s.toByteArray.size = x.size + y.size
    rw [hs, ByteArray.size_append]
  have hp : p.IsValid s := by
    rw [String.Pos.Raw.isValid_iff_isUTF8FirstByte]
    rcases Nat.eq_zero_or_pos y.size with hzero | hpos
    · left
      rw [hend, hzero]
      rfl
    · right
      have hlt : p < s.rawEndPos := by
        rw [hend, String.Pos.Raw.lt_iff]
        show x.size < x.size + y.size
        omega
      have hlen : x.size < (x ++ y).size := by
        rw [ByteArray.size_append]
        omega
      have hbyte : (x ++ y)[x.size] = y[0] := by
        rw [ByteArray.getElem_append_right (Nat.le_refl _)]
        simp
      have hfirst : (x ++ y)[x.size].IsUTF8FirstByte := by
        rw [hbyte]
        exact hy hpos
      exact ⟨hlt, hfirst⟩
  have hx := hp.isValidUTF8_extract_zero
  have hy' := hp.isValidUTF8_extract_utf8ByteSize
  refine ⟨?_, ?_⟩
  · have heq : s.toByteArray.extract 0 p.byteIdx = x := by
      rw [hs]
      exact ByteArray.extract_append_eq_left rfl
    rwa [heq] at hx
  · have heq : s.toByteArray.extract p.byteIdx s.utf8ByteSize = y := by
      rw [hs]
      exact ByteArray.extract_append_eq_right rfl (by
        show (x ++ y).size = _
        rw [ByteArray.size_append])
    rwa [heq] at hy'

/-- What follows as UTF-8 decides nothing about what stands before it. -/
theorem isValidUTF8_append_iff {x y : ByteArray} (hy : y.IsValidUTF8) :
    (x ++ y).IsValidUTF8 ↔ x.IsValidUTF8 := by
  constructor
  · intro h
    exact (isValidUTF8_of_append h hy.isUTF8FirstByte_getElem_zero).1
  · intro h
    exact h.append hy

/-- Bytes written from the start of a text: when the whole is valid, so are the bytes before
them, and they are the text of some of its first characters. -/
theorem split_written {x y rest : ByteArray} {text : List Char}
    (hy : y ++ rest = encode text) (h : (x ++ y).IsValidUTF8) :
    x.IsValidUTF8 ∧ ∃ written, y = encode written ∧ written <+: text := by
  have hfirst : ∀ h₀ : 0 < y.size, y[0].IsUTF8FirstByte := by
    intro h₀
    have hvalid : (y ++ rest).IsValidUTF8 := hy ▸ isValidUTF8_encode text
    have hsize : 0 < (y ++ rest).size := by
      rw [ByteArray.size_append]
      omega
    have hzero := hvalid.isUTF8FirstByte_getElem_zero hsize
    rwa [ByteArray.getElem_append_left h₀] at hzero
  obtain ⟨hx, hvalid⟩ := isValidUTF8_of_append h hfirst
  obtain ⟨written, rfl⟩ := exists_encode hvalid
  refine ⟨hx, written, rfl, ?_⟩
  rw [encode_eq, encode_eq] at hy
  exact List.isPrefix_of_utf8Encode_append_eq_utf8Encode rest hy

def bytes (text : List Char) : List UInt8 := text.flatMap String.utf8EncodeChar

def ofBytes (bytes : List UInt8) : Option (List Char) := decode bytes.toByteArray

@[simp] theorem ofBytes_bytes (text : List Char) : ofBytes (bytes text) = some text := by
  have hencode : (bytes text).toByteArray = encode text := (encode_eq text).symm
  rw [ofBytes, hencode, decode_encode]

theorem newline_mem_utf8EncodeChar {c : Char} :
    (10 : UInt8) ∈ String.utf8EncodeChar c ↔ c = '\n' := by
  have hval : c = '\n' ↔ c.val.toNat = 10 := by
    constructor
    · rintro rfl
      rfl
    · intro h
      exact Char.ext (UInt32.toNat_inj.mp h)
  have hsmall : c.val.toNat < 4294967296 := c.val.toNat_lt
  have hofNat : ∀ n < 256, ((10 : UInt8) = UInt8.ofNat n ↔ n = 10) := by
    intro n hn
    rw [← UInt8.toNat_inj, UInt8.toNat_ofNat_of_lt' hn]
    exact eq_comm
  -- beyond ASCII every byte is 128 or more
  rw [hval]
  unfold String.utf8EncodeChar
  simp only
  split
  next => rw [List.mem_singleton, hofNat _ (by omega)]
  next =>
    split
    next =>
      simp only [List.mem_cons, List.not_mem_nil, or_false]
      rw [hofNat _ (by omega), hofNat _ (by omega)]
      omega
    next =>
      split
      next =>
        simp only [List.mem_cons, List.not_mem_nil, or_false]
        rw [hofNat _ (by omega), hofNat _ (by omega), hofNat _ (by omega)]
        omega
      next =>
        simp only [List.mem_cons, List.not_mem_nil, or_false]
        rw [hofNat _ (by omega), hofNat _ (by omega), hofNat _ (by omega), hofNat _ (by omega)]
        omega

theorem newline_mem_bytes {text : List Char} : (10 : UInt8) ∈ bytes text ↔ '\n' ∈ text := by
  rw [bytes, List.mem_flatMap]
  constructor
  · rintro ⟨c, hc, hbyte⟩
    obtain rfl := newline_mem_utf8EncodeChar.mp hbyte
    exact hc
  · intro h
    exact ⟨'\n', h, newline_mem_utf8EncodeChar.mpr rfl⟩

end Utf8

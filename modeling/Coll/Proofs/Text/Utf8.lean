import Coll.Text.Utf8

/-!
Well-formed UTF-8 is what texts are encoded as. Of any bytes, the text with the longest encoding
that they begin with is the one that `decode` gives.
-/

namespace Coll.Text.Utf8

/-- The bytes of a text. -/
def encode (text : List Char) : List UInt8 := text.flatMap String.utf8EncodeChar

/-- The bytes begin with the encoding of `text`, and every other text for which this is so is a
beginning of it. -/
structure LongestText (text : List Char) (bytes : List UInt8) : Prop where
  isPrefix : encode text <+: bytes
  le : ∀ other, encode other <+: bytes → other <+: text

theorem encode_cons (c : Char) (text : List Char) :
    encode (c :: text) = String.utf8EncodeChar c ++ encode text := rfl

/-- A text has no more characters than bytes. -/
theorem length_le_encode (text : List Char) : text.length ≤ (encode text).length := by
  induction text with
  | nil => exact Nat.le_refl _
  | cons c rest ih =>
      have hSize := c.utf8Size_pos
      rw [encode_cons, List.length_append, String.length_utf8EncodeChar, List.length_cons]
      omega

theorem width?_ofNat {lead : Nat} (hByte : lead < 256) :
    width? (UInt8.ofNat lead) =
      if lead ≤ 0x7F then some 1
      else if 0xC2 ≤ lead ∧ lead ≤ 0xDF then some 2
      else if 0xE0 ≤ lead ∧ lead ≤ 0xEF then some 3
      else if 0xF0 ≤ lead ∧ lead ≤ 0xF4 then some 4
      else none := by
  have hLead : (UInt8.ofNat lead).toNat = lead := by
    rw [UInt8.toNat_ofNat', Nat.mod_eq_of_lt hByte]
  simp only [width?, UInt8.le_iff_toNat_le, hLead]
  rfl

/-- The first byte of a sequence tells how long the sequence is. -/
theorem width?_head_encodeChar (c : Char) :
    ∃ lead more, String.utf8EncodeChar c = lead :: more ∧ width? lead = some c.utf8Size := by
  have hMax : c.val.toNat ≤ 0x10FFFF := by
    rcases c.valid with hLow | ⟨-, hHigh⟩ <;> omega
  rw [← String.length_utf8EncodeChar c]
  unfold String.utf8EncodeChar
  dsimp only
  split
  · refine ⟨_, _, rfl, ?_⟩
    rw [width?_ofNat (by omega), if_pos (by omega)]
    rfl
  split
  · refine ⟨_, _, rfl, ?_⟩
    rw [width?_ofNat (by omega), if_neg (by omega), if_pos (by omega)]
    rfl
  split
  · refine ⟨_, _, rfl, ?_⟩
    rw [width?_ofNat (by omega), if_neg (by omega), if_neg (by omega), if_pos (by omega)]
    rfl
  · refine ⟨_, _, rfl, ?_⟩
    rw [width?_ofNat (by omega), if_neg (by omega), if_neg (by omega), if_neg (by omega),
      if_pos (by omega)]
    rfl

/-- The first character of some bytes is the one whose encoding they begin with. -/
theorem first?_eq_some_iff {bytes : List UInt8} {c : Char} :
    first? bytes = some c ↔ String.utf8EncodeChar c <+: bytes := by
  have hArray (bytes : List UInt8) : first? bytes = bytes.toByteArray.utf8DecodeChar? 0 := by
    rw [first?, ← List.data_toByteArray]
  constructor
  · intro hFirst
    rw [hArray] at hFirst
    obtain ⟨more, hMore⟩ := ByteArray.exists_of_utf8DecodeChar?_eq_some hFirst
    refine ⟨more.data.toList, ?_⟩
    have hBytes := congrArg (·.data.toList) hMore
    simpa using hBytes.symm
  · rintro ⟨more, rfl⟩
    rw [hArray, List.toByteArray_append]
    exact ByteArray.utf8DecodeChar?_utf8EncodeChar_append

theorem first?_encodeChar_append (c : Char) (more : List UInt8) :
    first? (String.utf8EncodeChar c ++ more) = some c :=
  first?_eq_some_iff.2 (List.prefix_append _ _)

/-- The first byte of a character tells how many bytes the character takes up. -/
theorem width?_of_first? {lead : UInt8} {more : List UInt8} {c : Char}
    (hFirst : first? (lead :: more) = some c) : width? lead = some c.utf8Size := by
  obtain ⟨head, tail, hEncoded, hWidth⟩ := width?_head_encodeChar c
  have hPrefix := first?_eq_some_iff.1 hFirst
  rw [hEncoded] at hPrefix
  obtain ⟨rfl, -⟩ := List.cons_prefix_cons.1 hPrefix
  exact hWidth

/-- Reading at byte `i` of a buffer is reading the first character of what is left there. -/
theorem utf8DecodeChar?_eq_first? (bytes : ByteArray) (i : Nat) :
    bytes.utf8DecodeChar? i = first? (bytes.data.toList.drop i) := by
  rw [ByteArray.utf8DecodeChar?_eq_utf8DecodeChar?_extract, first?]
  congr 1
  apply ByteArray.ext
  have hSize : (bytes.data.toList.drop i).length ≤ bytes.size - i := Nat.le_of_eq List.length_drop
  rw [ByteArray.data_extract, ← Array.toList_inj, Array.toList_extract, List.extract_eq_take_drop,
    List.take_of_length_le hSize]

namespace LongestText

/-- Bytes that no character is encoded at the beginning of have the empty text. -/
theorem nil {bytes : List UInt8} (hNone : first? bytes = none) : LongestText [] bytes where
  isPrefix := List.nil_prefix
  le other hOther := by
    cases other with
    | nil => exact List.prefix_rfl
    | cons c more =>
        have hFirst : String.utf8EncodeChar c <+: bytes :=
          (List.prefix_append _ (encode more)).trans hOther
        rw [first?_eq_some_iff.2 hFirst] at hNone
        cases hNone

theorem cons {text : List Char} {bytes : List UInt8} (longest : LongestText text bytes) (c : Char) :
    LongestText (c :: text) (String.utf8EncodeChar c ++ bytes) where
  isPrefix := (List.prefix_append_right_inj _).2 longest.isPrefix
  le other hOther := by
    cases other with
    | nil => exact List.nil_prefix
    | cons d more =>
        have hFirst : String.utf8EncodeChar d <+: String.utf8EncodeChar c ++ bytes :=
          (List.prefix_append _ (encode more)).trans hOther
        have hSame := (first?_encodeChar_append c bytes).symm.trans (first?_eq_some_iff.2 hFirst)
        obtain rfl := Option.some.inj hSame
        have hMore : encode more <+: bytes := (List.prefix_append_right_inj _).1 hOther
        exact (List.prefix_cons_inj c).2 (longest.le more hMore)

/-- The bytes of a text begin with that text. -/
theorem of_encode (text : List Char) : LongestText text (encode text) := by
  induction text with
  | nil => exact .nil rfl
  | cons c rest ih => exact ih.cons c

/-- Bytes begin with one longest text. -/
theorem unique {text text' : List Char} {bytes : List UInt8} (longest : LongestText text bytes)
    (longest' : LongestText text' bytes) : text = text' := by
  have hLe := longest'.le text longest.isPrefix
  have hGe := longest.le text' longest'.isPrefix
  exact hLe.eq_of_length_le hGe.length_le

end LongestText

/-- Reading on at byte `i` appends the longest text there. -/
theorem decodeFrom_longestText (bytes : ByteArray) (i : Nat) (text : String) :
    ∃ found, LongestText found (bytes.data.toList.drop i) ∧
      decodeFrom bytes i text = ⟨text ++ String.ofList found, i + (encode found).length⟩ := by
  fun_induction decodeFrom bytes i text with
  | case1 i text hFirst =>
      rw [utf8DecodeChar?_eq_first?] at hFirst
      exact ⟨[], .nil hFirst, by simp [encode]⟩
  | case2 i text c hFirst ih =>
      obtain ⟨found, hLongest, hFound⟩ := ih
      rw [utf8DecodeChar?_eq_first?, first?_eq_some_iff] at hFirst
      obtain ⟨more, hMore⟩ := hFirst
      have hDrop : bytes.data.toList.drop (i + c.utf8Size) = more := by
        rw [← List.drop_drop, ← hMore, ← String.length_utf8EncodeChar, List.drop_left]
      rw [hDrop] at hLongest
      refine ⟨c :: found, ?_, ?_⟩
      · rw [← hMore]
        exact hLongest.cons c
      · rw [hFound, encode_cons, List.length_append, String.length_utf8EncodeChar, Nat.add_assoc]
        congr 1
        apply String.toList_inj.1
        simp

/-- Decoding a buffer gives the longest text that it begins with. -/
theorem decode_longestText (bytes : ByteArray) :
    LongestText (decode bytes).text.toList bytes.data.toList := by
  obtain ⟨found, hLongest, hFound⟩ := decodeFrom_longestText bytes 0 ""
  have hText : (decode bytes).text.toList = found := by
    rw [decode, hFound]
    simp
  rw [hText]
  simpa using hLongest

end Coll.Text.Utf8

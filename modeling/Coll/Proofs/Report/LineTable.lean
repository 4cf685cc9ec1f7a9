import Coll.Proofs.Report.Lines
import Mathlib.Data.List.Basic

/-!
The lines of a document by number. They are the pieces that the line feeds leave of its content, and
the byte offsets at which they are cut out of it are never inside a character.
-/

namespace Coll

open LineTable (dropFinal)
open Text.Utf8 (encode)

/-- Separators leave one piece more than there are of them. -/
theorem length_splitOn (d : Char) (text : List Char) :
    (text.splitOn d).length = text.count d + 1 := by
  induction text with
  | nil => rfl
  | cons c rest ih =>
      rw [List.splitOn_cons_eq_if_modifyHead, List.count_cons]
      split <;> simp [ih]

/-- A line is the piece behind as many line feeds as stand above it. -/
theorem LineOf.getElem?_splitOn {text above line below : List Char}
    (lineOf : LineOf text above line below) :
    (text.splitOn '\n')[above.count '\n']? = some line := by
  have hFirst : ((line ++ below).splitOn '\n')[0]? = some line := by
    cases below with
    | nil => rw [List.append_nil, List.splitOn_eq_singleton lineOf.plain, List.getElem?_cons_zero]
    | cons c below =>
        obtain rfl : c = '\n' := lineOf.ends c rfl
        rw [List.splitOn_append_cons_self_of_not_mem lineOf.plain, List.getElem?_cons_zero]
  rw [lineOf.text_eq, List.append_assoc]
  -- what stands above ends with a line feed, so it is split apart from the line
  rcases List.eq_nil_or_concat above with rfl | ⟨front, c, rfl⟩
  · exact hFirst
  · obtain rfl : c = '\n' := lineOf.begins c (by simp)
    have hCount : (front.concat '\n').count '\n' = (front.splitOn '\n').length := by
      simp [length_splitOn]
    have hText : front.concat '\n' ++ (line ++ below) = front ++ '\n' :: (line ++ below) := by
      simp
    rw [hText, List.splitOn_append_cons_self, hCount, List.getElem?_append_right (Nat.le_refl _),
      Nat.sub_self, hFirst]

namespace LineTable

/-- Of equal characters at the end of a line only one is dropped. -/
theorem eq_dropFinal_append_or_eq (c : Char) (line : List Char) :
    line = dropFinal c line ++ [c] ∨ line = dropFinal c line ∧ c ∉ line.getLast? := by
  unfold dropFinal
  split
  · next hLast => exact .inl (List.dropLast_append_getLast? c hLast).symm
  · next hOther => exact .inr ⟨rfl, hOther⟩

/-- Two byte offsets that a text can be cut at: they are in order and within it, and neither is
inside a character. -/
structure Bounds (text : String) (first past : Nat) : Prop where
  le : first ≤ past
  within : past ≤ text.utf8ByteSize
  first_isValid : String.Pos.Raw.IsValid text ⟨first⟩
  past_isValid : String.Pos.Raw.IsValid text ⟨past⟩

/-- The offset behind whole characters is not inside a character. -/
theorem isValid_length_encode {text : String} {before behind : List Char}
    (h : text.toList = before ++ behind) :
    String.Pos.Raw.IsValid text ⟨(encode before).length⟩ := by
  have hText : text = String.ofList before ++ String.ofList behind := by
    rw [← String.ofList_append, ← h, String.ofList_toList]
  have hSize := length_encode_toList (String.ofList before)
  rw [String.toList_ofList] at hSize
  exact String.Pos.Raw.isValid_iff_exists_append.2 ⟨_, _, hText, congrArg _ hSize⟩

theorem bounds_of_append {text : String} {before middle behind : List Char}
    (h : text.toList = before ++ middle ++ behind) :
    Bounds text (encode before).length (encode (before ++ middle)).length where
  le := by simp [encode]
  within := (isValid_length_encode h).le_utf8ByteSize
  first_isValid := isValid_length_encode (h.trans (List.append_assoc _ _ _))
  past_isValid := isValid_length_encode h

/-- Between offsets that a text can be cut at, the bytes are well-formed, and their text is the
slice. -/
theorem Bounds.fromUTF8?_extract {text : String} {first past : Nat}
    (bounds : Bounds text first past) :
    String.fromUTF8? (text.toByteArray.extract first past) = some (slice text first past) := by
  have hValid : (text.toByteArray.extract first past).IsValidUTF8 :=
    (String.Pos.Raw.isValidUTF8_extract_iff ⟨first⟩ ⟨past⟩ bounds.le bounds.within).2
      (.inr ⟨bounds.first_isValid, bounds.past_isValid⟩)
  rw [slice, String.fromUTF8?, dif_pos hValid, Option.getD_some]

end LineTable

namespace Document

/-- Exactly the numbers from 1 to the number of lines have a line. -/
theorem exists_line_iff (document : Document) (number : Nat) :
    (∃ shown, document.line number = .ok shown) ↔
      1 ≤ number ∧ number ≤ document.lineCount := by
  constructor
  · rintro ⟨shown, hShown⟩
    by_contra hInside
    have hOutside : number = 0 ∨ document.lineCount < number := by omega
    rw [document.line_eq_error hOutside] at hShown
    cases hShown
  · rintro ⟨hFirst, hLast⟩
    obtain ⟨above, line, below, lineOf, rfl⟩ := document.exists_lineOf_of_number hFirst hLast
    exact ⟨_, document.line_eq lineOf⟩

/-- Where a line stands, the content can be cut. -/
theorem bounds_of_lineRange? (document : Document) {number first past : Nat}
    (hRange : document.lineRange? number = some (first, past)) :
    LineTable.Bounds document.content first past := by
  have hLine : ∃ shown, document.line number = .ok shown := by
    rw [Document.line, hRange]
    exact ⟨_, rfl⟩
  obtain ⟨hFirst, hLast⟩ := (document.exists_line_iff number).1 hLine
  obtain ⟨above, line, below, lineOf, rfl⟩ := document.exists_lineOf_of_number hFirst hLast
  rw [document.lineRange?_eq lineOf] at hRange
  cases hRange
  exact LineTable.bounds_of_append lineOf.text_eq_of_terminator

end Document

/-- A document has one line more than its content has line feeds, and they are numbered from 1. A
line is the piece of the content between two line feeds, but for one carriage return at its end; any
other number is refused, and named with the number of lines. Wherever the content is cut, it is cut
between whole characters, so what is cut out is always a text. -/
theorem line_is_piece (document : Document) (number : Nat) :
    let text := document.content.toList
    document.lineCount = text.count '\n' + 1 ∧
    ((∃ shown, document.line number = .ok shown) ↔
      1 ≤ number ∧ number ≤ document.lineCount) ∧
    (∀ shown, document.line number = .ok shown → ∃ piece,
      (text.splitOn '\n')[number - 1]? = some piece ∧
      (piece = shown.toList ++ ['\r'] ∨ piece = shown.toList ∧ '\r' ∉ piece.getLast?)) ∧
    (∀ failure, document.line number = .error failure →
      failure = .noLine number document.lineCount) ∧
    ∀ first past, document.lineRange? number = some (first, past) →
      LineTable.Bounds document.content first past ∧
      String.fromUTF8? (document.content.toByteArray.extract first past) =
        some (LineTable.slice document.content first past) := by
  intro text
  have hFound := document.exists_line_iff number
  refine ⟨document.lineCount_eq, hFound, fun shown hShown => ?_, fun failure hFailure => ?_,
    fun first past hRange => ?_⟩
  · obtain ⟨hFirst, hLast⟩ := hFound.1 ⟨shown, hShown⟩
    obtain ⟨above, line, below, lineOf, rfl⟩ := document.exists_lineOf_of_number hFirst hLast
    rw [document.line_eq lineOf] at hShown
    cases hShown
    rw [Nat.add_sub_cancel, String.toList_ofList]
    exact ⟨line, lineOf.getElem?_splitOn, LineTable.eq_dropFinal_append_or_eq '\r' line⟩
  · have hOutside : number = 0 ∨ document.lineCount < number := by
      by_contra hInside
      obtain ⟨shown, hShown⟩ := hFound.2 (by omega)
      rw [hFailure] at hShown
      cases hShown
    rw [document.line_eq_error hOutside] at hFailure
    exact (Except.error.inj hFailure).symm
  · have bounds := document.bounds_of_lineRange? hRange
    exact ⟨bounds, bounds.fromUTF8?_extract⟩

/-- Characters of two to four bytes around the line feeds, and two carriage returns before one. -/
theorem line_is_piece_wideCharacters :
    let document : Document := { id := 0, name := "a", content := "é€\r\n😀\r\r\nß" }
    document.lineCount = 3 ∧ document.line 2 = .ok "😀\r" ∧
    (∃ piece, (document.content.toList.splitOn '\n')[1]? = some piece ∧
      (piece = "😀\r".toList ++ ['\r'] ∨ piece = "😀\r".toList ∧ '\r' ∉ piece.getLast?)) ∧
    document.line 4 = .error (.noLine 4 3) ∧ document.lineRange? 2 = some (7, 14) ∧
    LineTable.Bounds document.content 7 14 := by
  intro document
  have hShown : document.line 2 = .ok "😀\r" := by subst document; rfl
  have hRefused : document.line 4 = .error (.noLine 4 3) := by subst document; rfl
  have hRange : document.lineRange? 2 = some (7, 14) := by subst document; rfl
  obtain ⟨-, -, hPiece, -, hBounds⟩ := line_is_piece document 2
  obtain ⟨-, -, -, hFailure, -⟩ := line_is_piece document 4
  obtain ⟨-, hCount⟩ := LookupFailure.noLine.inj (hFailure _ hRefused)
  obtain ⟨bounds, -⟩ := hBounds 7 14 hRange
  exact ⟨hCount.symm, hShown, hPiece _ hShown, hRefused, hRange, bounds⟩

end Coll

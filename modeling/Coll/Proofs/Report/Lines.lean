import Coll.Proofs.Lexeme.Gap
import Coll.Proofs.Text.Utf8
import Coll.Report.Document
import Mathlib.Logic.Function.Iterate

/-!
The lines of a document. The table of lines is made of byte offsets, the position of a cursor counts
characters; both find the same line, and in it the same character.
-/

namespace Coll

open Lexeme (EndsLine)
open Text.Utf8 (encode)

/-- A line of a text, without its line feed, between what stands above and below it. -/
structure LineOf (text above line below : List Char) : Prop where
  text_eq : text = above ++ line ++ below
  begins : ∀ c ∈ above.getLast?, c = '\n'
  plain : '\n' ∉ line
  ends : EndsLine below

/-- A line with its line feed, if it has one, between what stands above and below them. -/
theorem LineOf.text_eq_of_terminator {text above line below : List Char}
    (lineOf : LineOf text above line below) :
    text = above ++ (line ++ below.take 1) ++ below.drop 1 := by
  rw [lineOf.text_eq, List.append_assoc above, List.append_assoc, List.append_assoc,
    List.take_append_drop]

/-- Every place of a text is in one of its lines. -/
theorem exists_lineOf (before behind : List Char) :
    ∃ above indent rest below, before = above ++ indent ∧ behind = rest ++ below ∧
      LineOf (before ++ behind) above (indent ++ rest) below := by
  let above := (before.reverse.dropWhile (· != '\n')).reverse
  let indent := (before.reverse.takeWhile (· != '\n')).reverse
  let rest := behind.takeWhile (· != '\n')
  let below := behind.dropWhile (· != '\n')
  have hBefore : before = above ++ indent := by
    rw [← List.reverse_append, List.takeWhile_append_dropWhile, List.reverse_reverse]
  have hBehind : behind = rest ++ below := List.takeWhile_append_dropWhile.symm
  refine ⟨above, indent, rest, below, hBefore, hBehind, ?_, ?_, ?_, ?_⟩
  · simp only [← List.append_assoc, ← hBefore]
    rw [List.append_assoc, ← hBehind]
  · intro c hc
    rw [List.getLast?_reverse] at hc
    simpa using stop_dropWhile (· != '\n') before.reverse c hc
  · intro hMem
    rcases List.mem_append.1 hMem with hMem | hMem
    · simpa using of_mem_takeWhile (List.mem_reverse.1 hMem)
    · simpa using of_mem_takeWhile hMem
  · intro c hc
    simpa using stop_dropWhile (· != '\n') behind c hc

/-- Of a line of every number there is one, as long as there are line feeds. -/
theorem exists_lineOf_of_le {text : List Char} {index : Nat} (hIndex : index ≤ text.count '\n') :
    ∃ above line below, LineOf text above line below ∧ above.count '\n' = index := by
  obtain ⟨before, behind, rfl, hCount⟩ :
      ∃ before behind, text = before ++ behind ∧ before.count '\n' = index := by
    induction text generalizing index with
    | nil => exact ⟨[], [], rfl, (Nat.le_zero.1 hIndex).symm⟩
    | cons c rest ih =>
        cases index with
        | zero => exact ⟨[], c :: rest, rfl, rfl⟩
        | succ index =>
            by_cases hFeed : c = '\n'
            · subst hFeed
              rw [List.count_cons_self] at hIndex
              obtain ⟨before, behind, rfl, hCount⟩ := ih (Nat.le_of_succ_le_succ hIndex)
              exact ⟨'\n' :: before, behind, rfl, by rw [List.count_cons_self, hCount]⟩
            · rw [List.count_cons_of_ne hFeed] at hIndex
              obtain ⟨before, behind, rfl, hCount⟩ := ih hIndex
              exact ⟨c :: before, behind, rfl, by rw [List.count_cons_of_ne hFeed, hCount]⟩
  obtain ⟨above, indent, rest, below, rfl, -, lineOf⟩ := exists_lineOf before behind
  refine ⟨above, _, below, lineOf, ?_⟩
  have hPlain : '\n' ∉ indent := fun hMem => lineOf.plain (List.mem_append_left _ hMem)
  rw [← hCount, List.count_append, List.count_eq_zero_of_not_mem hPlain, Nat.add_zero]

namespace Text.Position

theorem column_after_of_plain (p : Position) {indent : List Char} (hPlain : '\n' ∉ indent) :
    (p.after indent).column = p.column + indent.length := by
  induction indent generalizing p with
  | nil => rfl
  | cons c rest ih =>
      obtain ⟨hFirst, hRest⟩ := not_or.1 (mt List.mem_cons.2 hPlain)
      rw [after_cons, ih _ hRest, next, if_neg (Ne.symm hFirst), List.length_cons,
        Nat.add_comm rest.length, Nat.add_assoc]

/-- Above a line, and in it up to some place, the line is told by the line feeds and the column by
the indent. -/
theorem after_indent {above indent : List Char} (hBegins : ∀ c ∈ above.getLast?, c = '\n')
    (hPlain : '\n' ∉ indent) :
    (start.after (above ++ indent)).line = above.count '\n' + 1 ∧
      (start.after (above ++ indent)).column = indent.length + 1 := by
  have hFirst : (start.after above).column = 1 := by
    rcases List.eq_nil_or_concat above with rfl | ⟨more, c, rfl⟩
    · rfl
    · obtain rfl : c = '\n' := hBegins c (by simp)
      simp [after_append, next]
  constructor
  · simp [line_after, List.count_append, List.count_eq_zero_of_not_mem hPlain, start]
    omega
  · rw [after_append, column_after_of_plain _ hPlain, hFirst]
    omega

end Text.Position

namespace LineTable

theorem startsAfterFeeds_append (i : Nat) (first second : List UInt8) :
    startsAfterFeeds i (first ++ second) =
      startsAfterFeeds i first ++ startsAfterFeeds (i + first.length) second := by
  induction first generalizing i with
  | nil => rfl
  | cons b rest ih =>
      have hIndex : i + 1 + rest.length = i + (rest.length + 1) := by omega
      simp only [List.cons_append, startsAfterFeeds, ih, List.length_cons, hIndex]
      split <;> simp

theorem startsAfterFeeds_of_not_mem (i : Nat) {bytes : List UInt8} (hPlain : 0x0A ∉ bytes) :
    startsAfterFeeds i bytes = [] := by
  induction bytes generalizing i with
  | nil => rfl
  | cons b rest ih =>
      obtain ⟨hFirst, hRest⟩ := not_or.1 (mt List.mem_cons.2 hPlain)
      rw [startsAfterFeeds, if_neg (Ne.symm hFirst), ih _ hRest]

/-- The byte of a line feed occurs in no other character. -/
theorem feed_not_mem_encodeChar {c : Char} (hPlain : c ≠ '\n') :
    (0x0A : UInt8) ∉ String.utf8EncodeChar c := by
  have hOther (n : Nat) (hByte : n < 256) (hValue : n ≠ 10) : (0x0A : UInt8) ≠ UInt8.ofNat n := by
    intro hSame
    have hNat := congrArg UInt8.toNat hSame
    rw [UInt8.toNat_ofNat', Nat.mod_eq_of_lt hByte] at hNat
    exact hValue hNat.symm
  have hCode : c.val.toNat ≠ 10 := by
    intro hSame
    exact hPlain (Char.ext (UInt32.toNat_inj.1 hSame))
  have hMax : c.val.toNat ≤ 0x10FFFF := by
    rcases c.valid with hLow | ⟨-, hHigh⟩ <;> omega
  -- all bytes of a longer sequence are 80 or above
  unfold String.utf8EncodeChar
  dsimp only
  simp only [apply_ite ((0x0A : UInt8) ∈ ·), List.mem_cons, List.not_mem_nil, or_false]
  split
  · exact hOther _ (by omega) hCode
  split
  · exact not_or.2 ⟨hOther _ (by omega) (by omega), hOther _ (by omega) (by omega)⟩
  split
  · exact not_or.2 ⟨hOther _ (by omega) (by omega),
      not_or.2 ⟨hOther _ (by omega) (by omega), hOther _ (by omega) (by omega)⟩⟩
  · exact not_or.2 ⟨hOther _ (by omega) (by omega), not_or.2 ⟨hOther _ (by omega) (by omega),
      not_or.2 ⟨hOther _ (by omega) (by omega), hOther _ (by omega) (by omega)⟩⟩⟩

/-- Every line feed begins a line. -/
theorem length_startsAfterFeeds (i : Nat) (text : List Char) :
    (startsAfterFeeds i (encode text)).length = text.count '\n' := by
  induction text generalizing i with
  | nil => rfl
  | cons c rest ih =>
      rw [Text.Utf8.encode_cons, startsAfterFeeds_append, List.length_append, ih, List.count_cons]
      by_cases hFeed : c = '\n'
      · subst hFeed
        rw [Nat.add_comm]
        rfl
      · rw [startsAfterFeeds_of_not_mem i (feed_not_mem_encodeChar hFeed)]
        simp [hFeed]

/-- The entry for a line is where the text above it ends. -/
theorem getElem?_starts (above more : List Char) (hBegins : ∀ c ∈ above.getLast?, c = '\n') :
    (0 :: startsAfterFeeds 0 (encode (above ++ more)))[above.count '\n']? =
      some (encode above).length := by
  rcases List.eq_nil_or_concat above with rfl | ⟨front, c, rfl⟩
  · rfl
  · obtain rfl : c = '\n' := hBegins c (by simp)
    have hBytes : encode (front.concat '\n' ++ more) = encode front ++ 0x0A :: encode more := by
      simp [encode]
      rfl
    have hFront := length_startsAfterFeeds 0 front
    have hCount : (front.concat '\n').count '\n' = front.count '\n' + 1 := by simp
    rw [hBytes, startsAfterFeeds_append, hCount, List.getElem?_cons_succ,
      List.getElem?_append_right (Nat.le_of_eq hFront), hFront]
    simp [encode, startsAfterFeeds]
    rfl

theorem encode_toList (text : String) : text.toByteArray.data.toList = encode text.toList := by
  have hBytes : text.toByteArray = text.toList.utf8Encode := by
    rw [← String.toByteArray_ofList, String.ofList_toList]
  rw [hBytes, List.utf8Encode, List.data_toByteArray]
  rfl

theorem length_encode_toList (text : String) : (encode text.toList).length = text.utf8ByteSize := by
  rw [← encode_toList]
  rfl

/-- Between the offsets of two characters stand the characters between them. -/
theorem slice_eq {text : String} {before middle behind : List Char}
    (h : text.toList = before ++ middle ++ behind) :
    slice text (encode before).length (encode (before ++ middle)).length =
      String.ofList middle := by
  have hBytes : text.toByteArray.extract (encode before).length
      (encode (before ++ middle)).length = (String.ofList middle).toByteArray := by
    apply ByteArray.ext
    rw [ByteArray.data_extract, ← Array.toList_inj, Array.toList_extract, encode_toList,
      encode_toList, h]
    simp [List.extract_eq_take_drop, encode]
  have hValid := (String.ofList middle).isValidUTF8
  rw [slice, hBytes, String.fromUTF8?, dif_pos hValid]
  rfl

end LineTable

namespace Document

open LineTable (dropFinal)

theorem lineCount_eq (document : Document) :
    document.lineCount = document.content.toList.count '\n' + 1 := by
  rw [lineCount, document.lineStarts_eq, LineTable.starts, LineTable.encode_toList]
  simp [LineTable.length_startsAfterFeeds]

/-- A machine word can count the columns of a document. -/
theorem lt_wordLimit (document : Document) {column : Nat}
    (hColumn : column ≤ document.content.toList.length + 1) : column < document.wordLimit := by
  have hLength := Text.Utf8.length_le_encode document.content.toList
  rw [LineTable.length_encode_toList] at hLength
  have hLimit : document.content.utf8ByteSize + 2 ≤ document.wordLimit := Nat.le_max_right _ _
  omega

/-- The number of a line that is there counts the line feeds above a line of the content. -/
theorem exists_lineOf_of_number (document : Document) {number : Nat} (hFirst : 1 ≤ number)
    (hLast : number ≤ document.lineCount) :
    ∃ above line below, LineOf document.content.toList above line below ∧
      above.count '\n' + 1 = number := by
  obtain ⟨index, rfl⟩ := Nat.exists_eq_add_of_le' hFirst
  rw [document.lineCount_eq] at hLast
  obtain ⟨above, line, below, lineOf, hIndex⟩ :=
    exists_lineOf_of_le (Nat.le_of_succ_le_succ hLast)
  exact ⟨above, line, below, lineOf, by rw [hIndex]⟩

/-- The entries for a line bound it, with its line feed if it has one. -/
theorem lineRange?_eq (document : Document) {above line below : List Char}
    (lineOf : LineOf document.content.toList above line below) :
    document.lineRange? (above.count '\n' + 1) =
      some ((encode above).length, (encode (above ++ (line ++ below.take 1))).length) := by
  have hStarts (index : Nat) : document.lineStarts[index]? =
      (0 :: LineTable.startsAfterFeeds 0 (encode document.content.toList))[index]? := by
    rw [document.lineStarts_eq, LineTable.starts, LineTable.encode_toList]
    simp
  have hFirst : document.lineStarts[above.count '\n']? = some (encode above).length := by
    rw [hStarts, lineOf.text_eq, List.append_assoc]
    exact LineTable.getElem?_starts above _ lineOf.begins
  have hPlain := List.count_eq_zero_of_not_mem lineOf.plain
  have hPast : document.lineStarts[above.count '\n' + 1]?.getD document.content.utf8ByteSize =
      (encode (above ++ (line ++ below.take 1))).length := by
    cases below with
    | nil =>
        have hNone : document.lineStarts[above.count '\n' + 1]? = none := by
          apply Array.getElem?_eq_none
          change document.lineCount ≤ _
          simp [document.lineCount_eq, lineOf.text_eq, hPlain]
        rw [hNone, Option.getD_none, ← LineTable.length_encode_toList, lineOf.text_eq]
        simp
    | cons c below =>
        obtain rfl : c = '\n' := lineOf.ends c rfl
        have hNext := LineTable.getElem?_starts (above ++ (line ++ ['\n'])) below (by simp)
        have hCount : (above ++ (line ++ ['\n'])).count '\n' = above.count '\n' + 1 := by
          simp [hPlain]
        have hText : above ++ (line ++ ['\n']) ++ below = document.content.toList := by
          rw [lineOf.text_eq]
          simp
        rw [hCount, hText, ← hStarts] at hNext
        rw [hNext]
        rfl
  rw [lineRange?, hFirst, Option.map_some, hPast]

/-- Looked up in the table, a line is what stands between two line feeds, but for a carriage return
at its end. -/
theorem line_eq (document : Document) {above line below : List Char}
    (lineOf : LineOf document.content.toList above line below) :
    document.line (above.count '\n' + 1) = .ok (String.ofList (dropFinal '\r' line)) := by
  have hFeed : dropFinal '\n' (line ++ below.take 1) = line := by
    cases below with
    | nil =>
        have hLast : line.getLast? ≠ some '\n' := fun h => lineOf.plain (List.mem_of_getLast? h)
        simp [dropFinal, hLast]
    | cons c below =>
        obtain rfl : c = '\n' := lineOf.ends c rfl
        simp [dropFinal]
  rw [Document.line, document.lineRange?_eq lineOf]
  simp only [LineTable.slice_eq lineOf.text_eq_of_terminator, LineTable.withoutTerminator,
    String.toList_ofList, hFeed]

/-- There is no line 0, and none behind the last. -/
theorem line_eq_error (document : Document) {line : Nat}
    (hLine : line = 0 ∨ document.lineCount < line) :
    document.line line = .error (.noLine line document.lineCount) := by
  have hRange : document.lineRange? line = none := by
    cases line with
    | zero => rfl
    | succ index =>
        have hSize : document.lineStarts.size ≤ index :=
          Nat.le_of_lt_succ (hLine.resolve_left (Nat.succ_ne_zero index))
        rw [lineRange?, Array.getElem?_eq_none hSize, Option.map_none]
  rw [Document.line, hRange]

end Document

/-- A character that is not shown with its line: a line feed, or a carriage return that stands before
one or at the end of the text. -/
def EndsShown (c : Char) (behind : List Char) : Prop :=
  c = '\n' ∨ c = '\r' ∧ EndsLine behind

theorem length_dropFinal_le (d : Char) (row : List Char) :
    (LineTable.dropFinal d row).length ≤ row.length := by
  unfold LineTable.dropFinal
  split
  · simp
  · exact Nat.le_refl _

/-- Dropping what ends a line drops nothing before its last character. -/
theorem getElem?_dropFinal {row : List Char} {c d : Char} {i : Nat} (hAt : row[i]? = some c)
    (hStays : i + 1 < row.length ∨ c ≠ d) : (LineTable.dropFinal d row)[i]? = some c := by
  unfold LineTable.dropFinal
  split
  · next hLast =>
      have hBefore : i < row.length - 1 := by
        rcases hStays with hBefore | hOther
        · omega
        · have hBound := (List.getElem?_eq_some_iff.1 hAt).1
          have hNotLast : i ≠ row.length - 1 := by
            rintro rfl
            rw [← List.getLast?_eq_getElem?, hLast] at hAt
            exact hOther (Option.some.inj hAt).symm
          omega
      rw [List.getElem?_dropLast, if_pos hBefore, hAt]
  · exact hAt

/-- The line of a place shows the character there in its column, if it shows it at all. -/
theorem LineOf.shows {text above indent rest below behind : List Char} {c : Char}
    (lineOf : LineOf text above (indent ++ rest) below) (hBehind : c :: behind = rest ++ below) :
    let shown := LineTable.dropFinal '\r' (indent ++ rest)
    (¬ EndsShown c behind → shown[indent.length]? = some c) ∧
      (EndsShown c behind → shown.length ≤ indent.length) := by
  intro shown
  cases rest with
  | nil =>
      obtain rfl : c = '\n' := lineOf.ends c (congrArg List.head? hBehind.symm)
      refine ⟨fun hShown => absurd (.inl rfl) hShown, fun _ => ?_⟩
      calc shown.length
          ≤ (indent ++ []).length := length_dropFinal_le '\r' (indent ++ [])
        _ = indent.length := by rw [List.append_nil]
  | cons d rest =>
      obtain ⟨rfl, rfl⟩ := List.cons.inj hBehind
      constructor
      · intro hShown
        refine getElem?_dropFinal (by simp) ?_
        cases rest with
        | nil => exact .inr fun hReturn => hShown (.inr ⟨hReturn, lineOf.ends⟩)
        | cons e rest => exact .inl (by simp)
      · rintro (rfl | ⟨rfl, hEnds⟩)
        · exact absurd (List.mem_append_right _ List.mem_cons_self) lineOf.plain
        · cases rest with
          | nil => simp [shown, LineTable.dropFinal]
          | cons e rest =>
              obtain rfl : e = '\n' := hEnds e rfl
              exact absurd (by simp) lineOf.plain

namespace Cursor

variable {σ : Type} [FiniteStream σ]

/-- Advancing `count` times moves over as many characters, or over all there are. -/
theorem moved_iterate_advance (cursor : Cursor σ) (count : Nat) :
    cursor.Moved (cursor.rest.take count) (advance^[count] cursor) := by
  induction count generalizing cursor with
  | zero => exact .refl cursor
  | succ count ih =>
      rw [Function.iterate_succ_apply]
      cases hHere : cursor.current with
      | none =>
          have hSame : cursor.advance = cursor := by simp [advance, hHere]
          have hRest := rest_eq_nil_iff.2 hHere
          simpa [hSame, hRest] using ih cursor
      | some c =>
          rw [rest_eq_cons hHere, List.take_succ_cons]
          exact (moved_advance hHere).cons (ih cursor.advance)

end Cursor

/-- The position of a cursor and the table of lines agree. Wherever a cursor over the content of a
document has come to, the document has the line that it is in; at the end of the content that is the
last line; and before the end, the character under the cursor is shown in that line and in the column
of the cursor, unless it ends the line. -/
theorem line_at_cursor (id : DocumentId) (name content : String) (offset : Nat) :
    let text := content.toList
    let position := (Cursor.advance^[offset] (Cursor.ofStream text)).position
    let document : Document := { id, name, content }
    ∃ shown, document.line position.line = .ok shown ∧
      (text.length ≤ offset → position.line = document.lineCount) ∧
      ∀ c behind, text.drop offset = c :: behind → 1 ≤ position.column ∧
        (¬ EndsShown c behind → shown.toList[position.column - 1]? = some c) ∧
        (EndsShown c behind → shown.length < position.column) := by
  intro text position document
  obtain ⟨above, indent, rest, below, hBefore, hBehind, lineOf⟩ :=
    exists_lineOf (text.take offset) (text.drop offset)
  rw [List.take_append_drop] at lineOf
  have hPosition : position = Text.Position.start.after (above ++ indent) := by
    have moved := (Cursor.ofStream text).moved_iterate_advance offset
    rw [Cursor.rest_ofStream, CharStream.toList_list, hBefore] at moved
    exact moved.position_eq
  have hPlain : '\n' ∉ indent := fun hMem => lineOf.plain (List.mem_append_left _ hMem)
  obtain ⟨hLine, hColumn⟩ := Text.Position.after_indent lineOf.begins hPlain
  rw [← hPosition] at hLine hColumn
  refine ⟨_, hLine ▸ document.line_eq lineOf, ?_, ?_⟩
  · intro hEnd
    have hAll : text = above ++ indent := by rw [← hBefore, List.take_of_length_le hEnd]
    have hCount : document.lineCount = text.count '\n' + 1 := document.lineCount_eq
    rw [hLine, hCount, hAll, List.count_append, List.count_eq_zero_of_not_mem hPlain, Nat.add_zero]
  · intro c behind hHere
    obtain ⟨hShown, hEnds⟩ := lineOf.shows (hHere.symm.trans hBehind)
    rw [hColumn, String.toList_ofList, String.length_ofList]
    exact ⟨Nat.succ_pos _, hShown, fun h => Nat.lt_succ_of_le (hEnds h)⟩

end Coll

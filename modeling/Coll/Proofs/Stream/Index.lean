import Coll.Proofs.Stream.Decoding
import Coll.Proofs.Stream.Polling
import Mathlib.Data.List.Induction

/-!
A cursor is an index into its text. The text alone says where each operation goes from an index,
what is answered there and what is seen; what the cursor has drawn from its stream already, and how
the stream supplies the text, shows in none of it.
-/

namespace Coll

namespace Cursor

/-- What is seen of a cursor without asking it to do anything. -/
structure View where
  char : Char
  atEnd : Bool
  offset : Nat
  line : Nat
  column : Nat
  deriving DecidableEq, Repr

/-- What an operation answers. -/
inductive Answer where
  | done
  | following (char : Char)
  | accepted (taken : Bool)
  deriving DecidableEq, Repr

section Seen

variable {σ : Type} [CharStream σ]

def view (cursor : Cursor σ) : View where
  char := cursor.char
  atEnd := cursor.atEnd
  offset := cursor.position.offset
  line := cursor.position.line
  column := cursor.position.column

def answer (cursor : Cursor σ) : Operation → Answer
  | .advance => .done
  | .peek => .following cursor.peek.1
  | .accept expected => .accepted (cursor.accept expected).1

end Seen

namespace Operation

/-- Where an operation goes from the index `o` of a text. -/
def move (text : List Char) (o : Nat) : Operation → Nat
  | .advance => min (o + 1) text.length
  | .peek => o
  | .accept expected => if text[o]? = some expected then o + 1 else o

/-- What an operation answers at the index `o` of a text. The end of the text reads as NUL, but is
accepted as no character. -/
def reply (text : List Char) (o : Nat) : Operation → Answer
  | .advance => .done
  | .peek => .following (text[o + 1]?.getD '\x00')
  | .accept expected => .accepted (text[o]? = some expected)

/-- Where one operation after the other leads from the beginning of a text. -/
def index (text : List Char) (operations : List Operation) : Nat := operations.foldl (move text) 0

end Operation

/-- What is seen at the index `o` of a text. A line feed ends a line, and the characters behind the
last one before `o` are in the line of `o`. -/
def View.at (text : List Char) (o : Nat) : View where
  char := text[o]?.getD '\x00'
  atEnd := o = text.length
  offset := o
  line := 1 + (text.take o).count '\n'
  column := 1 + ((text.take o).reverse.takeWhile (· != '\n')).length

/-- A cursor is seen, answers and goes on as the index `o` of a text does. -/
structure Mirrors {σ : Type} [CharStream σ] (cursor : Cursor σ) (text : List Char) (o : Nat) :
    Prop where
  view : cursor.view = .at text o
  answer : ∀ operation, cursor.answer operation = operation.reply text o
  perform : ∀ operation, (cursor.perform operation).view = .at text (operation.move text o)

end Cursor

/-- The column behind a text counts the characters behind its last line feed. -/
theorem Text.Position.column_after (text : List Char) :
    (start.after text).column = 1 + (text.reverse.takeWhile (· != '\n')).length := by
  induction text using List.reverseRecOn with
  | nil => rfl
  | append_singleton text c ih =>
      rw [after_append, after_cons, after_nil, next, List.reverse_append, List.reverse_singleton,
        List.singleton_append]
      split
      · next hFeed => simp [hFeed]
      · next hOther =>
          rw [List.takeWhile_cons_of_pos (by simpa using hOther), List.length_cons]
          simp only [ih]
          omega

namespace Cursor

variable {σ : Type} [FiniteStream σ] {cursor : Cursor σ} {text : List Char} {o : Nat}

/-- The cursor is at the index `o` of a text: the characters before it gave its position, and those
from there on it has still before it. -/
structure At (text : List Char) (o : Nat) (cursor : Cursor σ) : Prop where
  le : o ≤ text.length
  rest_eq : cursor.rest = text.drop o
  position_eq : cursor.position = .after .start (text.take o)

theorem at_ofStream (s : σ) : At (CharStream.toList s) 0 (ofStream s) :=
  ⟨Nat.zero_le _, rest_ofStream s, rfl⟩

namespace At

theorem current_eq (atIndex : At text o cursor) : cursor.current = text[o]? := by
  rw [← head?_rest, atIndex.rest_eq, List.head?_drop]

/-- Moving over a character leads to the next index. -/
theorem advance_of_some {c : Char} (atIndex : At text o cursor) (hHere : text[o]? = some c) :
    At text (o + 1) cursor.advance where
  le := (List.getElem?_eq_some_iff.1 hHere).1
  rest_eq := by rw [rest_advance, atIndex.rest_eq, List.tail_drop]
  position_eq := by
    rw [position_advance (atIndex.current_eq.trans hHere), atIndex.position_eq,
      List.take_add_one, hHere, Text.Position.after_append]
    rfl

theorem advance (atIndex : At text o cursor) :
    At text (min (o + 1) text.length) cursor.advance := by
  cases hHere : text[o]? with
  | some c =>
      have hLess : o + 1 ≤ text.length := (List.getElem?_eq_some_iff.1 hHere).1
      rw [Nat.min_eq_left hLess]
      exact atIndex.advance_of_some hHere
  | none =>
      -- at the end the cursor stays where it is
      have hEnd : o = text.length := Nat.le_antisymm atIndex.le (List.getElem?_eq_none_iff.1 hHere)
      have hSame : cursor.advance = cursor := by
        rw [Cursor.advance, atIndex.current_eq, hHere]
      rw [Nat.min_eq_right (by omega), hSame, ← hEnd]
      exact atIndex

theorem peek (atIndex : At text o cursor) : At text o cursor.peek.2 where
  le := atIndex.le
  rest_eq := (rest_peek cursor).trans atIndex.rest_eq
  position_eq := (position_peek cursor).trans atIndex.position_eq

/-- Every operation goes where it would go from the index. -/
theorem perform (atIndex : At text o cursor) (operation : Operation) :
    At text (operation.move text o) (cursor.perform operation) := by
  cases operation with
  | advance => exact atIndex.advance
  | peek => exact atIndex.peek
  | accept expected =>
      rw [Cursor.perform, accept, Operation.move, atIndex.current_eq]
      split
      · next hHere => exact atIndex.advance_of_some hHere
      · exact atIndex

theorem performAll (atIndex : At text o cursor) (operations : List Operation) :
    At text (operations.foldl (Operation.move text) o) (cursor.performAll operations) := by
  induction operations generalizing cursor o with
  | nil => exact atIndex
  | cons operation operations ih => exact ih (atIndex.perform operation)

theorem view_eq (atIndex : At text o cursor) : cursor.view = .at text o := by
  have hEnd : cursor.atEnd = decide (o = text.length) := by
    have hLe := atIndex.le
    rw [atEnd, atIndex.current_eq, Bool.eq_iff_iff, Option.isNone_iff_eq_none,
      List.getElem?_eq_none_iff, decide_eq_true_iff]
    omega
  have hOffset : cursor.position.offset = o := by
    rw [atIndex.position_eq, Text.Position.offset_after, List.length_take_of_le atIndex.le]
    exact Nat.zero_add o
  have hLine : cursor.position.line = 1 + (text.take o).count '\n' := by
    rw [atIndex.position_eq, Text.Position.line_after]
    rfl
  have hColumn := Text.Position.column_after (text.take o)
  rw [← atIndex.position_eq] at hColumn
  rw [view, View.at, char, atIndex.current_eq, hEnd, hOffset, hLine, hColumn]

theorem answer_eq (atIndex : At text o cursor) (operation : Operation) :
    cursor.answer operation = operation.reply text o := by
  cases operation with
  | advance => rfl
  | peek =>
      rw [answer, Operation.reply, peek_eq_getD, atIndex.rest_eq, List.tail_drop, List.head?_drop]
  | accept expected =>
      rw [answer, Operation.reply, accept, atIndex.current_eq]
      split <;> simp [*]

theorem mirrors (atIndex : At text o cursor) : cursor.Mirrors text o where
  view := atIndex.view_eq
  answer := atIndex.answer_eq
  perform operation := (atIndex.perform operation).view_eq

end At

/-- Whatever is asked of a cursor on a stream, it is at the index that the operations lead to. -/
theorem mirrors_performAll (s : σ) (operations : List Operation) :
    ((ofStream s).performAll operations).Mirrors (CharStream.toList s)
      (Operation.index (CharStream.toList s) operations) :=
  ((at_ofStream s).performAll operations).mirrors

end Cursor

/-- A cursor is an index. Whatever is asked of a cursor over a text, it is where the operations lead
in the text: its character, its place, and what it answers to the next operation and shows behind
that are those of the index. It makes no difference whether the text is held in memory or decoded
from reads that deliver its bytes, however they are cut. -/
theorem cursor_is_index (text : List Char) (operations : List Cursor.Operation) :
    let o := Cursor.Operation.index text operations
    o ≤ text.length ∧ ((Cursor.ofStream text).performAll operations).Mirrors text o ∧
    ∀ reads : Reads, (reads.takeWhile Read.goesOn).flatMap Read.bytes = Text.Utf8.encode text →
      ((Cursor.ofStream ({ reads } : Decoding)).performAll operations).Mirrors text o := by
  have hText := CharStream.toList_list text
  have hMemory := Cursor.mirrors_performAll text operations
  rw [hText] at hMemory
  refine ⟨?_, hMemory, fun reads hBytes => ?_⟩
  · have hAt := (Cursor.at_ofStream text).performAll operations
    rw [hText] at hAt
    exact hAt.le
  · have hLongest := Text.Utf8.LongestText.of_encode text
    rw [← hBytes, ← reads.delivered_eq_flatMap] at hLongest
    have hDecoded : CharStream.toList ({ reads } : Decoding) = text :=
      (Decoding.Left.running hLongest).toList_eq
    have hDecoding := Cursor.mirrors_performAll ({ reads } : Decoding) operations
    rwa [hDecoded] at hDecoding

/-- A character whose bytes are cut apart, a line feed, and a NUL that is not the end. -/
theorem cursor_is_index_cutCharacter :
    let text := ['é', '\n', '\x00']
    let reads : Reads := [.data [0xC3], .interrupted, .data [0xA9, 0x0A], .data [0x00]]
    let operations : List Cursor.Operation := [.peek, .advance, .accept 'n', .accept '\n']
    (reads.takeWhile Read.goesOn).flatMap Read.bytes = Text.Utf8.encode text ∧
    ((Cursor.ofStream ({ reads } : Decoding)).performAll operations).Mirrors text 2 ∧
    Cursor.View.at text 2 = ⟨'\x00', false, 2, 2, 1⟩ := by
  intro text reads operations
  have hBytes : (reads.takeWhile Read.goesOn).flatMap Read.bytes = Text.Utf8.encode text := by
    decide
  obtain ⟨-, -, hDecoding⟩ := cursor_is_index text operations
  exact ⟨hBytes, hDecoding reads hBytes, by decide⟩

end Coll

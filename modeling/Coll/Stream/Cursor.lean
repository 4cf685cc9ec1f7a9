import Coll.Stream.Basic
import Coll.Text.Position

/-!
A cursor walks along a stream. It holds the character it stands on and, once somebody has looked,
the one after it; the stream is asked for nothing else, and never again after its first `none`.
-/

namespace Coll

structure Cursor (σ : Type) where
  /-- What comes after the characters that the cursor holds. -/
  source : σ
  /-- The character under the cursor, `none` at the end of the input. -/
  current : Option Char
  /-- The answer for the character after `current`, if the stream has been asked for it. -/
  ahead : Option (Option Char) := none
  position : Text.Position := .start

namespace Cursor

section Steps

variable {σ : Type} [CharStream σ]

/-- The cursor on the first character of a stream. -/
def ofStream (s : σ) : Cursor σ :=
  { source := (CharStream.next s).2, current := (CharStream.next s).1 }

/-- Whether the input is over. A NUL in the input is not its end. -/
def atEnd (cursor : Cursor σ) : Bool := cursor.current.isNone

/-- The character under the cursor; the end of the input reads as NUL. -/
def char (cursor : Cursor σ) : Char := cursor.current.getD '\x00'

/-- Moves past the current character. At the end of the input nothing happens. -/
def advance (cursor : Cursor σ) : Cursor σ :=
  match cursor.current with
  | none => cursor
  | some c =>
    match cursor.ahead with
    | some answer =>
      { source := cursor.source, current := answer, position := cursor.position.next c }
    | none =>
      { ofStream cursor.source with position := cursor.position.next c }

/-- The character after the current one, or NUL, and the cursor that remembers it. -/
def peek (cursor : Cursor σ) : Char × Cursor σ :=
  match cursor.current, cursor.ahead with
  | none, _ => ('\x00', cursor)
  | some _, some answer => (answer.getD '\x00', cursor)
  | some _, none =>
    let (answer, source) := CharStream.next cursor.source
    (answer.getD '\x00', { cursor with source, ahead := some answer })

/-- Moves past the current character if it is `expected`, and tells whether it was. -/
def accept (cursor : Cursor σ) (expected : Char) : Bool × Cursor σ :=
  if cursor.current = some expected then (true, cursor.advance) else (false, cursor)

end Steps

variable {σ : Type} [FiniteStream σ]

/-- An upper bound on the number of characters up to the end of the input. -/
def bound (cursor : Cursor σ) : Nat :=
  match cursor.current, cursor.ahead with
  | none, _ => 0
  | some _, none => FiniteStream.bound cursor.source + 1
  | some _, some none => 1
  | some _, some (some _) => FiniteStream.bound cursor.source + 2

theorem bound_advance_lt {cursor : Cursor σ} {c : Char} (here : cursor.current = some c) :
    cursor.advance.bound < cursor.bound := by
  rcases cursor with ⟨source, _ | _, _ | _ | _, position⟩ <;>
    simp_all [advance, bound, ofStream]
  split <;> simp_all
  exact FiniteStream.bound_lt (Prod.ext ‹_› rfl : CharStream.next source = (some _, _))

theorem bound_advance_le (cursor : Cursor σ) : cursor.advance.bound ≤ cursor.bound := by
  cases here : cursor.current with
  | none => simp [advance, here]
  | some c => exact Nat.le_of_lt (bound_advance_lt here)

theorem current_peek (cursor : Cursor σ) : cursor.peek.2.current = cursor.current := by
  rcases cursor with ⟨source, _ | _, _ | _, position⟩ <;> rfl

theorem bound_peek_le (cursor : Cursor σ) : cursor.peek.2.bound ≤ cursor.bound := by
  rcases cursor with ⟨source, _ | _, _ | _, position⟩ <;> simp [peek, bound]
  cases drawn : CharStream.next source with
  | mk answer rest =>
    cases answer with
    | none => simp
    | some c => simpa using Nat.succ_le_of_lt (FiniteStream.bound_lt drawn)

theorem bound_accept_le (cursor : Cursor σ) (expected : Char) :
    (cursor.accept expected).2.bound ≤ cursor.bound := by
  unfold accept
  split
  · exact bound_advance_le cursor
  · exact Nat.le_refl _

/-- Takes characters as long as they are of the class `p`. The characters taken are put in front
of `taken`, last one first. -/
def takeOnto (p : Char → Bool) (cursor : Cursor σ) (taken : List Char) : List Char × Cursor σ :=
  match _here : cursor.current with
  | none => (taken, cursor)
  | some c => if p c then takeOnto p cursor.advance (c :: taken) else (taken, cursor)
termination_by cursor.bound
decreasing_by exact bound_advance_lt _here

/-- The longest run of characters of the class `p`, and the cursor after it. -/
def takeWhile (p : Char → Bool) (cursor : Cursor σ) : List Char × Cursor σ :=
  let (taken, rest) := cursor.takeOnto p []
  (taken.reverse, rest)

/-- The cursor after the longest run of characters of the class `p`. -/
def dropWhile (p : Char → Bool) (cursor : Cursor σ) : Cursor σ :=
  match _here : cursor.current with
  | none => cursor
  | some c => if p c then dropWhile p cursor.advance else cursor
termination_by cursor.bound
decreasing_by exact bound_advance_lt _here

theorem bound_takeOnto_le (p : Char → Bool) (cursor : Cursor σ) (taken : List Char) :
    (cursor.takeOnto p taken).2.bound ≤ cursor.bound := by
  fun_induction takeOnto p cursor taken with
  | case1 => exact Nat.le_refl _
  | case2 cursor taken c here _ ih => exact Nat.le_trans ih (bound_advance_le cursor)
  | case3 => exact Nat.le_refl _

theorem bound_takeWhile_le (p : Char → Bool) (cursor : Cursor σ) :
    (cursor.takeWhile p).2.bound ≤ cursor.bound :=
  bound_takeOnto_le p cursor []

/-- A run that is not empty brings the end of the input nearer. -/
theorem bound_takeWhile_lt {p : Char → Bool} {cursor : Cursor σ} {c : Char}
    (here : cursor.current = some c) (inClass : p c) :
    (cursor.takeWhile p).2.bound < cursor.bound := by
  change (cursor.takeOnto p []).2.bound < cursor.bound
  rw [takeOnto]
  split
  · simp_all
  · next d found =>
    obtain rfl : c = d := Option.some.inj (here.symm.trans found)
    simp only [inClass, if_true]
    exact Nat.lt_of_le_of_lt (bound_takeOnto_le p _ _) (bound_advance_lt found)

theorem bound_dropWhile_le (p : Char → Bool) (cursor : Cursor σ) :
    (cursor.dropWhile p).bound ≤ cursor.bound := by
  fun_induction dropWhile p cursor with
  | case1 => exact Nat.le_refl _
  | case2 cursor c here _ ih => exact Nat.le_trans ih (bound_advance_le cursor)
  | case3 => exact Nat.le_refl _

end Cursor

end Coll

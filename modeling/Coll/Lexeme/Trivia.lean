import Coll.Stream.Cursor

/-!
What stands between lexemes: blanks, and comments from `#` up to the end of the line.
-/

namespace Coll.Lexeme

/-- The characters that separate lexemes and mean nothing else. -/
def isBlank (c : Char) : Bool := c == ' ' || c == '\t' || c == '\n' || c == '\r'

def commentMark : Char := '#'

variable {σ : Type} [FiniteStream σ]

/-- Skips blanks and comments. The line feed after a comment is no part of it, but a blank. -/
def skipTrivia (cursor : Cursor σ) : Cursor σ :=
  match _here : cursor.current with
  | none => cursor
  | some c =>
    if isBlank c then skipTrivia cursor.advance
    else if c = commentMark then skipTrivia (cursor.advance.dropWhile (· != '\n'))
    else cursor
termination_by cursor.bound
decreasing_by
  · exact Cursor.bound_advance_lt _here
  · exact Nat.lt_of_le_of_lt (Cursor.bound_dropWhile_le _ _) (Cursor.bound_advance_lt _here)

theorem bound_skipTrivia_le (cursor : Cursor σ) : (skipTrivia cursor).bound ≤ cursor.bound := by
  fun_induction skipTrivia cursor with
  | case1 => exact Nat.le_refl _
  | case2 cursor _ _ _ ih => exact Nat.le_trans ih (Cursor.bound_advance_le cursor)
  | case3 cursor _ _ ih =>
    exact Nat.le_trans ih
      (Nat.le_trans (Cursor.bound_dropWhile_le _ _) (Cursor.bound_advance_le cursor))
  | case4 => exact Nat.le_refl _

end Coll.Lexeme

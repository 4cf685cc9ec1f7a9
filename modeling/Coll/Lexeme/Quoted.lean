import Coll.Lexeme.Basic

/-!
String literals. Between the quotes every character stands for itself, line breaks included,
except that a backslash takes the character after it along.
-/

namespace Coll.Lexeme

def unescape? (c : Char) : Option Char :=
  if c = 'n' then some '\n'
  else if c = '\\' then some '\\'
  else if c = '"' then some '"'
  else none

variable {σ : Type} [FiniteStream σ]

/-- Reads on inside a literal whose content so far is `content`, last character first. -/
def scanContent (cursor : Cursor σ) (content : List Char) : Scan σ :=
  match _here : cursor.current with
  | none => (.malformed .unterminated, cursor)
  | some c =>
    if c = '"' then
      (.lexeme (.literal .string) (String.ofList content.reverse), cursor.advance)
    else if c = '\\' then
      match cursor.advance.current with
      | none => (.malformed .unterminated, cursor.advance)
      | some escaped =>
        match unescape? escaped with
        | some meant => scanContent cursor.advance.advance (meant :: content)
        | none => (.malformed (.invalidEscape escaped), cursor.advance.advance)
    else scanContent cursor.advance (c :: content)
termination_by cursor.bound
decreasing_by
  · exact Nat.lt_of_le_of_lt (Cursor.bound_advance_le _) (Cursor.bound_advance_lt _here)
  · exact Cursor.bound_advance_lt _here

/-- Takes the opening quote, whatever stands in its place, and reads the literal to its end. -/
def scanString (cursor : Cursor σ) : Scan σ := scanContent cursor.advance []

theorem bound_scanContent_le (cursor : Cursor σ) (content : List Char) :
    (scanContent cursor content).2.bound ≤ cursor.bound := by
  have one := fun cursor : Cursor σ => Cursor.bound_advance_le cursor
  have two := fun cursor : Cursor σ => Nat.le_trans (one cursor.advance) (one cursor)
  fun_induction scanContent cursor content with
  | case1 => exact Nat.le_refl _
  | case2 => exact one _
  | case3 => exact one _
  | case4 cursor _ _ _ _ _ _ _ ih => exact Nat.le_trans ih (two cursor)
  | case5 => exact two _
  | case6 cursor _ _ _ _ _ ih => exact Nat.le_trans ih (one cursor)

theorem bound_scanString_lt {cursor : Cursor σ} {c : Char} (here : cursor.current = some c) :
    (scanString cursor).2.bound < cursor.bound :=
  Nat.lt_of_le_of_lt (bound_scanContent_le _ _) (Cursor.bound_advance_lt here)

end Coll.Lexeme

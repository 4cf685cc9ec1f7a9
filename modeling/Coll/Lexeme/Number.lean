import Coll.Lexeme.Basic

/-!
Numbers. Their digits are the ASCII digits. The text of a number drops the zeros that its whole
part begins with, as long as a digit is left, and keeps its fraction as it is.
-/

namespace Coll.Lexeme

/-- A run of digits without leading zeros; `0` if nothing is left. -/
def wholePart (digits : List Char) : List Char :=
  match digits.dropWhile (· == '0') with
  | [] => ['0']
  | significant => significant

def integer (digits : List Char) : Outcome :=
  .lexeme (.literal .integer) (String.ofList (wholePart digits))

/-- A float with the given digits before and after the point. No digit stands before the point
where none was written. -/
def float (digits fraction : List Char) : Outcome :=
  .lexeme (.literal .float)
    (String.ofList ((if digits.isEmpty then [] else wholePart digits) ++ '.' :: fraction))

variable {σ : Type} [FiniteStream σ]

/-- Takes a run of digits and, if a point comes next, the point and another run. -/
def scanNumber (cursor : Cursor σ) : Scan σ :=
  let (digits, rest) := cursor.takeWhile Char.isDigit
  if rest.current = some '.' then
    let (fraction, rest) := rest.advance.takeWhile Char.isDigit
    (float digits fraction, rest)
  else (integer digits, rest)

/-- Takes the point, whatever stands in its place, and a run of digits after it. The whole part
is `0`. -/
def scanDotFloat (cursor : Cursor σ) : Scan σ :=
  let (fraction, rest) := cursor.advance.takeWhile Char.isDigit
  (float ['0'] fraction, rest)

theorem bound_scanNumber_lt {cursor : Cursor σ} {c : Char} (here : cursor.current = some c)
    (digit : c.isDigit) : (scanNumber cursor).2.bound < cursor.bound := by
  have shorter := Cursor.bound_takeWhile_lt here digit
  unfold scanNumber
  generalize cursor.takeWhile Char.isDigit = taken at shorter
  dsimp only
  split
  · exact Nat.lt_of_le_of_lt (Cursor.bound_takeWhile_le _ _)
      (Nat.lt_of_le_of_lt (Cursor.bound_advance_le _) shorter)
  · exact shorter

theorem bound_scanDotFloat_lt {cursor : Cursor σ} {c : Char} (here : cursor.current = some c) :
    (scanDotFloat cursor).2.bound < cursor.bound :=
  Nat.lt_of_le_of_lt (Cursor.bound_takeWhile_le _ _) (Cursor.bound_advance_lt here)

end Coll.Lexeme

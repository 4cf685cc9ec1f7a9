import Coll.Lexeme.Name
import Coll.Lexeme.Number
import Coll.Lexeme.Quoted
import Coll.Lexeme.Sign

/-!
The scanners, and the choice among them by the character that a lexeme begins with.
-/

namespace Coll.Lexeme

/-- The scanners by name. Each one takes its first character to be what it expects, so it can be
run at any place. -/
inductive Scanner where
  | name
  | number
  | dotFloat
  | string
  | sign
  | minus
  | equals
  | less
  | greater
  | ampersand
  | pipe
  deriving DecidableEq, Repr

variable {σ : Type} [FiniteStream σ]

def Scanner.scan : Scanner → Cursor σ → Scan σ
  | name => scanName
  | number => scanNumber
  | dotFloat => scanDotFloat
  | string => scanString
  | sign => scanSign
  | minus => scanMinus
  | equals => scanEquals
  | less => scanLess
  | greater => scanGreater
  | ampersand => scanAmpersand
  | pipe => scanPipe

/-- Takes the lexeme that begins under the cursor. Only for a dot does the character after it
have a say. -/
def scan (cursor : Cursor σ) : Scan σ :=
  if startsName cursor.char then scanName cursor
  else if cursor.char.isDigit then scanNumber cursor
  else if cursor.char = '.' then
    let (following, cursor) := cursor.peek
    if following.isDigit then scanDotFloat cursor else scanSign cursor
  else if cursor.char = '"' then scanString cursor
  else scanSign cursor

/-- A lexeme is never empty. -/
theorem bound_scan_lt {cursor : Cursor σ} {c : Char} (here : cursor.current = some c) :
    (scan cursor).2.bound < cursor.bound := by
  have isChar : cursor.char = c := by simp [Cursor.char, here]
  have peeked := cursor.current_peek.trans here
  have notMore := cursor.bound_peek_le
  unfold scan
  rw [isChar]
  split
  · exact bound_scanName_lt here ‹_›
  split
  · exact bound_scanNumber_lt here ‹_›
  split
  · dsimp only
    split
    · exact Nat.lt_of_lt_of_le (bound_scanDotFloat_lt peeked) notMore
    · exact Nat.lt_of_lt_of_le (bound_scanSign_lt peeked) notMore
  split
  · exact bound_scanString_lt here
  · exact bound_scanSign_lt here

end Coll.Lexeme

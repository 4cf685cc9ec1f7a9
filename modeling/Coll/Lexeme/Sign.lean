import Coll.Lexeme.Basic

/-!
Operators and delimiters. A sign takes as many characters as belong to it; a character that does
not complete it is left for the next lexeme.
-/

namespace Coll.Lexeme

/-- The signs of one character that begin no longer sign. -/
def singleSign? (c : Char) : Option Outcome :=
  match c with
  | '+' => some (.operator .plus)
  | '*' => some (.operator .star)
  | '/' => some (.operator .slash)
  | '%' => some (.operator .percent)
  | '(' => some (.delimiter .leftParenthesis)
  | ')' => some (.delimiter .rightParenthesis)
  | '\x7b' => some (.delimiter .leftBrace)
  | '\x7d' => some (.delimiter .rightBrace)
  | '[' => some (.delimiter .leftBracket)
  | ']' => some (.delimiter .rightBracket)
  | '.' => some (.delimiter .dot)
  | ';' => some (.delimiter .semicolon)
  | ',' => some (.delimiter .comma)
  | _ => none

section Scanners

variable {σ : Type} [CharStream σ]

/-- Takes one character, whatever it is, and a second one if it is `second`. The outcome is
`joined` with the second character and `single` without it. -/
def scanPair (second : Char) (joined single : Outcome) (cursor : Cursor σ) : Scan σ :=
  let (found, rest) := cursor.advance.accept second
  (if found then joined else single, rest)

def scanMinus (cursor : Cursor σ) : Scan σ :=
  scanPair '>' (.delimiter .arrow) (.operator .minus) cursor

def scanLess (cursor : Cursor σ) : Scan σ :=
  scanPair '=' (.operator .lessEqual) (.operator .less) cursor

def scanGreater (cursor : Cursor σ) : Scan σ :=
  scanPair '=' (.operator .greaterEqual) (.operator .greater) cursor

/-- A sign that begins with `&`, which must be doubled. -/
def scanAmpersand (cursor : Cursor σ) : Scan σ :=
  scanPair '&' (.operator .and) (.malformed (.undoubled .ampersand)) cursor

/-- A sign that begins with `|`, which must be doubled. -/
def scanPipe (cursor : Cursor σ) : Scan σ :=
  scanPair '|' (.operator .or) (.malformed (.undoubled .pipe)) cursor

/-- A sign that begins with `=`. After `=/` only `=` may come. -/
def scanEquals (cursor : Cursor σ) : Scan σ :=
  match cursor.advance.accept '=' with
  | (true, rest) => (.operator .equal, rest)
  | (false, rest) =>
    if rest.current = some '/' then
      scanPair '=' (.operator .notEqual) (.malformed .brokenNotEqual) rest
    else (.operator .assign, rest)

/-- Takes the sign that begins with the current character. Every character that begins no sign
is a fault of its own. -/
def scanSign (cursor : Cursor σ) : Scan σ :=
  match cursor.char with
  | '-' => scanMinus cursor
  | '=' => scanEquals cursor
  | '<' => scanLess cursor
  | '>' => scanGreater cursor
  | '&' => scanAmpersand cursor
  | '|' => scanPipe cursor
  | c => ((singleSign? c).getD (.malformed (.unexpected c)), cursor.advance)

end Scanners

variable {σ : Type} [FiniteStream σ]

theorem bound_scanPair_lt (second : Char) (joined single : Outcome) {cursor : Cursor σ} {c : Char}
    (here : cursor.current = some c) :
    (scanPair second joined single cursor).2.bound < cursor.bound :=
  Nat.lt_of_le_of_lt (Cursor.bound_accept_le _ _) (Cursor.bound_advance_lt here)

theorem bound_scanEquals_lt {cursor : Cursor σ} {c : Char} (here : cursor.current = some c) :
    (scanEquals cursor).2.bound < cursor.bound := by
  have shorter := Nat.lt_of_le_of_lt (Cursor.bound_accept_le cursor.advance '=')
    (Cursor.bound_advance_lt here)
  unfold scanEquals
  split
  · next taken => simpa [taken] using shorter
  · next rest taken =>
    simp only [taken] at shorter
    split
    · next slash => exact Nat.lt_trans (bound_scanPair_lt _ _ _ slash) shorter
    · exact shorter

theorem bound_scanSign_lt {cursor : Cursor σ} {c : Char} (here : cursor.current = some c) :
    (scanSign cursor).2.bound < cursor.bound := by
  unfold scanSign
  split
  · exact bound_scanPair_lt _ _ _ here
  · exact bound_scanEquals_lt here
  · exact bound_scanPair_lt _ _ _ here
  · exact bound_scanPair_lt _ _ _ here
  · exact bound_scanPair_lt _ _ _ here
  · exact bound_scanPair_lt _ _ _ here
  · exact Cursor.bound_advance_lt here

end Coll.Lexeme

/-!
Places in a text. Offsets count characters from 0; lines and columns count from 1, and the
character after a line feed is in column 1 of the next line.
-/

namespace Coll.Text

/-- A place in a text: how many characters come before it, and its line and column. Numbers have no
bound here; positions are taken to fit the words of a machine, lines and columns those of 32 bits. -/
structure Position where
  offset : Nat
  line : Nat
  column : Nat
  deriving DecidableEq, Repr

namespace Position

def start : Position := ⟨0, 1, 1⟩

/-- The place after `c`, where `c` stands at `p`. -/
def next (p : Position) (c : Char) : Position :=
  if c = '\n' then ⟨p.offset + 1, p.line + 1, 1⟩ else ⟨p.offset + 1, p.line, p.column + 1⟩

/-- The place after a whole text that begins at `p`. -/
def after (p : Position) (text : List Char) : Position := text.foldl next p

end Position

end Coll.Text

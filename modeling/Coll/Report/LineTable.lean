/-!
Where the lines of a text are, in bytes of its UTF-8 form. The byte of a line feed occurs in no
other character, so the lines can be found without decoding.
-/

namespace Coll.LineTable

/-- The offsets behind the line feeds among `bytes`, the first of which is at offset `i`. -/
def startsAfterFeeds (i : Nat) : List UInt8 → List Nat
  | [] => []
  | b :: rest =>
    if b = 0x0A then (i + 1) :: startsAfterFeeds (i + 1) rest else startsAfterFeeds (i + 1) rest

/-- The offsets at which the lines of `text` begin. The first line begins at 0. -/
def starts (text : String) : Array Nat :=
  (0 :: startsAfterFeeds 0 text.toByteArray.data.toList).toArray

/-- The text between two byte offsets; empty if they do not bound whole characters. -/
def slice (text : String) (first past : Nat) : String :=
  (String.fromUTF8? (text.toByteArray.extract first past)).getD ""

/-- `line` without `c`, if `c` is its last character. -/
def dropFinal (c : Char) (line : List Char) : List Char :=
  if line.getLast? = some c then line.dropLast else line

/-- A line without the line feed that ends it and without a carriage return before that. -/
def withoutTerminator (line : String) : String :=
  String.ofList (dropFinal '\r' (dropFinal '\n' line.toList))

end Coll.LineTable

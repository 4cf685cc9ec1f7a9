import Coll.Text.Numeral

/-!
One line of source with a part of it underlined.
-/

namespace Coll

/-- A source line and the columns to underline. `stopColumn` is one past the last. -/
structure Excerpt where
  line : String
  lineNumber : Nat
  startColumn : Nat
  stopColumn : Nat
  label : Option String := none
  deriving DecidableEq, Repr

namespace Excerpt

/-- How wide the line number is printed: as wide as it is, and at least 3. -/
def gutterWidth (excerpt : Excerpt) : Nat := max 3 (Text.decimal excerpt.lineNumber).length

/-- The number of carets. Something is underlined even if the columns bound nothing. -/
def caretCount (excerpt : Excerpt) : Nat := max 1 (excerpt.stopColumn - excerpt.startColumn)

/-- A row behind a gutter with `mark` in it. -/
def row (excerpt : Excerpt) (mark content : List Char) : List Char :=
  Text.padLeft excerpt.gutterWidth ' ' mark ++ [' ', '|', ' '] ++ content

def sourceRow (excerpt : Excerpt) : List Char :=
  excerpt.row (Text.decimal excerpt.lineNumber) excerpt.line.toList

/-- The row with the carets, and the label behind them. -/
def caretRow (excerpt : Excerpt) : List Char :=
  excerpt.row [] (List.replicate (excerpt.startColumn - 1) ' ' ++
    List.replicate excerpt.caretCount '^' ++
    match excerpt.label with
    | some label => ' ' :: label.toList
    | none => [])

/-- Both rows, without a line feed at the end. -/
def render (excerpt : Excerpt) : String :=
  String.ofList (excerpt.sourceRow ++ '\n' :: excerpt.caretRow)

end Excerpt

end Coll

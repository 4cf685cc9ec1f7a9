import Coll.Proofs.Report.LineTable
import Coll.Proofs.Text.Numeral
import Coll.Report.Catalog

/-!
The report of any diagnostic, wherever its span may point. What is known of the place decides which
rows stand between the header and the suggestions; where the line is known, the carets stay under
its characters.
-/

namespace Coll

open LineTable (dropFinal)

/-- Carets behind `indent` blanks. -/
def carets (indent count : Nat) : List Char :=
  List.replicate indent ' ' ++ List.replicate count '^'

theorem getElem?_carets (indent count i : Nat) :
    (carets indent count)[i]? = some '^' ↔ indent ≤ i ∧ i < indent + count := by
  rw [carets, List.getElem?_append, List.length_replicate]
  by_cases hBlank : i < indent
  · have hBefore : ¬ indent ≤ i := Nat.not_le_of_lt hBlank
    simp [hBlank, hBefore]
  · have hBehind : i - indent < count ↔ i < indent + count := by omega
    simp [hBlank, List.getElem?_replicate, hBehind, Nat.le_of_not_lt hBlank]

namespace Span

/-- The gutter before the line: its number, behind blanks if it has less than three digits. -/
def gutter (span : Span) : List Char :=
  Text.padLeft (max 3 (Text.decimal span.line).length) ' ' (Text.decimal span.line)

/-- The gutter before the carets, which is empty. -/
def margin (span : Span) : List Char := List.replicate (max 3 (Text.decimal span.line).length) ' '

/-- Whatever the number of the line, both gutters are of the same width. -/
theorem length_gutter (span : Span) : span.gutter.length = span.margin.length := by
  rw [gutter, margin, Text.length_padLeft, List.length_replicate]
  exact Nat.max_eq_left (Nat.le_max_right _ _)

end Span

namespace Diagnostic

/-- The suggestions, one on a row. -/
def helpRows (d : Diagnostic) : List (List Char) :=
  d.helps.map fun help => "  = help: ".toList ++ help.toList

/-- The rows below the header: where in the document `name` the span begins, what is shown of that
document, and the suggestions. -/
def rows (d : Diagnostic) (name : String) (shown : List (List Char)) : List (List Char) :=
  ("  --> ".toList ++ name.toList ++ ':' :: Text.decimal d.span.line ++
    ':' :: Text.decimal d.span.column) :: (shown ++ d.helpRows)

/-- The rows below the header where the line is known: it is shown behind its number, and the marks
stand under it. -/
def markedRows (d : Diagnostic) (name : String) (shown marks : List Char) : List (List Char) :=
  d.rows name [d.span.gutter ++ " | ".toList ++ shown, d.span.margin ++ " | ".toList ++ marks]

end Diagnostic

namespace Document

/-- How many carets stand under a line of `length` characters: one at least, and else as many as
there are from the column of the span to the one behind it, but none behind the end of the line. -/
def caretCount (document : Document) (span : Span) (length : Nat) : Nat :=
  max 1 (min (document.stopColumn span) (length + 1) - span.column)

variable {document : Document} {span : Span} {length : Nat}

theorem caretCount_of_lt (hFits : span.column + span.length < document.wordLimit) :
    document.caretCount span length =
      max 1 (min (span.stop - span.start) (length + 1 - span.column)) := by
  rw [caretCount, stopColumn_of_lt hFits, Span.length]
  omega

end Document

namespace Catalog

variable {catalog : Catalog} {document : Document}

/-- Where the line is found, it is shown with the carets under it. -/
theorem toList_render_of_found {d : Diagnostic} {shown : List Char}
    (hGet : catalog.get d.span.document = .ok document)
    (hLine : document.line d.span.line = .ok (String.ofList shown)) :
    (catalog.render d).toList = d.header.toList ++
      (d.markedRows document.name shown
        (carets (d.span.column - 1) (document.caretCount d.span shown.length))).flatMap
          ('\n' :: ·) := by
  have hExcerpt : excerpt? document d.span = some {
      line := String.ofList shown
      lineNumber := d.span.line
      startColumn := d.span.column
      stopColumn := min (document.stopColumn d.span) (shown.length + 1) } := by
    simp only [excerpt?, hLine, String.length_ofList]
  rw [render, place, hGet]
  simp only [hExcerpt]
  simp [Diagnostic.markedRows, Diagnostic.rows, Diagnostic.helpRows, helpLine, Excerpt.render,
    Excerpt.sourceRow, Excerpt.caretRow, Excerpt.row, Excerpt.gutterWidth, Excerpt.caretCount,
    Document.caretCount, Span.gutter, Span.margin, carets, Text.padLeft, List.flatMap_map]

end Catalog

example : ((({} : Catalog).add "a" "x = 1;\r\ny").render
      { severity := .warning, message := "odd", span := ⟨8, 3, 2, 1, 0⟩
        helps := ["one", "two"] }) =
    "warning: odd\n" ++
    "  --> a:2:1\n" ++
    "  2 | y\n" ++
    "    | ^\n" ++
    "  = help: one\n" ++
    "  = help: two" := by
  decide +kernel

end Coll

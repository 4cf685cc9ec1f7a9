import Coll.Report.LineTable
import Coll.Report.Span
import Coll.Text.Numeral

/-!
Source texts with a name, and their lines.
-/

namespace Coll

inductive LookupFailure where
  | noDocument (id : DocumentId)
  | noLine (line count : Nat)
  deriving DecidableEq, Repr

def LookupFailure.message : LookupFailure → String
  | noDocument id => "File not found: index " ++ String.ofList (Text.decimal id)
  | noLine line count =>
    "Invalid line number: " ++ String.ofList (Text.decimal line) ++ " (file has " ++
      String.ofList (Text.decimal count) ++ " lines)"

/-- A source text, with a table of its lines. -/
structure Document where
  id : DocumentId
  name : String
  content : String
  lineStarts : Array Nat := LineTable.starts content
  lineStarts_eq : lineStarts = LineTable.starts content := by rfl

namespace Document

/-- How many lines there are: one more than line feeds. -/
def lineCount (document : Document) : Nat := document.lineStarts.size

/-- The byte offsets between which a line stands, its line feed included. Lines count from 1. -/
def lineRange? (document : Document) (line : Nat) : Option (Nat × Nat) :=
  match line with
  | 0 => none
  | index + 1 =>
    document.lineStarts[index]?.map fun first =>
      (first, document.lineStarts[index + 1]?.getD document.content.utf8ByteSize)

/-- The text of a line, without what ends it. -/
def line (document : Document) (line : Nat) : Except LookupFailure String :=
  match document.lineRange? line with
  | none => .error (.noLine line document.lineCount)
  | some (first, past) =>
    .ok (LineTable.withoutTerminator (LineTable.slice document.content first past))

/-- The first number that is too large for a machine word. Words have 64 bits; only a content that
has more bytes than these can count, as no memory holds, is given words that can count them. -/
def wordLimit (document : Document) : Nat :=
  max UInt64.size (document.content.utf8ByteSize + 2)

/-- The column behind the last character of a span, in a machine word: a sum that is too large
begins again at 0. -/
def stopColumn (document : Document) (span : Span) : Nat :=
  (span.column + span.length) % document.wordLimit

theorem stopColumn_of_lt {document : Document} {span : Span}
    (fits : span.column + span.length < document.wordLimit) :
    document.stopColumn span = span.column + span.length :=
  Nat.mod_eq_of_lt fits

end Document

end Coll

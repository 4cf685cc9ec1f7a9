import Coll.Report.Diagnostic
import Coll.Report.Document
import Coll.Report.Excerpt

/-!
The documents of a run, and the printed form of a diagnostic about one of them.
-/

namespace Coll

/-- Documents by number, counted from 0 in the order in which they came in. -/
structure Catalog where
  documents : Array Document := #[]

namespace Catalog

def size (catalog : Catalog) : Nat := catalog.documents.size

def isEmpty (catalog : Catalog) : Bool := catalog.documents.isEmpty

def nextId (catalog : Catalog) : DocumentId := catalog.size

def add (catalog : Catalog) (name content : String) : Catalog :=
  ⟨catalog.documents.push { id := catalog.nextId, name, content }⟩

def get (catalog : Catalog) (id : DocumentId) : Except LookupFailure Document :=
  match catalog.documents[id]? with
  | some document => .ok document
  | none => .error (.noDocument id)

/-- The line of `document` that `span` begins in, underlined from its column on. The underline
stops at the end of the line; of a span so long that the column behind it has begun again at 0 in a
machine word, only the first column is underlined. -/
def excerpt? (document : Document) (span : Span) : Option Excerpt :=
  match document.line span.line with
  | .error _ => none
  | .ok line =>
    some {
      line
      lineNumber := span.line
      startColumn := span.column
      stopColumn := min (document.stopColumn span) (line.length + 1) }

/-- Where a diagnostic is: the place, and the line as far as it is known. -/
def place (catalog : Catalog) (span : Span) : String :=
  match catalog.get span.document with
  | .error _ => ""
  | .ok document =>
    "\n  --> " ++ document.name ++ ":" ++ String.ofList (Text.decimal span.line) ++ ":" ++
      String.ofList (Text.decimal span.column) ++
      match excerpt? document span with
      | some excerpt => "\n" ++ excerpt.render
      | none => ""

def helpLine (help : String) : String := "\n  = help: " ++ help

/-- The report of a diagnostic: header, place and suggestions. Without the document only header
and suggestions are left. -/
def render (catalog : Catalog) (d : Diagnostic) : String :=
  d.header ++ catalog.place d.span ++ String.join (d.helps.map helpLine)

@[simp] theorem size_add (catalog : Catalog) (name content : String) :
    (catalog.add name content).size = catalog.size + 1 := by
  simp [size, add]

theorem get_add_nextId (catalog : Catalog) (name content : String) :
    (catalog.add name content).get catalog.nextId =
      .ok { id := catalog.nextId, name, content } := by
  simp [get, add, nextId, size]

/-- A document stays under its number when others come in. -/
theorem get_add_of_get {catalog : Catalog} {id : DocumentId} {document : Document}
    (known : catalog.get id = .ok document) (name content : String) :
    (catalog.add name content).get id = .ok document := by
  unfold get at known ⊢
  cases found : catalog.documents[id]? with
  | none => simp [found] at known
  | some other =>
    have bound := (Array.getElem?_eq_some_iff.1 found).1
    have kept : (catalog.add name content).documents[id]? = some other := by
      rw [add, Array.getElem?_push, if_neg (Nat.ne_of_lt bound), found]
    simpa [found, kept] using known

end Catalog

end Coll

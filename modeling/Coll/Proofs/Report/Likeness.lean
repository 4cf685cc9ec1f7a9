import Coll.Proofs.Report.Flaws
import Coll.Proofs.Report.Lines
import Coll.Report.Catalog
import Mathlib.Data.List.Forall2

/-!
Reports that look the same. Of the place of an error a report shows the name of the document, the
line, and from which column on how much of it is malformed. How many characters stand before the
error, and under which number its document is filed, is not seen.
-/

namespace Coll

/-- Places in the same line and column, each in a text of its own. -/
structure Text.Position.Alike (p p' : Text.Position) : Prop where
  line : p.line = p'.line
  column : p.column = p'.column

/-- Stretches of the same length in the same line and column. -/
structure Span.Alike (span span' : Span) : Prop where
  line : span.line = span'.line
  column : span.column = span'.column
  length : span.length = span'.length

/-- Diagnostics that differ in no more than where their stretch is counted from. -/
structure Diagnostic.Alike (d d' : Diagnostic) : Prop where
  severity : d.severity = d'.severity
  message : d.message = d'.message
  span : d.span.Alike d'.span
  code : d.code = d'.code
  helps : d.helps = d'.helps

/-- The same token, at stretches and with reports that are alike. -/
structure Scanned.Alike (scanned scanned' : Scanned) : Prop where
  token : scanned.token = scanned'.token
  span : scanned.span.Alike scanned'.span
  report : List.Forall₂ Diagnostic.Alike scanned.report.toList scanned'.report.toList

namespace Text.Position

variable {p p' : Position}

theorem Alike.refl (p : Position) : p.Alike p := ⟨rfl, rfl⟩

theorem Alike.next (alike : p.Alike p') (c : Char) : (p.next c).Alike (p'.next c) := by
  unfold Position.next
  split
  · exact ⟨congrArg (· + 1) alike.line, rfl⟩
  · exact ⟨alike.line, congrArg (· + 1) alike.column⟩

theorem Alike.after (alike : p.Alike p') (text : List Char) :
    (p.after text).Alike (p'.after text) := by
  induction text generalizing p p' with
  | nil => exact alike
  | cons c rest ih => exact ih (alike.next c)

end Text.Position

/-- Two stretches that lead from places that are alike to places that are. -/
def Parallel (stretch stretch' : List Char) : Prop :=
  ∀ ⦃p p' : Text.Position⦄, p.Alike p' → (p.after stretch).Alike (p'.after stretch')

theorem Parallel.refl (stretch : List Char) : Parallel stretch stretch :=
  fun _ _ alike => alike.after stretch

theorem Parallel.append {first first' second second' : List Char} (left : Parallel first first')
    (right : Parallel second second') : Parallel (first ++ second) (first' ++ second') := by
  intro p p' alike
  rw [Text.Position.after_append, Text.Position.after_append]
  exact right (left alike)

/-- The same lexeme behind gaps that are parallel. -/
structure Piece.Alike (piece piece' : Piece) : Prop where
  gap : Parallel piece.gap piece'.gap
  lexeme : piece.lexeme = piece'.lexeme
  outcome : piece.outcome = piece'.outcome

theorem Piece.Alike.refl (piece : Piece) : piece.Alike piece := ⟨.refl piece.gap, rfl, rfl⟩

theorem Piece.Alike.stretch {piece piece' : Piece} (alike : piece.Alike piece') :
    Parallel piece.stretch piece'.stretch :=
  alike.gap.append (alike.lexeme ▸ .refl piece.lexeme)

variable {p p' : Text.Position} {document document' : DocumentId}

theorem Piece.Alike.scanned {piece piece' : Piece} (alike : piece.Alike piece')
    (hPlace : p.Alike p') :
    (piece.scanned document p).Alike (piece'.scanned document' p') := by
  have hStart := alike.gap hPlace
  have hSpan : (piece.scanned document p).span.Alike (piece'.scanned document' p').span := by
    refine ⟨hStart.line, hStart.column, ?_⟩
    simp only [Piece.scanned, Span.length, Text.Position.offset_after, alike.lexeme]
    omega
  refine ⟨?_, hSpan, ?_⟩
  · simp only [Piece.scanned, alike.outcome, hStart.line, hStart.column]
  · simp only [Piece.scanned, alike.outcome]
    cases piece'.outcome.fault? with
    | none => exact .nil
    | some fault => exact .cons ⟨rfl, rfl, hSpan, rfl, rfl⟩ .nil

/-- Texts whose pieces are alike have tokens that are. -/
theorem alike_scannedFrom {pieces pieces' : List Piece} {last last' : List Char}
    (hPieces : List.Forall₂ Piece.Alike pieces pieces') (hLast : Parallel last last')
    (hPlace : p.Alike p') :
    List.Forall₂ Scanned.Alike (scannedFrom document p pieces last)
      (scannedFrom document' p' pieces' last') := by
  induction hPieces generalizing p p' with
  | nil =>
      have hEnd := hLast hPlace
      refine .cons ⟨?_, ⟨hEnd.line, hEnd.column, ?_⟩, .nil⟩ .nil
      · simp only [endScanned, hEnd.line, hEnd.column]
      · simp only [endScanned, Span.length, Nat.sub_self]
  | cons hFirst _ ih => exact .cons (hFirst.scanned hPlace) (ih (hFirst.stretch hPlace))

/-- What is reported of a text that is filed as `document`. -/
def reportsOn (text : List Char) (document : DocumentId) : List Diagnostic :=
  (tokenize text document).toList.flatMap (·.report.toList)

/-- Everything that is reported of a text is about its document. -/
theorem document_of_mem_reportsOn {text : List Char} {d : Diagnostic}
    (hMem : d ∈ reportsOn text document) : d.span.document = document := by
  obtain ⟨pieces, last, cut⟩ := exists_cut text
  rw [reportsOn, cut.toList_tokenize] at hMem
  obtain ⟨scanned, hScanned, hReport⟩ := List.mem_flatMap.1 hMem
  rcases eq_scanned_of_mem hScanned with ⟨p, rfl⟩ | ⟨piece, -, p, rfl⟩
  · cases hReport
  · obtain ⟨fault, -, rfl⟩ := Option.map_eq_some_iff.1 (Option.mem_toList.1 hReport)
    rfl

theorem alike_reportsOn {text text' : List Char}
    (hScanned : List.Forall₂ Scanned.Alike (tokenize text document).toList
      (tokenize text' document').toList) :
    List.Forall₂ Diagnostic.Alike (reportsOn text document) (reportsOn text' document') :=
  List.rel_flatMap hScanned fun _ _ alike => alike.report

/-- The number under which a text is filed shows in the places of its tokens only. -/
theorem alike_tokenize (text : List Char) (document document' : DocumentId) :
    List.Forall₂ Scanned.Alike (tokenize text document).toList
      (tokenize text document').toList := by
  obtain ⟨pieces, last, cut⟩ := exists_cut text
  rw [cut.toList_tokenize, cut.toList_tokenize]
  exact alike_scannedFrom (List.forall₂_same.2 fun piece _ => .refl piece) (.refl last) (.refl _)

theorem countP_isError_of_alike {found found' : List Diagnostic}
    (hFound : List.Forall₂ Diagnostic.Alike found found') :
    found.countP Diagnostic.isError = found'.countP Diagnostic.isError := by
  induction hFound with
  | nil => rfl
  | @cons d d' _ _ hFirst _ ih =>
      have hSame : d.isError = d'.isError := congrArg (· == .error) hFirst.severity
      rw [List.countP_cons, List.countP_cons, ih, hSame]

namespace Catalog

variable {catalog catalog' : Catalog} {known known' : Document}

/-- The diagnostic is about `known`, and a machine word can count the column behind it there. -/
structure About (catalog : Catalog) (known : Document) (d : Diagnostic) : Prop where
  get : catalog.get d.span.document = .ok known
  stopColumn : known.stopColumn d.span = d.span.column + d.span.length

theorem about_of_mem_reportsOn {d : Diagnostic} (hGet : catalog.get document = .ok known)
    (hMem : d ∈ reportsOn known.content.toList document) : catalog.About known d where
  get := by rw [document_of_mem_reportsOn hMem, hGet]
  stopColumn := by
    obtain ⟨pieces, last, cut⟩ := exists_cut known.content.toList
    rw [reportsOn, cut.toList_tokenize] at hMem
    obtain ⟨flaw, fault, hIn, -, -, rfl⟩ := cut.exists_flaw_of_report hMem
    exact Document.stopColumn_of_lt (known.lt_wordLimit (hIn.column_add_length_le document))

/-- Diagnostics that are alike are rendered the same, if their documents have the same name and the
same lines. -/
theorem render_of_alike {d d' : Diagnostic} (alike : d.Alike d')
    (hName : known.name = known'.name) (hLine : ∀ line, known.line line = known'.line line)
    (about : catalog.About known d) (about' : catalog'.About known' d') :
    catalog.render d = catalog'.render d' := by
  have hHeader : d.header = d'.header := by
    simp only [Diagnostic.header, alike.severity, alike.message, alike.code]
  have hStop : known.stopColumn d.span = known'.stopColumn d'.span := by
    rw [about.stopColumn, about'.stopColumn, alike.span.column, alike.span.length]
  have hExcerpt : excerpt? known d.span = excerpt? known' d'.span := by
    simp only [excerpt?, hLine, hStop, alike.span.line, alike.span.column]
  simp only [render, place, about.get, about'.get, hHeader, hExcerpt, hName, alike.span.line,
    alike.span.column, alike.helps]

theorem map_render_of_alike {found found' : List Diagnostic}
    (hFound : List.Forall₂ Diagnostic.Alike found found')
    (hName : known.name = known'.name) (hLine : ∀ line, known.line line = known'.line line)
    (hAbout : ∀ d ∈ found, catalog.About known d)
    (hAbout' : ∀ d ∈ found', catalog'.About known' d) :
    found.map catalog.render = found'.map catalog'.render := by
  induction hFound with
  | nil => rfl
  | cons hFirst _ ih =>
      obtain ⟨hHere, hRest⟩ := List.forall_mem_cons.1 hAbout
      obtain ⟨hHere', hRest'⟩ := List.forall_mem_cons.1 hAbout'
      rw [List.map_cons, List.map_cons, render_of_alike hFirst hName hLine hHere hHere',
        ih hRest hRest']

/-- Documents whose tokens are alike have the same reports, if they are filed under the same name
and have the same lines. -/
theorem map_render_reportsOn (hGet : catalog.get document = .ok known)
    (hGet' : catalog'.get document' = .ok known') (hName : known.name = known'.name)
    (hLine : ∀ line, known.line line = known'.line line)
    (hScanned : List.Forall₂ Scanned.Alike (tokenize known.content.toList document).toList
      (tokenize known'.content.toList document').toList) :
    (reportsOn known.content.toList document).map catalog.render =
      (reportsOn known'.content.toList document').map catalog'.render :=
  map_render_of_alike (alike_reportsOn hScanned) hName hLine
    (fun _ hMem => about_of_mem_reportsOn hGet hMem)
    (fun _ hMem => about_of_mem_reportsOn hGet' hMem)

/-- The documents that come in later leave the report of a diagnostic as it is. -/
theorem render_add_of_get {d : Diagnostic} (hGet : catalog.get d.span.document = .ok known)
    (name content : String) : (catalog.add name content).render d = catalog.render d := by
  have hKept := get_add_of_get hGet name content
  simp only [render, place, hGet, hKept]

end Catalog

end Coll

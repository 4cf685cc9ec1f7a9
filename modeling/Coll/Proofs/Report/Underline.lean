import Coll.Proofs.Lexeme.Boundary
import Coll.Proofs.Lexer.Drain
import Coll.Proofs.Report.Flaws
import Coll.Proofs.Report.Snippet

/-!
The report of a malformed lexeme. It shows the line that the lexeme begins in, and carets under
what the line shows of it.
-/

namespace Coll

open Lexeme (Fault Form)
open LineTable (dropFinal)

/-- What is reported of a text, however its tokens are asked for, are the faults of its flaws. -/
theorem Reporting.exists_flaw_of_finding {text : List Char} {document : DocumentId}
    {pulls : List Lexer.Pull} {d : Diagnostic}
    (hFound : d ∈ ((ofStream text document).run pulls).2.findings.toList) :
    ∃ (flaw : Flaw) (fault : Fault), flaw.In text ∧
      Form flaw.lexeme flaw.left (.malformed fault) ∧ flaw.code = fault.code.display ∧
      d = fault.diagnostic (flaw.span document .start) := by
  obtain ⟨pieces, last, cut⟩ := exists_cut text
  have hReport := mem_reports_of_mem_findings hFound
  rw [CharStream.toList_list, cut.toList_tokenize] at hReport
  exact cut.exists_flaw_of_report hReport

namespace Flaw

/-- A flaw begins with a character that is shown with its line. -/
theorem In.exists_first {text : List Char} {flaw : Flaw} (hIn : flaw.In text) :
    ∃ c rest, flaw.lexeme = c :: rest ∧ ∀ behind, ¬ EndsShown c behind := by
  induction hIn with
  | @first piece left _ _ leads =>
      obtain ⟨c, rest, hLexeme⟩ := List.exists_cons_of_ne_nil leads.nonempty
      refine ⟨c, rest, hLexeme, fun behind hEnds => ?_⟩
      -- what is not shown is blank, and the gap before the lexeme would have gone on over it
      have hBlank := (leads.gap.beginsLexeme c (by simp [hLexeme])).1
      rcases hEnds with rfl | ⟨rfl, -⟩ <;> simp [Lexeme.isBlank] at hBlank
  | later _ _ ih => exact ih

/-- The marks under a line that is shown, where `above` is what stands before it in the text. The
flaw begins in the line; the carets are under those characters that belong to its lexeme, which is
one at least, and nothing is marked behind the line. -/
structure Underlined (flaw : Flaw) (above shown marks : List Char) : Prop where
  begins : above.length ≤ flaw.before.length ∧ flaw.before.length < above.length + shown.length
  marked : '^' ∈ marks
  inside : marks.length ≤ shown.length
  blank : ∀ mark ∈ marks, mark = ' ' ∨ mark = '^'
  under : ∀ i < shown.length, marks[i]? = some '^' ↔
    flaw.before.length ≤ above.length + i ∧
      above.length + i < flaw.before.length + flaw.lexeme.length

/-- As many carets as the line has room for, up to the length of the lexeme, underline it. -/
theorem underlined_carets {flaw : Flaw} {above indent shown : List Char}
    (hBefore : flaw.before = above ++ indent) (hShown : indent.length < shown.length)
    (hLexeme : flaw.lexeme ≠ []) :
    flaw.Underlined above shown
      (carets indent.length (min flaw.lexeme.length (shown.length - indent.length))) := by
  have hLength : flaw.before.length = above.length + indent.length := by
    rw [hBefore, List.length_append]
  have hSome := List.length_pos_iff.2 hLexeme
  constructor
  · omega
  · apply List.mem_append_right
    exact List.mem_replicate.2 ⟨by omega, rfl⟩
  · simp only [carets, List.length_append, List.length_replicate]
    omega
  · intro mark hMark
    simp only [carets, List.mem_append, List.mem_replicate] at hMark
    exact hMark.imp And.right And.right
  · intro i hi
    rw [getElem?_carets]
    omega

end Flaw

namespace Catalog

variable {catalog : Catalog} {document : Document} {id : DocumentId} {flaw : Flaw} {d : Diagnostic}

/-- The report of a flaw, if its line is found and shows the beginning of its lexeme. -/
theorem toList_render_of_line {shown : List Char} {indent : Nat}
    (hGet : catalog.get id = .ok document) (hSpan : d.span = flaw.span id .start)
    (hIn : flaw.In document.content.toList)
    (hLine : document.line (flaw.start .start).line = .ok (String.ofList shown))
    (hColumn : (flaw.start .start).column = indent + 1) (hShown : indent < shown.length) :
    (catalog.render d).toList = d.header.toList ++
      (d.markedRows document.name shown
        (carets indent (min flaw.lexeme.length (shown.length - indent)))).flatMap ('\n' :: ·) := by
  have hSpanDocument : d.span.document = id := congrArg Span.document hSpan
  have hSpanLine : d.span.line = (flaw.start .start).line := congrArg Span.line hSpan
  have hSpanColumn : d.span.column = (flaw.start .start).column := congrArg Span.column hSpan
  have hSpanLength : d.span.stop - d.span.start = flaw.lexeme.length := by
    rw [hSpan]
    exact Nat.add_sub_cancel_left ..
  have hFits : d.span.column + d.span.length < document.wordLimit := by
    rw [hSpan]
    exact document.lt_wordLimit (hIn.column_add_length_le id)
  have hSome := List.length_pos_iff.2 hIn.nonempty
  -- the columns bound a character at least, so there is no caret for the sake of having one
  have hCount : document.caretCount d.span shown.length =
      min flaw.lexeme.length (shown.length - indent) := by
    rw [Document.caretCount_of_lt hFits, hSpanLength, hSpanColumn, hColumn]
    omega
  rw [← hSpanDocument] at hGet
  rw [← hSpanLine] at hLine
  rw [toList_render_of_found hGet hLine, hCount, hSpanColumn, hColumn, Nat.add_sub_cancel]

/-- The report of a flaw is its header and its rows. -/
theorem toList_render (hGet : catalog.get id = .ok document)
    (hSpan : d.span = flaw.span id .start) (hIn : flaw.In document.content.toList) :
    ∃ above line below marks, LineOf document.content.toList above line below ∧
      flaw.Underlined above (dropFinal '\r' line) marks ∧
      (catalog.render d).toList = d.header.toList ++
        (d.markedRows document.name (dropFinal '\r' line) marks).flatMap ('\n' :: ·) := by
  obtain ⟨c, tail, hLexeme, hPlain⟩ := hIn.exists_first
  obtain ⟨above, indent, rest, below, hBefore, hBehind, lineOf⟩ :=
    exists_lineOf flaw.before (flaw.lexeme ++ flaw.left)
  rw [← List.append_assoc, ← hIn.text_eq] at lineOf
  rw [hLexeme, List.cons_append] at hBehind
  have hFirst := (lineOf.shows hBehind).1 (hPlain _)
  have hShown := (List.getElem?_eq_some_iff.1 hFirst).1
  have hIndent : '\n' ∉ indent := fun hMem => lineOf.plain (List.mem_append_left _ hMem)
  obtain ⟨hLine, hColumn⟩ := Text.Position.after_indent lineOf.begins hIndent
  rw [← hBefore] at hLine hColumn
  have hFound := document.line_eq lineOf
  rw [← hLine] at hFound
  exact ⟨above, _, below, _, lineOf, Flaw.underlined_carets hBefore hShown hIn.nonempty,
    toList_render_of_line hGet hSpan hIn hFound hColumn hShown⟩

/-- The catalog after more documents have come in, each with its name and its content. -/
def addAll (catalog : Catalog) (more : List (String × String)) : Catalog :=
  more.foldl (fun catalog entry => catalog.add entry.1 entry.2) catalog

theorem get_addAll_of_get (hGet : catalog.get id = .ok document) (more : List (String × String)) :
    (catalog.addAll more).get id = .ok document := by
  induction more generalizing catalog with
  | nil => exact hGet
  | cons entry more ih => exact ih (get_add_of_get hGet entry.1 entry.2)

end Catalog

/-- A report underlines just the malformed characters. Whatever documents come in before and after
the text, and however its tokens are asked for, everything that is reported of it is a flaw of the
text, and the report has below its header the place of the flaw, the line that it begins in and
carets under what that line shows of its lexeme. A lexeme that goes on in the next line is underlined
up to the end of its first one. -/
theorem report_underlines_flaw (catalog : Catalog) (name content : String)
    (pulls : List Lexer.Pull) (more : List (String × String)) {d : Diagnostic}
    (hFound : d ∈
      ((Reporting.ofStream content.toList catalog.nextId).run pulls).2.findings.toList) :
    ∃ (flaw : Flaw) (above line below marks : List Char), flaw.In content.toList ∧
      d.span = flaw.span catalog.nextId .start ∧ LineOf content.toList above line below ∧
      flaw.Underlined above (dropFinal '\r' line) marks ∧
      d.span.gutter.length = d.span.margin.length ∧
      (((catalog.add name content).addAll more).render d).toList = d.header.toList ++
        (d.markedRows name (dropFinal '\r' line) marks).flatMap ('\n' :: ·) := by
  obtain ⟨flaw, fault, hIn, -, -, hSame⟩ := Reporting.exists_flaw_of_finding hFound
  have hSpan : d.span = flaw.span catalog.nextId .start := by rw [hSame, Fault.diagnostic]
  have hGet := Catalog.get_addAll_of_get (catalog.get_add_nextId name content) more
  obtain ⟨above, line, below, marks, lineOf, underlined, hReport⟩ :=
    Catalog.toList_render hGet hSpan hIn
  exact ⟨flaw, above, line, below, marks, hIn, hSpan, lineOf, underlined, d.span.length_gutter,
    hReport⟩

/-- The second document of three: a literal that is not closed goes over two lines. -/
theorem report_underlines_flaw_unclosedLiteral :
    let content := "x = \"ab\r\ncd"
    let catalog := ({} : Catalog).add "a" "@"
    let d := Fault.unterminated.diagnostic ⟨4, 11, 1, 5, 1⟩
    d ∈ ((Reporting.ofStream content.toList catalog.nextId).run
      [.next, .column, .next?, .skipTrivia, .next]).2.findings.toList ∧
    ∃ (flaw : Flaw) (above line marks : List Char), flaw.In content.toList ∧
      d.span = flaw.span 1 .start ∧ flaw.Underlined above (dropFinal '\r' line) marks ∧
      (((catalog.add "b" content).addAll [("c", "")]).render d).toList = d.header.toList ++
        (d.markedRows "b" (dropFinal '\r' line) marks).flatMap ('\n' :: ·) := by
  intro content catalog d
  have hFound : d ∈ ((Reporting.ofStream content.toList catalog.nextId).run
      [.next, .column, .next?, .skipTrivia, .next]).2.findings.toList := by decide +kernel
  obtain ⟨flaw, above, line, -, marks, hIn, hSpan, -, underlined, -, hReport⟩ :=
    report_underlines_flaw catalog "b" content _ [("c", "")] hFound
  exact ⟨hFound, flaw, above, line, marks, hIn, hSpan, underlined, hReport⟩

example : (((({} : Catalog).add "a" "@").add "b" "x = \"ab\r\ncd").addAll [("c", "")]).render
      (Fault.unterminated.diagnostic ⟨4, 11, 1, 5, 1⟩) =
    "error[E1002]: unterminated string literal\n" ++
    "  --> b:1:5\n" ++
    "  1 | x = \"ab\n" ++
    "    |     ^^^\n" ++
    "  = help: add a closing `\"`" := by
  decide +kernel

end Coll

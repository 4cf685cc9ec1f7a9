import Coll.Proofs.Report.Underline
import Coll.Proofs.Text.Numeral

/-!
The lines of a report. The rows below the header hold no line feed; the header holds one just when
the escape that it quotes is a backslash before a line feed.
-/

namespace Coll

open Lexeme (Fault Form)
open LineTable (dropFinal)

namespace Text

/-- A numeral has no line feed in it. -/
theorem feed_not_mem_toDigits {base : Nat} (hBase : 1 < base) (n : Nat) :
    '\n' ∉ Nat.toDigits base n := by
  intro hMem
  obtain ⟨d, -, hDigit⟩ := exists_digitChar_of_mem_toDigits hBase _ hMem
  simp at hDigit

theorem feed_not_mem_decimal (n : Nat) : '\n' ∉ decimal n := feed_not_mem_toDigits (by decide) n

theorem feed_not_mem_padLeft {fill : Char} {text : List Char} (hFill : fill ≠ '\n')
    (hPlain : '\n' ∉ text) (width : Nat) : '\n' ∉ padLeft width fill text := by
  simp [padLeft, hPlain, hFill.symm]

theorem feed_not_mem_escapeCode (c : Char) : '\n' ∉ escapeCode c := by
  have hDigits : '\n' ∉ hexadecimal c.toNat := feed_not_mem_toDigits (by decide) _
  simp [escapeCode, hDigits]

/-- However a character is escaped, there is no line feed in it. -/
theorem feed_not_mem_escapeChar (rule : EscapeRule) (c : Char) : '\n' ∉ escapeChar rule c := by
  have hCode := feed_not_mem_escapeCode c
  by_cases hFeed : c = '\n'
  · subst hFeed
    simp [escapeChar]
  · unfold escapeChar
    simp only [apply_ite ('\n' ∈ ·), hCode]
    simp [Ne.symm hFeed]

end Text

theorem Code.feed_not_mem_display {code : Code} (hFamily : '\n' ∉ code.family.toList) :
    '\n' ∉ code.display.toList := by
  have hNumber := Text.feed_not_mem_decimal code.number
  have hPadded := Text.feed_not_mem_padLeft (by decide : '0' ≠ '\n') hNumber 4
  simp [display, hFamily, hPadded]

namespace Lexeme

/-- A message quotes a line feed only if one is escaped. -/
theorem Fault.feed_not_mem_message {fault : Fault} (hOther : fault ≠ .invalidEscape '\n') :
    '\n' ∉ fault.message.toList := by
  have hAround (front quoted behind : String) (hQuoted : '\n' ∉ quoted.toList)
      (hFront : '\n' ∉ front.toList) (hBehind : '\n' ∉ behind.toList) :
      '\n' ∉ (front ++ quoted ++ behind).toList := by
    simp [hFront, hQuoted, hBehind]
  cases fault with
  | unexpected c =>
      apply hAround "unexpected character '" (String.ofList (Text.escapeChar .alone c)) "'"
      · rw [String.toList_ofList]
        exact Text.feed_not_mem_escapeChar .alone c
      · decide
      · decide
  | invalidEscape c =>
      apply hAround "invalid escape sequence '\\" (String.singleton c) "'"
      · rw [String.toList_singleton, List.mem_singleton]
        rintro rfl
        exact hOther rfl
      · decide
      · decide
  | unterminated | brokenNotEqual => decide
  | undoubled op => cases op <;> decide

theorem Fault.feed_not_mem_help (fault : Fault) : ∀ help ∈ fault.help?, '\n' ∉ help.toList := by
  cases fault with
  | unexpected | invalidEscape => simp [help?]
  | unterminated | brokenNotEqual => decide
  | undoubled op => cases op <;> decide

theorem Fault.feed_not_mem_code (fault : Fault) : '\n' ∉ fault.code.display.toList := by
  have hFamily : fault.code.family = "E" := by cases fault <;> rfl
  exact Code.feed_not_mem_display (by rw [hFamily]; decide)

theorem Fault.header_diagnostic (fault : Fault) (span : Span) :
    (fault.diagnostic span).header = "error[" ++ fault.code.display ++ "]: " ++ fault.message := rfl

/-- A header holds a line feed only if one is escaped. -/
theorem Fault.feed_not_mem_header {fault : Fault} (hOther : fault ≠ .invalidEscape '\n')
    (span : Span) : '\n' ∉ (fault.diagnostic span).header.toList := by
  have hCode := fault.feed_not_mem_code
  have hMessage := feed_not_mem_message hOther
  simp [header_diagnostic, hCode, hMessage]

/-- A literal with an escape that has no meaning ends with the escaped character. -/
theorem Form.getLast?_of_invalidEscape {lexeme left : List Char} {c : Char}
    (form : Form lexeme left (.malformed (.invalidEscape c))) : lexeme.getLast? = some c := by
  cases form with
  | word form => cases form
  | numeral form => cases form
  | quoted form =>
      obtain ⟨-, closing⟩ := form
      cases closing with
      | invalid => rw [List.getLast?_append]; rfl
  | signed form =>
      cases form with
      | listed mem =>
          rcases broken_of_mem_signs _ mem rfl with h | h | h <;> cases h

end Lexeme

/-- A flaw whose report quotes a line feed: a backslash stands before one. -/
def Flaw.EscapesFeed (flaw : Flaw) : Prop :=
  flaw.code = "E1003" ∧ flaw.lexeme.getLast? = some '\n'

namespace Flaw

variable {flaw : Flaw} {fault : Fault}

theorem escapesFeed_iff (form : Form flaw.lexeme flaw.left (.malformed fault))
    (hCode : flaw.code = fault.code.display) :
    flaw.EscapesFeed ↔ fault = .invalidEscape '\n' := by
  obtain ⟨hUnexpected, hUnterminated, hEscape, hNotEqual, hOperator⟩ := display_codes
  rw [EscapesFeed, hCode]
  constructor
  · rintro ⟨hSame, hLast⟩
    cases fault with
    | invalidEscape c =>
        rw [form.getLast?_of_invalidEscape] at hLast
        rw [Option.some.inj hLast]
    | unexpected => simp [Fault.code, hUnexpected] at hSame
    | unterminated => simp [Fault.code, hUnterminated] at hSame
    | brokenNotEqual => simp [Fault.code, hNotEqual] at hSame
    | undoubled => simp [Fault.code, hOperator] at hSame
  · rintro rfl
    exact ⟨hEscape, form.getLast?_of_invalidEscape⟩

end Flaw

/-- No row below the header holds a line feed. -/
theorem Diagnostic.feed_not_mem_markedRows {d : Diagnostic} {name : String}
    {text above line below marks : List Char} (hName : '\n' ∉ name.toList)
    (lineOf : LineOf text above line below) (hMarks : ∀ mark ∈ marks, mark = ' ' ∨ mark = '^')
    (hHelps : ∀ help ∈ d.helps, '\n' ∉ help.toList) :
    ∀ row ∈ d.markedRows name (dropFinal '\r' line) marks, '\n' ∉ row := by
  have hNumber := Text.feed_not_mem_decimal d.span.line
  have hColumn := Text.feed_not_mem_decimal d.span.column
  have hGutter : '\n' ∉ d.span.gutter := Text.feed_not_mem_padLeft (by decide) hNumber _
  have hMargin : '\n' ∉ d.span.margin := by simp [Span.margin]
  have hShown : '\n' ∉ dropFinal '\r' line := by
    unfold dropFinal
    split
    · exact fun hMem => lineOf.plain (List.dropLast_subset line hMem)
    · exact lineOf.plain
  have hPlain : '\n' ∉ marks := by
    intro hMem
    simpa using hMarks _ hMem
  intro row hRow
  simp only [markedRows, rows, helpRows, List.cons_append, List.nil_append, List.mem_cons,
    List.mem_map] at hRow
  rcases hRow with rfl | rfl | rfl | ⟨help, hHelp, rfl⟩
  · simp [hName, hNumber, hColumn]
  · simp [hGutter, hShown]
  · simp [hMargin, hPlain]
  · simp [hHelps help hHelp]

/-- Rows that hold no line feed are lines of their own, whatever stands before them. -/
theorem splitOn_append_rows (first : List Char) {rows : List (List Char)}
    (hPlain : ∀ row ∈ rows, '\n' ∉ row) :
    (first ++ rows.flatMap ('\n' :: ·)).splitOn '\n' = first.splitOn '\n' ++ rows := by
  induction rows generalizing first with
  | nil => simp
  | cons row rows ih =>
      obtain ⟨hRow, hRows⟩ := List.forall_mem_cons.1 hPlain
      rw [List.flatMap_cons, List.cons_append, List.splitOn_append_cons_self, ih row hRows,
        List.splitOn_eq_singleton hRow, List.singleton_append]

/-- The lines of the header. -/
theorem Flaw.splitOn_header {flaw : Flaw} {fault : Fault}
    (form : Form flaw.lexeme flaw.left (.malformed fault))
    (hCode : flaw.code = fault.code.display) (span : Span) :
    (¬ flaw.EscapesFeed → (fault.diagnostic span).header.toList.splitOn '\n' =
        [(fault.diagnostic span).header.toList]) ∧
      (flaw.EscapesFeed → (fault.diagnostic span).header.toList.splitOn '\n' =
        ["error[E1003]: invalid escape sequence '\\".toList, "'".toList]) := by
  rw [escapesFeed_iff form hCode]
  constructor
  · intro hOther
    exact List.splitOn_eq_singleton (Fault.feed_not_mem_header hOther span)
  · rintro rfl
    rw [Fault.header_diagnostic]
    decide +kernel

/-- The lines of a report. Below the header there is one line for the place, one for the line that
the flaw begins in, one for the marks under it and one for each suggestion. The header is one line,
unless it quotes a line feed: where a backslash stands before one, the header goes over two lines. -/
theorem lines_of_report (catalog : Catalog) (name content : String) (pulls : List Lexer.Pull)
    (more : List (String × String)) {d : Diagnostic} (hName : '\n' ∉ name.toList)
    (hFound : d ∈
      ((Reporting.ofStream content.toList catalog.nextId).run pulls).2.findings.toList) :
    ∃ (flaw : Flaw) (above line below marks : List Char), flaw.In content.toList ∧
      d.span = flaw.span catalog.nextId .start ∧ LineOf content.toList above line below ∧
      flaw.Underlined above (dropFinal '\r' line) marks ∧
      d.header = "error[" ++ flaw.code ++ "]: " ++ d.message ∧
      let lines := (((catalog.add name content).addAll more).render d).toList.splitOn '\n'
      let rows := d.markedRows name (dropFinal '\r' line) marks
      (¬ flaw.EscapesFeed → lines = d.header.toList :: rows ∧
        lines.length = 4 + d.helps.length) ∧
      (flaw.EscapesFeed → lines =
          "error[E1003]: invalid escape sequence '\\".toList :: "'".toList :: rows ∧
        lines.length = 5 + d.helps.length) := by
  obtain ⟨flaw, fault, hIn, form, hCode, hSame⟩ := Reporting.exists_flaw_of_finding hFound
  have hSpan : d.span = flaw.span catalog.nextId .start := by rw [hSame, Fault.diagnostic]
  have hGet := Catalog.get_addAll_of_get (catalog.get_add_nextId name content) more
  obtain ⟨above, line, below, marks, lineOf, underlined, hReport⟩ :=
    Catalog.toList_render hGet hSpan hIn
  obtain ⟨hWhole, hBroken⟩ := Flaw.splitOn_header form hCode (flaw.span catalog.nextId .start)
  rw [← hSame] at hWhole hBroken
  have hHelps : ∀ help ∈ d.helps, '\n' ∉ help.toList := by
    intro help hHelp
    rw [hSame] at hHelp
    exact fault.feed_not_mem_help help (Option.mem_toList.1 hHelp)
  have hRows := Diagnostic.feed_not_mem_markedRows hName lineOf underlined.blank hHelps
  refine ⟨flaw, above, line, below, marks, hIn, hSpan, lineOf, underlined, ?_, ?_⟩
  · rw [hSame, Fault.header_diagnostic, hCode]
    rfl
  · intro lines rows
    have hLines : lines = d.header.toList.splitOn '\n' ++ rows := by
      show List.splitOn '\n' (Catalog.render _ _).toList = _
      rw [hReport, splitOn_append_rows _ hRows]
    have hLength : rows.length = 3 + d.helps.length := by
      simp [rows, Diagnostic.markedRows, Diagnostic.rows, Diagnostic.helpRows]
      omega
    constructor
    · intro hOther
      rw [hWhole hOther] at hLines
      simp [hLines, hLength]
      omega
    · intro hEscapes
      rw [hBroken hEscapes] at hLines
      simp [hLines, hLength]
      omega

/-- A character that cannot be seen is escaped in the header. -/
theorem lines_of_report_unseenCharacter :
    let content := "x = \x07"
    let d := (Fault.unexpected '\x07').diagnostic ⟨4, 5, 1, 5, 0⟩
    let lines := ((({} : Catalog).add "a" content).render d).toList.splitOn '\n'
    '\n' ∉ "a".toList ∧
    d ∈ ((Reporting.ofStream content.toList 0).run [.next, .next, .next]).2.findings.toList ∧
    lines.length = 4 ∧
    lines.head? = some "error[E1001]: unexpected character '\\u\x7b7\x7d'".toList := by
  intro content d lines
  have hName : '\n' ∉ "a".toList := by decide
  have hFound : d ∈ ((Reporting.ofStream content.toList 0).run
      [.next, .next, .next]).2.findings.toList := by decide +kernel
  obtain ⟨flaw, above, line, below, marks, -, -, -, -, hHeader, hLines, -⟩ :=
    lines_of_report {} "a" content _ [] hName hFound
  have hOther : ¬ flaw.EscapesFeed := by
    rintro ⟨hCode, -⟩
    rw [hCode] at hHeader
    exact absurd hHeader (by decide +kernel)
  obtain ⟨hSame, hLength⟩ := hLines hOther
  have hHead : lines.head? = some d.header.toList := congrArg List.head? hSame
  exact ⟨hName, hFound, hLength, hHead.trans (by decide +kernel)⟩

/-- A backslash before a line feed breaks the header. -/
theorem header_over_two_lines :
    let content := "\"\\\n"
    let d := (Fault.invalidEscape '\n').diagnostic ⟨0, 3, 1, 1, 0⟩
    let lines := ((({} : Catalog).add "a" content).render d).toList.splitOn '\n'
    '\n' ∉ "a".toList ∧
    d ∈ ((Reporting.ofStream content.toList 0).run [.next]).2.findings.toList ∧
    lines.length ≠ 4 + d.helps.length ∧ lines.head? ≠ some d.header.toList := by
  decide +kernel

end Coll

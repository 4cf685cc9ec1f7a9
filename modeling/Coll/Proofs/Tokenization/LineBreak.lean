import Coll.Proofs.Report.Flaws
import Coll.Proofs.Tokenization.Stability

/-!
Lexing starts afresh behind a line feed. Only a literal that is not closed reaches over the end of
a text; without one, the tokens and reports of two texts with a line feed between them are those of
the first and then those of the second, moved to where the second text begins.
-/

namespace Coll

open Lexeme (Trivia)

namespace Text.Position

/-- The place in a text behind `offset` more characters and `lines` more lines. -/
def shift (p : Position) (offset lines : Nat) : Position :=
  ⟨p.offset + offset, p.line + lines, p.column⟩

theorem next_shift (p : Position) (offset lines : Nat) (c : Char) :
    (p.shift offset lines).next c = (p.next c).shift offset lines := by
  unfold next
  split <;> simp only [shift, Nat.add_right_comm]

theorem after_shift (p : Position) (offset lines : Nat) (text : List Char) :
    (p.shift offset lines).after text = (p.after text).shift offset lines := by
  induction text generalizing p with
  | nil => rfl
  | cons c rest ih => rw [after_cons, after_cons, next_shift, ih]

/-- Behind a line feed a text begins like the first one, only further on. -/
theorem after_line (text : List Char) :
    start.after (text ++ ['\n']) = start.shift (text.length + 1) (text.count '\n' + 1) := by
  have hOffset := offset_after start text
  have hLine := line_after start text
  rw [after_append, after_cons, after_nil, next, if_pos rfl, hOffset, hLine]
  rfl

end Text.Position

def Token.shift (token : Token) (lines : Nat) : Token :=
  { token with line := token.line + lines }

def Span.shift (span : Span) (offset lines : Nat) : Span :=
  { span with start := span.start + offset, stop := span.stop + offset, line := span.line + lines }

def Diagnostic.shift (d : Diagnostic) (offset lines : Nat) : Diagnostic :=
  { d with span := d.span.shift offset lines }

/-- A token in a text behind more characters and lines. Its column stays. -/
def Scanned.shift (scanned : Scanned) (offset lines : Nat) : Scanned where
  token := scanned.token.shift lines
  span := scanned.span.shift offset lines
  report := scanned.report.map (·.shift offset lines)

theorem Piece.scanned_shift (piece : Piece) (document : DocumentId) (p : Text.Position)
    (offset lines : Nat) :
    piece.scanned document (p.shift offset lines) =
      (piece.scanned document p).shift offset lines := by
  simp only [scanned, Scanned.shift, Text.Position.after_shift, Option.map_map]
  rfl

theorem scannedFrom_shift (document : DocumentId) (p : Text.Position) (pieces : List Piece)
    (last : List Char) (offset lines : Nat) :
    scannedFrom document (p.shift offset lines) pieces last =
      (scannedFrom document p pieces last).map (·.shift offset lines) := by
  induction pieces generalizing p with
  | nil =>
      rw [scannedFrom, Text.Position.after_shift]
      rfl
  | cons piece pieces ih =>
      rw [scannedFrom, scannedFrom, List.map_cons, Text.Position.after_shift, ih,
        piece.scanned_shift]

namespace Cut

/-- Trivia before a text joins its first gap. -/
theorem exists_behind {stretch text last : List Char} {pieces : List Piece}
    (hStretch : Trivia stretch text) (cut : Cut text pieces last) :
    ∃ pieces' last', Cut (stretch ++ text) pieces' last' ∧ ∀ document p,
      scannedFrom document p pieces' last' =
        scannedFrom document (p.after stretch) pieces last := by
  cases cut with
  | last longest =>
      rw [← List.append_nil text] at hStretch
      have hGap := (hStretch.append longest.mem).longest longest.beginsLexeme
      refine ⟨[], stretch ++ text, .last hGap, fun document p => ?_⟩
      rw [scannedFrom, scannedFrom, Text.Position.after_append]
  | @piece piece left _ pieces leads more =>
      let piece' : Piece := { piece with gap := stretch ++ piece.gap }
      rw [Piece.stretch, List.append_assoc] at hStretch
      have hGap := (hStretch.append leads.gap.mem).longest leads.gap.beginsLexeme
      have leads' : piece'.Leads left := ⟨hGap, leads.nonempty, leads.lexeme, leads.form⟩
      have hText : stretch ++ (piece.stretch ++ left) = piece'.stretch ++ left := by
        simp only [Piece.stretch, piece', List.append_assoc]
      refine ⟨piece' :: pieces, last, hText ▸ .piece leads' more, fun document p => ?_⟩
      simp only [scannedFrom, Piece.scanned, Piece.stretch, piece', Text.Position.after_append]

/-- A line feed between two texts is cut out as trivia. -/
theorem exists_line {text other last lastOther : List Char} {pieces piecesOther : List Piece}
    (cut : Cut text pieces last) (cutOther : Cut other piecesOther lastOther)
    (hClosed : ∀ piece ∈ pieces, piece.outcome ≠ .malformed .unterminated) :
    ∃ pieces' last', Cut (text ++ '\n' :: other) pieces' last' ∧ ∀ document p,
      scannedFrom document p pieces' last' =
        (scannedFrom document p pieces last).filter (!·.token.isEnd) ++
          scannedFrom document (p.after (text ++ ['\n'])) piecesOther lastOther := by
  induction cut with
  | @last gap longest =>
      have hFeed : Trivia ['\n'] other := .blank rfl (.nil other)
      have hGap : Trivia gap (['\n'] ++ other) := longest.mem.of_endsLine fun _ c hc =>
        (Option.some.inj hc).symm
      obtain ⟨pieces', last', cut', hScanned⟩ := cutOther.exists_behind (hGap.append hFeed)
      rw [List.append_assoc] at cut'
      exact ⟨pieces', last', cut', hScanned⟩
  | @piece piece left last pieces leads more ih =>
      obtain ⟨pieces', last', cut', hScanned⟩ :=
        ih fun piece hPiece => hClosed piece (List.mem_cons_of_mem _ hPiece)
      have leads' : piece.Leads (left ++ '\n' :: other) := by
        cases left with
        | nil =>
            refine leads.of_separated (hClosed piece List.mem_cons_self) fun c hc => ?_
            exact Option.some.inj hc ▸ .inl rfl
        | cons c rest => exact leads.of_head? rfl
      refine ⟨piece :: pieces', last', ?_, fun document p => ?_⟩
      · rw [List.append_assoc]
        exact .piece leads' cut'
      · have hMore := leads.not_isEnd document p
        rw [scannedFrom, hScanned, scannedFrom, List.filter_cons_of_pos (by simpa using hMore),
          List.append_assoc piece.stretch, Text.Position.after_append p piece.stretch]
        rfl

/-- Nothing is reported of the end token. -/
theorem flatMap_report_filter {text last : List Char} {pieces : List Piece}
    (cut : Cut text pieces last) (document : DocumentId) (p : Text.Position) :
    ((scannedFrom document p pieces last).filter (!·.token.isEnd)).flatMap (·.report.toList) =
      (scannedFrom document p pieces last).flatMap (·.report.toList) := by
  have hAll := congrArg (List.flatMap (·.report.toList)) (cut.filter_not_isEnd document p)
  rw [List.flatMap_append, List.flatMap_singleton] at hAll
  exact (List.append_nil _).symm.trans hAll

end Cut

/-- A fault in a cut text is reported. -/
theorem exists_report_of_mem {piece : Piece} {pieces : List Piece} (hMem : piece ∈ pieces)
    {fault : Lexeme.Fault} (hFault : piece.outcome = .malformed fault) (document : DocumentId)
    (p : Text.Position) (last : List Char) :
    ∃ d ∈ (scannedFrom document p pieces last).flatMap (·.report.toList),
      d.code = some fault.code := by
  obtain ⟨q, hScanned⟩ := exists_scanned_mem hMem document p last
  refine ⟨fault.diagnostic (piece.scanned document q).span, ?_, rfl⟩
  refine List.mem_flatMap_of_mem hScanned ?_
  simp [Piece.scanned, hFault, Lexeme.Outcome.fault?]

/-- Two texts with a line feed between them are lexed one by one, unless a literal of the first is
not closed. The tokens are those of the first without its end token and those of the second, as many
lines further down as the first text and the line feed take up; the reports are those of the first
and those of the second, moved likewise. -/
theorem tokenize_append_line (first second : List Char) (document : DocumentId)
    (hClosed : ∀ d ∈ (({} : Findings).addAll (tokenize first document)).toList,
      d.code.map Code.display ≠ some "E1002") :
    let offset := first.length + 1
    let lines := 1 + first.count '\n'
    (tokenize (first ++ '\n' :: second) document).toList =
      (tokenize first document).toList.filter (!·.token.isEnd) ++
        (tokenize second document).toList.map (·.shift offset lines) ∧
    (({} : Findings).addAll (tokenize (first ++ '\n' :: second) document)).toList =
      (({} : Findings).addAll (tokenize first document)).toList ++
        (({} : Findings).addAll (tokenize second document)).toList.map (·.shift offset lines) := by
  intro offset lines
  obtain ⟨pieces, last, cut⟩ := exists_cut first
  obtain ⟨piecesSecond, lastSecond, cutSecond⟩ := exists_cut second
  have hPieces : ∀ piece ∈ pieces, piece.outcome ≠ .malformed .unterminated := by
    intro piece hPiece hOutcome
    obtain ⟨d, hd, hCode⟩ := exists_report_of_mem hPiece hOutcome document .start last
    rw [← cut.toList_tokenize] at hd
    refine hClosed d ?_ ?_
    · rw [Findings.toList_addAll]
      exact List.mem_append_right _ hd
    · rw [hCode, Option.map_some, Lexeme.Fault.code, display_codes.2.1]
  obtain ⟨pieces', last', cut', hScanned⟩ := cut.exists_line cutSecond hPieces
  have hTokens : (tokenize (first ++ '\n' :: second) document).toList =
      (tokenize first document).toList.filter (!·.token.isEnd) ++
        (tokenize second document).toList.map (·.shift offset lines) := by
    rw [cut'.toList_tokenize, hScanned, cut.toList_tokenize, cutSecond.toList_tokenize,
      Text.Position.after_line, scannedFrom_shift, Nat.add_comm (first.count _)]
  refine ⟨hTokens, ?_⟩
  have hReports := cut.flatMap_report_filter document .start
  rw [← cut.toList_tokenize] at hReports
  simp only [Findings.toList_addAll, Findings.toList_empty, List.nil_append, hTokens,
    List.flatMap_append, hReports, List.flatMap_map, List.map_flatMap, Scanned.shift,
    Option.toList_map]

/-- The first text has an error in each line and ends in a sign that the first character of the
second text would complete, if there were no line feed between. -/
theorem tokenize_append_line_brokenSigns :
    (∀ d ∈ (({} : Findings).addAll (tokenize "&\n=/".toList)).toList,
      d.code.map Code.display ≠ some "E1002") ∧
    (tokenize ("&\n=/".toList ++ '\n' :: "= @".toList)).toList.map (·.token) =
      [⟨.error, "&", 1, 1⟩, ⟨.error, "=/", 2, 1⟩, ⟨.operator .assign, "=", 3, 1⟩,
        ⟨.error, "@", 3, 3⟩, ⟨.endOfInput, "", 3, 4⟩] ∧
    (({} : Findings).addAll
        (tokenize ("&\n=/".toList ++ '\n' :: "= @".toList))).toList.map (·.span) =
      [⟨0, 1, 1, 1, 0⟩, ⟨2, 4, 2, 1, 0⟩, ⟨7, 8, 3, 3, 0⟩] := by
  have hClosed : ∀ d ∈ (({} : Findings).addAll (tokenize "&\n=/".toList)).toList,
      d.code.map Code.display ≠ some "E1002" := by decide +kernel
  obtain ⟨hTokens, hReports⟩ := tokenize_append_line "&\n=/".toList "= @".toList 0 hClosed
  refine ⟨hClosed, ?_, ?_⟩
  · rw [hTokens]
    decide +kernel
  · rw [hReports]
    decide +kernel

end Coll

import Coll.Proofs.Tokenization

/-!
The malformed lexemes of a text, told from its characters alone, and that exactly they are reported.
-/

namespace Coll

open Lexeme (BeginsNothing Escape Fault Form IsLexeme Items Longest Outcome Quoted signs)

/-- A malformed lexeme before what is left, the code under which it is reported, and the text of its
token. -/
inductive Malformed : List Char → List Char → String → String → Prop where
  /-- A character that begins no token. -/
  | unexpected {c : Char} {left : List Char} (begins : BeginsNothing c) :
      Malformed [c] left "E1001" (String.singleton c)
  /-- The text is over before the literal is. -/
  | unterminated {body content : List Char} (items : Items body content) :
      Malformed ('"' :: body) [] "E1002" "unterminated string literal"
  /-- The text is over behind a backslash. -/
  | unterminatedEscape {body content : List Char} (items : Items body content) :
      Malformed ('"' :: body ++ ['\\']) [] "E1002" "unterminated string literal"
  /-- A backslash stands before a character that it gives no meaning. -/
  | invalidEscape {body content left : List Char} {c : Char} (items : Items body content)
      (meaningless : c ≠ 'n' ∧ c ≠ '\\' ∧ c ≠ '"') :
      Malformed ('"' :: body ++ ['\\', c]) left "E1003"
        ("invalid escape sequence '\\" ++ String.singleton c ++ "'")
  /-- The sign `=/=` lacks its last character. -/
  | brokenNotEqual {left : List Char} (incomplete : left.head? ≠ some '=') :
      Malformed ['=', '/'] left "E1004" "=/"
  /-- An operator lacks its second character. -/
  | undoubled {c : Char} {left : List Char} (single : c = '&' ∨ c = '|')
      (incomplete : left.head? ≠ some c) :
      Malformed [c] left "E1005" (String.singleton c)

/-- The codes as they are printed. -/
theorem display_codes : Code.unexpectedCharacter.display = "E1001" ∧
    Code.unterminatedString.display = "E1002" ∧ Code.invalidEscape.display = "E1003" ∧
    Code.malformedNotEqual.display = "E1004" ∧ Code.unsupportedOperator.display = "E1005" := by
  decide

/-- A malformed lexeme is of the form that the scanner gives its fault to. -/
theorem Malformed.form {lexeme left : List Char} {code text : String}
    (malformed : Malformed lexeme left code text) :
    ∃ fault : Fault, Form lexeme left (.malformed fault) ∧ fault.code.display = code ∧
      fault.text = text := by
  obtain ⟨hUnexpected, hUnterminated, hEscape, hNotEqual, hOperator⟩ := display_codes
  cases malformed with
  | unexpected begins => exact ⟨.unexpected _, .signed (.strange begins), hUnexpected, rfl⟩
  | @unterminated body content items =>
      have hForm : Quoted ('"' :: body ++ []) [] (.malformed .unterminated) := .intro items .textEnd
      rw [List.append_nil] at hForm
      exact ⟨.unterminated, .quoted hForm, hUnterminated, rfl⟩
  | unterminatedEscape items =>
      exact ⟨.unterminated, .quoted (.intro items .endAfterBackslash), hUnterminated, rfl⟩
  | @invalidEscape _ _ _ c items meaningless =>
      refine ⟨.invalidEscape c, .quoted (.intro items (.invalid ?_)), hEscape, rfl⟩
      intro meant hMeant
      cases hMeant <;> simp at meaningless
  | brokenNotEqual =>
      exact ⟨.brokenNotEqual, .signed (.listed (by decide)), hNotEqual, rfl⟩
  | undoubled single =>
      rcases single with rfl | rfl
      · exact ⟨.undoubled .ampersand, .signed (.listed (by decide)), hOperator, rfl⟩
      · exact ⟨.undoubled .pipe, .signed (.listed (by decide)), hOperator, rfl⟩

/-- The signs of the table that are no operator and no delimiter. -/
theorem broken_of_mem_signs : ∀ sign ∈ signs, sign.2.fault?.isSome →
    sign = (['=', '/'], .malformed .brokenNotEqual) ∨
    sign = (['&'], .malformed (.undoubled .ampersand)) ∨
    sign = (['|'], .malformed (.undoubled .pipe)) := by decide

theorem ne_of_not_escape {c : Char} (meaningless : ∀ meant, ¬ Escape c meant) :
    c ≠ 'n' ∧ c ≠ '\\' ∧ c ≠ '"' := by
  refine ⟨?_, ?_, ?_⟩
  · rintro rfl
    exact meaningless _ .lineFeed
  · rintro rfl
    exact meaningless _ .backslash
  · rintro rfl
    exact meaningless _ .quote

/-- A sign that could be longer is not followed by what would make it so. -/
theorem head?_ne_of_longest {sign left : List Char} {last : Char} {outcome : Outcome}
    (longest : Longest IsLexeme sign left) (hLonger : (sign ++ [last], outcome) ∈ signs) :
    left.head? ≠ some last := by
  intro hHead
  obtain ⟨behind, rfl⟩ := List.head?_eq_some_iff.1 hHead
  have hLe := longest.length_le (sign ++ [last]) behind (List.append_cons _ _ _).symm
    ⟨outcome, .signed (.listed hLonger)⟩
  rw [List.length_append] at hLe
  exact absurd hLe (Nat.not_succ_le_self _)

/-- The longest lexeme, if it has a fault, is malformed. -/
theorem malformed_of_longest {lexeme left : List Char} {fault : Fault}
    (form : Form lexeme left (.malformed fault)) (longest : Longest IsLexeme lexeme left) :
    Malformed lexeme left fault.code.display fault.text := by
  obtain ⟨hUnexpected, hUnterminated, hEscape, hNotEqual, hOperator⟩ := display_codes
  cases form with
  | word form => cases form
  | numeral form => cases form
  | quoted form =>
      obtain ⟨items, closing⟩ := form
      cases closing with
      | invalid meaningless =>
          rw [Fault.code, hEscape]
          exact .invalidEscape items (ne_of_not_escape meaningless)
      | textEnd =>
          rw [Fault.code, hUnterminated, List.append_nil]
          exact .unterminated items
      | endAfterBackslash =>
          rw [Fault.code, hUnterminated]
          exact .unterminatedEscape items
  | signed form =>
      cases form with
      | listed mem =>
          rcases broken_of_mem_signs _ mem rfl with h | h | h <;> cases h
          · have hLonger : (['=', '/'] ++ ['='], .operator .notEqual) ∈ signs := by decide
            rw [Fault.code, hNotEqual]
            exact .brokenNotEqual (head?_ne_of_longest longest hLonger)
          · have hLonger : (['&'] ++ ['&'], .operator .and) ∈ signs := by decide
            rw [Fault.code, hOperator]
            exact .undoubled (.inl rfl) (head?_ne_of_longest longest hLonger)
          · have hLonger : (['|'] ++ ['|'], .operator .or) ∈ signs := by decide
            rw [Fault.code, hOperator]
            exact .undoubled (.inr rfl) (head?_ne_of_longest longest hLonger)
      | strange begins =>
          rw [Fault.code, hUnexpected]
          exact .unexpected begins

/-- A malformed lexeme in its text: what is before it, the lexeme, what is left behind it, and how
it is reported. -/
structure Flaw where
  before : List Char
  lexeme : List Char
  left : List Char
  code : String
  text : String

namespace Flaw

/-- The flaw with more text before it. -/
def behind (flaw : Flaw) (stretch : List Char) : Flaw :=
  { flaw with before := stretch ++ flaw.before }

/-- `Flaw.In text` are the malformed ones among the lexemes that `text` is cut into. -/
inductive In : List Char → Flaw → Prop where
  | first {piece : Piece} {left : List Char} {code text : String} (leads : piece.Leads left)
      (malformed : Malformed piece.lexeme left code text) :
      In (piece.stretch ++ left) ⟨piece.gap, piece.lexeme, left, code, text⟩
  | later {piece : Piece} {left : List Char} {flaw : Flaw} (leads : piece.Leads left)
      (more : In left flaw) : In (piece.stretch ++ left) (flaw.behind piece.stretch)

/-- Where the lexeme begins, in a text that begins at `p`. -/
def start (flaw : Flaw) (p : Text.Position) : Text.Position := p.after flaw.before

/-- From the first character of the lexeme to the one behind the last. -/
def span (flaw : Flaw) (document : DocumentId) (p : Text.Position) : Span where
  start := p.offset + flaw.before.length
  stop := p.offset + flaw.before.length + flaw.lexeme.length
  line := (flaw.start p).line
  column := (flaw.start p).column
  document := document

def token (flaw : Flaw) (p : Text.Position) : Token :=
  ⟨.error, flaw.text, (flaw.start p).line, (flaw.start p).column⟩

theorem start_behind (flaw : Flaw) (stretch : List Char) (p : Text.Position) :
    (flaw.behind stretch).start p = flaw.start (p.after stretch) :=
  Text.Position.after_append p stretch flaw.before

theorem span_behind (flaw : Flaw) (stretch : List Char) (document : DocumentId)
    (p : Text.Position) :
    (flaw.behind stretch).span document p = flaw.span document (p.after stretch) := by
  have hStart : p.offset + (stretch ++ flaw.before).length =
      (p.after stretch).offset + flaw.before.length := by
    rw [Text.Position.offset_after, List.length_append, Nat.add_assoc]
  rw [span, start_behind, span, ← hStart]
  rfl

theorem token_behind (flaw : Flaw) (stretch : List Char) (p : Text.Position) :
    (flaw.behind stretch).token p = flaw.token (p.after stretch) := by
  rw [token, start_behind]
  rfl

theorem In.nonempty {text : List Char} {flaw : Flaw} (h : flaw.In text) : flaw.lexeme ≠ [] := by
  induction h with
  | first leads => exact leads.nonempty
  | later _ _ ih => exact ih

/-- The three parts of a flaw make up its text. -/
theorem In.text_eq {text : List Char} {flaw : Flaw} (h : flaw.In text) :
    text = flaw.before ++ flaw.lexeme ++ flaw.left := by
  induction h with
  | first => rfl
  | @later piece left flaw _ _ ih =>
      calc
        piece.stretch ++ left
          = piece.stretch ++ (flaw.before ++ flaw.lexeme ++ flaw.left) := congrArg _ ih
        _ = piece.stretch ++ flaw.before ++ flaw.lexeme ++ flaw.left := by
          simp only [List.append_assoc]

/-- The column behind a flaw is one that its text has room for. -/
theorem In.column_add_length_le {text : List Char} {flaw : Flaw} (h : flaw.In text)
    (document : DocumentId) :
    (flaw.span document .start).column + (flaw.span document .start).length ≤ text.length + 1 := by
  have hColumn : (flaw.start .start).column ≤ 1 + flaw.before.length :=
    Text.Position.column_after_le (Nat.le_refl 1) flaw.before
  have hText := congrArg List.length h.text_eq
  simp only [List.length_append] at hText
  simp only [span, Span.length]
  omega

end Flaw

namespace Piece

/-- The flaw of a piece that `left` follows, if it has one. -/
def flaw? (piece : Piece) (left : List Char) : Option Flaw :=
  piece.outcome.fault?.map fun fault =>
    ⟨piece.gap, piece.lexeme, left, fault.code.display, fault.text⟩

/-- The token of a piece with a flaw, and where it is. -/
theorem scanned_of_flaw? {piece : Piece} {left : List Char} {flaw : Flaw}
    (hFlaw : piece.flaw? left = some flaw) (document : DocumentId) (p : Text.Position) :
    (piece.scanned document p).token = flaw.token p ∧
      (piece.scanned document p).span = flaw.span document p := by
  obtain ⟨fault, hFault, rfl⟩ := Option.map_eq_some_iff.1 hFlaw
  constructor
  · rw [Outcome.fault?_eq_some_iff] at hFault
    simp only [scanned, hFault]
    rfl
  · simp only [scanned, Flaw.span, Flaw.start, Text.Position.offset_after]

theorem Leads.isError_scanned {piece : Piece} {left : List Char} (leads : piece.Leads left)
    (document : DocumentId) (p : Text.Position) :
    (piece.scanned document p).token.isError = (piece.flaw? left).isSome := by
  rw [Bool.eq_iff_iff, flaw?, Option.isSome_map, ← leads.form.kind_ordinary.2]
  exact beq_iff_eq

/-- What a report says about severity, code and place. -/
theorem report_scanned (piece : Piece) (left : List Char) (document : DocumentId)
    (p : Text.Position) :
    (piece.scanned document p).report.map (fun d => (d.severity, d.code.map Code.display, d.span)) =
      (piece.flaw? left).map fun flaw => (.error, some flaw.code, flaw.span document p) := by
  simp only [scanned, flaw?, Option.map_map, Text.Position.offset_after]
  rfl

/-- A piece has a flaw just when its lexeme is malformed. -/
theorem Leads.flaw?_eq_some_iff {piece : Piece} {left : List Char} (leads : piece.Leads left)
    {flaw : Flaw} : piece.flaw? left = some flaw ↔
      ∃ code text, Malformed piece.lexeme left code text ∧
        flaw = ⟨piece.gap, piece.lexeme, left, code, text⟩ := by
  have hForm := leads.form
  constructor
  · intro hFlaw
    obtain ⟨fault, hFault, rfl⟩ := Option.map_eq_some_iff.1 hFlaw
    rw [Outcome.fault?_eq_some_iff.1 hFault] at hForm
    exact ⟨_, _, malformed_of_longest hForm leads.lexeme, rfl⟩
  · rintro ⟨code, text, malformed, rfl⟩
    obtain ⟨fault, hMalformed, rfl, rfl⟩ := malformed.form
    rw [flaw?, hForm.unique hMalformed]
    rfl

end Piece

/-- The flaws of a cut text, in order. -/
def flawsOf : List Piece → List Char → List Flaw
  | [], _ => []
  | piece :: pieces, last =>
    (piece.flaw? (pieces.flatMap Piece.stretch ++ last)).toList ++
      (flawsOf pieces last).map (·.behind piece.stretch)

namespace Cut

variable {text last : List Char} {pieces : List Piece}

theorem mem_flawsOf_iff (cut : Cut text pieces last) {flaw : Flaw} :
    flaw ∈ flawsOf pieces last ↔ flaw.In text := by
  induction cut generalizing flaw with
  | @last gap longest =>
      refine iff_of_false List.not_mem_nil fun h => ?_
      generalize hText : gap = text at h
      cases h with
      | first leads => exact leads.not_last longest hText.symm
      | later leads => exact leads.not_last longest hText.symm
  | @piece piece left last pieces leads more ih =>
      rw [flawsOf, ← more.text_eq, List.mem_append, Option.mem_toList,
        leads.flaw?_eq_some_iff, List.mem_map]
      constructor
      · rintro (⟨code, text, malformed, rfl⟩ | ⟨flaw, hFlaw, rfl⟩)
        · exact .first leads malformed
        · exact .later leads (ih.1 hFlaw)
      · intro h
        generalize hText : piece.stretch ++ left = text at h
        cases h with
        | first leads' malformed =>
            obtain ⟨rfl, rfl⟩ := leads.unique leads' hText
            exact .inl ⟨_, _, malformed, rfl⟩
        | later leads' more' =>
            obtain ⟨rfl, rfl⟩ := leads.unique leads' hText
            exact .inr ⟨_, ih.2 more', rfl⟩

/-- The tokens of kind error are those of the flaws. -/
theorem errors_scannedFrom (cut : Cut text pieces last) (document : DocumentId)
    (p : Text.Position) :
    ((scannedFrom document p pieces last).filter (·.token.isError)).map
        (fun scanned => (scanned.token, scanned.span)) =
      (flawsOf pieces last).map fun flaw => (flaw.token p, flaw.span document p) := by
  induction cut generalizing p with
  | last => rfl
  | @piece piece left last pieces leads more ih =>
      have hError := leads.isError_scanned document p
      have hMore := ih (p.after piece.stretch)
      simp only [scannedFrom, flawsOf, ← more.text_eq, List.map_append, List.map_map,
        Function.comp_def, Flaw.token_behind, Flaw.span_behind]
      cases hFlaw : piece.flaw? left with
      | none =>
          rw [hFlaw] at hError
          rw [List.filter_cons_of_neg (by simp [hError]), hMore]
          rfl
      | some flaw =>
          obtain ⟨hToken, hSpan⟩ := Piece.scanned_of_flaw? hFlaw document p
          rw [hFlaw] at hError
          rw [List.filter_cons_of_pos (by simp [hError]), List.map_cons, hMore, hToken, hSpan]
          rfl

/-- The reports are those of the flaws. -/
theorem reports_scannedFrom (cut : Cut text pieces last) (document : DocumentId)
    (p : Text.Position) :
    ((scannedFrom document p pieces last).flatMap (·.report.toList)).map
        (fun d => (d.severity, d.code.map Code.display, d.span)) =
      (flawsOf pieces last).map fun flaw => (.error, some flaw.code, flaw.span document p) := by
  induction cut generalizing p with
  | last => rfl
  | @piece piece left last pieces leads more ih =>
      have hReport := congrArg Option.toList (piece.report_scanned left document p)
      simp only [Option.toList_map] at hReport
      simp only [scannedFrom, flawsOf, ← more.text_eq, List.flatMap_cons, List.map_append,
        List.map_map, Function.comp_def, Flaw.span_behind, hReport, ih]
      rfl

/-- Flaws follow one another without touching twice the same character. -/
theorem pairwise_flawsOf (cut : Cut text pieces last) :
    (flawsOf pieces last).Pairwise fun flaw later =>
      flaw.before.length + flaw.lexeme.length ≤ later.before.length := by
  induction cut with
  | last => exact .nil
  | @piece piece left last pieces leads more ih =>
      rw [flawsOf, List.pairwise_append]
      refine ⟨?_, ?_, ?_⟩
      · cases piece.flaw? (pieces.flatMap Piece.stretch ++ last) with
        | none => exact .nil
        | some flaw => exact List.pairwise_singleton _ _
      · rw [List.pairwise_map]
        refine ih.imp fun {flaw later} h => ?_
        simp only [Flaw.behind, List.length_append]
        omega
      · intro flaw hFlaw later hLater
        obtain ⟨fault, -, rfl⟩ := Option.map_eq_some_iff.1 (Option.mem_toList.1 hFlaw)
        obtain ⟨other, -, rfl⟩ := List.mem_map.1 hLater
        simp only [Flaw.behind, Piece.stretch, List.length_append]
        omega

/-- Behind a flaw the tokens are those of what is left there. -/
theorem scannedFrom_of_in {flaw : Flaw} (h : flaw.In text) (cut : Cut text pieces last)
    (document : DocumentId) (p : Text.Position) :
    ∃ front scanned piecesLeft, Cut flaw.left piecesLeft last ∧
      scannedFrom document p pieces last = front ++ scanned ::
        scannedFrom document (p.after (flaw.before ++ flaw.lexeme)) piecesLeft last ∧
      scanned.token = flaw.token p ∧ scanned.span = flaw.span document p := by
  induction h generalizing p pieces with
  | @first piece left code text leads malformed =>
      generalize hText : piece.stretch ++ left = whole at cut
      cases cut with
      | last longest => exact (leads.not_last longest hText).elim
      | @piece _ _ _ pieces leads' more =>
          obtain ⟨rfl, rfl⟩ := leads.unique leads' hText
          have hFlaw := leads.flaw?_eq_some_iff.2 ⟨code, text, malformed, rfl⟩
          exact ⟨[], piece.scanned document p, pieces, more, rfl,
            Piece.scanned_of_flaw? hFlaw document p⟩
  | @later piece left flaw leads _ ih =>
      generalize hText : piece.stretch ++ left = whole at cut
      cases cut with
      | last longest => exact (leads.not_last longest hText).elim
      | piece leads' more =>
          obtain ⟨rfl, rfl⟩ := leads.unique leads' hText
          obtain ⟨front, scanned, piecesLeft, hCut, hList, hToken, hSpan⟩ :=
            ih more (p.after piece.stretch)
          refine ⟨piece.scanned document p :: front, scanned, piecesLeft, hCut, ?_, ?_, ?_⟩
          · rw [scannedFrom, hList, ← Text.Position.after_append, ← List.append_assoc]
            rfl
          · rw [hToken, Flaw.token_behind]
          · rw [hSpan, Flaw.span_behind]

end Cut

/-- What is reported of a cut text are the faults of its flaws. -/
theorem Cut.exists_flaw_of_report {text last : List Char} {pieces : List Piece}
    (cut : Cut text pieces last) {document : DocumentId} {p : Text.Position} {d : Diagnostic}
    (hReport : d ∈ (scannedFrom document p pieces last).flatMap (·.report.toList)) :
    ∃ (flaw : Flaw) (fault : Fault), flaw.In text ∧
      Form flaw.lexeme flaw.left (.malformed fault) ∧ flaw.code = fault.code.display ∧
      d = fault.diagnostic (flaw.span document p) := by
  induction cut generalizing p with
  | last => simp [scannedFrom, endScanned] at hReport
  | @piece piece left last pieces leads more ih =>
      rw [scannedFrom, List.flatMap_cons, List.mem_append, Option.mem_toList] at hReport
      rcases hReport with hReport | hReport
      · obtain ⟨fault, hFault, rfl⟩ := Option.map_eq_some_iff.1 hReport
        have hForm := leads.form
        rw [Outcome.fault?_eq_some_iff.1 hFault] at hForm
        have malformed := malformed_of_longest hForm leads.lexeme
        refine ⟨_, fault, .first leads malformed, hForm, rfl, ?_⟩
        simp only [Flaw.span, Flaw.start, Text.Position.offset_after]
      · obtain ⟨flaw, fault, hIn, hForm, hCode, rfl⟩ := ih hReport
        refine ⟨_, fault, .later leads hIn, hForm, hCode, ?_⟩
        rw [Flaw.span_behind]

/-- What is reported of scanned tokens is added in their order. -/
theorem Findings.toList_addAll (found : Findings) (scanned : Array Scanned) :
    (found.addAll scanned).toList =
      found.toList ++ scanned.toList.flatMap (·.report.toList) := by
  rw [addAll, ← Array.foldl_toList]
  induction scanned.toList generalizing found with
  | nil => exact (List.append_nil _).symm
  | cons first rest ih =>
      rw [List.foldl_cons, ih, toList_addOption, List.flatMap_cons, List.append_assoc]

/-- A lexer that has come to `p` and has the text `left` still before it. -/
def Lexer.within (left : List Char) (p : Text.Position) (document : DocumentId) :
    Lexer (List Char) :=
  { cursor := { Cursor.ofStream left with position := p }, document }

theorem Lexer.toList_drain_within {left last : List Char} {pieces : List Piece}
    (cut : Cut left pieces last) (p : Text.Position) (document : DocumentId) :
    (within left p document).drain.1.toList = scannedFrom document p pieces last := by
  have hRest : (within left p document).cursor.rest = left := Cursor.rest_ofText left
  rw [← hRest] at cut
  exact toList_drain cut

/-- The reports of a text are its flaws: one error for each malformed lexeme, in the order of the
text and with the place and the token of that lexeme. Flaws take up something, do not overlap, and
behind each of them scanning goes on with the next character. -/
theorem tokenize_reports_flaws (text : List Char) (document : DocumentId) :
    ∃ flaws : List Flaw, (∀ flaw, flaw ∈ flaws ↔ flaw.In text) ∧
      ((({} : Findings).addAll (tokenize text document)).toList.map
          fun d => (d.severity, d.code.map Code.display, d.span)) =
        flaws.map (fun flaw => (.error, some flaw.code, flaw.span document .start)) ∧
      ((tokenize text document).toList.filter (·.token.isError)).map
          (fun scanned => (scanned.token, scanned.span)) =
        flaws.map (fun flaw => (flaw.token .start, flaw.span document .start)) ∧
      flaws.Pairwise (fun flaw later =>
        (flaw.span document .start).stop ≤ (later.span document .start).start) ∧
      ∀ flaw ∈ flaws, (flaw.span document .start).start < (flaw.span document .start).stop ∧
        text = flaw.before ++ flaw.lexeme ++ flaw.left ∧
        ∃ front scanned, (tokenize text document).toList = front ++ scanned ::
            (Lexer.within flaw.left (Text.Position.start.after (flaw.before ++ flaw.lexeme))
              document).drain.1.toList ∧
          scanned.token = flaw.token .start ∧ scanned.span = flaw.span document .start := by
  obtain ⟨pieces, last, cut⟩ := exists_cut text
  have hList := cut.toList_tokenize document
  refine ⟨flawsOf pieces last, fun flaw => cut.mem_flawsOf_iff, ?_, ?_, ?_, ?_⟩
  · rw [Findings.toList_addAll, Findings.toList_empty, List.nil_append, hList]
    exact cut.reports_scannedFrom document .start
  · rw [hList]
    exact cut.errors_scannedFrom document .start
  · refine cut.pairwise_flawsOf.imp fun {flaw later} h => ?_
    simp only [Flaw.span]
    omega
  · intro flaw hFlaw
    have hIn := cut.mem_flawsOf_iff.1 hFlaw
    refine ⟨?_, hIn.text_eq, ?_⟩
    · have hPos := List.length_pos_iff.2 hIn.nonempty
      simp only [Flaw.span]
      omega
    · obtain ⟨front, scanned, piecesLeft, cutLeft, hScanned, hSame⟩ :=
        cut.scannedFrom_of_in hIn document .start
      refine ⟨front, scanned, ?_, hSame⟩
      rw [hList, hScanned, Lexer.toList_drain_within cutLeft]

end Coll

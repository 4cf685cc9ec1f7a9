import Coll.Lexeme.Scanner
import Coll.Lexeme.Trivia
import Coll.Report.Findings
import Coll.Token.Basic

/-!
The lexer hands out the tokens of a stream one after the other. It remembers where the token it
is at began, because an error is reported from there to where the cursor has come.
-/

namespace Coll

structure Lexer (σ : Type) where
  cursor : Cursor σ
  /-- The document that errors are reported for. -/
  document : DocumentId := 0
  /-- Where the last token that was asked for begins. -/
  tokenStart : Text.Position := .start

/-- A token, the stretch of the input that it was read from, and the diagnostic that was reported
with it. -/
structure Scanned where
  token : Token
  span : Span
  report : Option Diagnostic
  deriving DecidableEq, Repr

namespace Lexer

section Steps

variable {σ : Type} [CharStream σ]

def ofStream (s : σ) (document : DocumentId := 0) : Lexer σ :=
  { cursor := .ofStream s, document }

def line (lexer : Lexer σ) : Nat := lexer.cursor.position.line

def column (lexer : Lexer σ) : Nat := lexer.cursor.position.column

/-- A token of the given kind where the current token begins. -/
def tokenOf (lexer : Lexer σ) (kind : Kind) (text : String) : Token :=
  ⟨kind, text, lexer.tokenStart.line, lexer.tokenStart.column⟩

/-- From where the current token begins to where the cursor is. -/
def span (lexer : Lexer σ) : Span where
  start := lexer.tokenStart.offset
  stop := lexer.cursor.position.offset
  line := lexer.tokenStart.line
  column := lexer.tokenStart.column
  document := lexer.document

/-- The token for a scanned lexeme, and the lexer after it. A fault is reported. -/
def conclude (lexer : Lexer σ) (scan : Lexeme.Scan σ) : Scanned × Lexer σ :=
  let after := { lexer with cursor := scan.2 }
  ({ token := after.tokenOf scan.1.kind scan.1.text
     span := after.span
     report := scan.1.fault?.map (·.diagnostic after.span) }, after)

end Steps

variable {σ : Type} [FiniteStream σ]

/-- Runs one scanner where the cursor is. The token begins where the last one did that
`next` gave. -/
def run (lexer : Lexer σ) (scanner : Lexeme.Scanner) : Scanned × Lexer σ :=
  lexer.conclude (scanner.scan lexer.cursor)

def skipTrivia (lexer : Lexer σ) : Lexer σ :=
  { lexer with cursor := Lexeme.skipTrivia lexer.cursor }

/-- Moves the cursor to the beginning of a lexeme, or to the end of the input, and makes that the
beginning of the current token. -/
def begin (lexer : Lexer σ) : Lexer σ :=
  let lexer := lexer.skipTrivia
  { lexer with tokenStart := lexer.cursor.position }

/-- The next token. At the end of the input that is the end token, however often it is asked
for. -/
def next (lexer : Lexer σ) : Scanned × Lexer σ :=
  let lexer := lexer.begin
  if lexer.cursor.atEnd then
    ({ token := lexer.tokenOf .endOfInput "", span := lexer.span, report := none }, lexer)
  else lexer.conclude (Lexeme.scan lexer.cursor)

/-- The next token, `none` instead of the end token. -/
def next? (lexer : Lexer σ) : Option Scanned × Lexer σ :=
  let (scanned, lexer) := lexer.next
  (if scanned.token.isEnd then none else some scanned, lexer)

/-- Scanning a token other than the end token brings the end of the input nearer. -/
theorem bound_next_lt {lexer : Lexer σ} (more : ¬ lexer.next.1.token.isEnd) :
    lexer.next.2.cursor.bound < lexer.cursor.bound := by
  have skipped : lexer.begin.cursor.bound ≤ lexer.cursor.bound :=
    Lexeme.bound_skipTrivia_le lexer.cursor
  unfold next at more ⊢
  dsimp only at more ⊢
  split at more
  · exact absurd rfl more
  · next notAtEnd =>
    rw [if_neg notAtEnd]
    obtain ⟨c, here⟩ : ∃ c, lexer.begin.cursor.current = some c :=
      Option.ne_none_iff_exists'.1 (by simpa [Cursor.atEnd] using notAtEnd)
    exact Nat.lt_of_lt_of_le (Lexeme.bound_scan_lt here) skipped

/-- Scans up to the end of the input and puts what it finds after `seen`. The last token is the
end token. -/
def drainOnto (lexer : Lexer σ) (seen : Array Scanned) : Array Scanned × Lexer σ :=
  match _scanned : lexer.next with
  | (s, rest) =>
    if _more : ¬ s.token.isEnd then drainOnto rest (seen.push s) else (seen.push s, rest)
termination_by lexer.cursor.bound
decreasing_by
  have := @bound_next_lt _ _ lexer (by rw [_scanned]; exact _more)
  simpa only [_scanned] using this

/-- All tokens up to the end of the input, with the end token, and the lexer there. -/
def drain (lexer : Lexer σ) : Array Scanned × Lexer σ := lexer.drainOnto #[]

end Lexer

/-- The tokens of a text, with the end token. -/
def tokenize (text : List Char) (document : DocumentId := 0) : Array Scanned :=
  (Lexer.ofStream text document).drain.1

def Findings.addAll (found : Findings) (scanned : Array Scanned) : Findings :=
  scanned.foldl (fun found s => found.addOption s.report) found

end Coll

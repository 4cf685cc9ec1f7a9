import Coll.Proofs.Lexeme.Anywhere

/-!
One lexer under any requests. A scanner that is run by itself leaves the beginning of the token
where it was, so the beginning may be long past; it never lies behind the cursor.
-/

namespace Coll

namespace Lexer

/-- What can be asked of a lexer. -/
inductive Request where
  | next
  /-- The next token, none at the end of the input. -/
  | next?
  | skipTrivia
  | scan (scanner : Lexeme.Scanner)
  deriving DecidableEq, Repr

/-- What is returned: a token, or none, and where the cursor is then. -/
structure Reply where
  token : Option Token
  position : Text.Position
  deriving DecidableEq, Repr

def Reply.isError (reply : Reply) : Bool := reply.token.any (·.isError)

variable {σ : Type}

/-- The token is the last one that `later` has given: it stands where its token begins, and it is an
error just when it was reported from there to the cursor. -/
structure Gave (later : Lexer σ) (scanned : Scanned) : Prop where
  line : scanned.token.line = later.tokenStart.line
  column : scanned.token.column = later.tokenStart.column
  report : ∃ fault? : Option Lexeme.Fault,
    scanned.report = fault?.map (·.diagnostic later.span) ∧
      scanned.token.isError = fault?.isSome

theorem gave_conclude (lexer : Lexer σ) {scan : Lexeme.Scan σ} (ordinary : scan.1.Ordinary) :
    (lexer.conclude scan).2.Gave (lexer.conclude scan).1 where
  line := rfl
  column := rfl
  report := by
    refine ⟨scan.1.fault?, rfl, Bool.eq_iff_iff.2 ?_⟩
    exact beq_iff_eq.trans ordinary.2

variable [FiniteStream σ]

def perform (lexer : Lexer σ) : Request → Option Scanned × Lexer σ
  | .next => (some lexer.next.1, lexer.next.2)
  | .next? => lexer.next?
  | .skipTrivia => (none, lexer.skipTrivia)
  | .scan scanner => (some (lexer.run scanner).1, (lexer.run scanner).2)

def reply (lexer : Lexer σ) (request : Request) : Reply where
  token := (lexer.perform request).1.map (·.token)
  position := (lexer.perform request).2.cursor.position

/-- Where the last token begins that `next` or `next?` has gone to, once a request is made. Before
it is made that is `start`. -/
def startAfter (lexer : Lexer σ) (start : Text.Position) : Request → Text.Position
  | .next | .next? => (Lexeme.skipTrivia lexer.cursor).position
  | .skipTrivia | .scan _ => start

/-- The replies to one request after the other, each with where the token begins that was gone to
last. -/
def history (lexer : Lexer σ) (start : Text.Position) : List Request → List (Text.Position × Reply)
  | [] => []
  | request :: requests =>
    let start := lexer.startAfter start request
    (start, lexer.reply request) :: (lexer.perform request).2.history start requests

/-- What a request can do to a lexer. -/
structure Performs (lexer : Lexer σ) (request : Request) (scanned : Option Scanned)
    (later : Lexer σ) : Prop where
  document : later.document = lexer.document
  tokenStart : later.tokenStart = lexer.startAfter lexer.tokenStart request
  reaches : lexer.cursor.Reaches later.cursor
  begun : later.tokenStart = lexer.tokenStart ∨
    later.tokenStart.offset ≤ later.cursor.position.offset
  gave : ∀ s ∈ scanned, later.Gave s

theorem performs_run (lexer : Lexer σ) (scanner : Lexeme.Scanner) :
    lexer.Performs (.scan scanner) (some (lexer.run scanner).1) (lexer.run scanner).2 := by
  have sound := scanner.sound lexer.cursor
  refine ⟨rfl, rfl, sound.reaches, .inl rfl, ?_⟩
  rintro _ ⟨⟩
  exact lexer.gave_conclude sound.ordinary

theorem performs_next (lexer : Lexer σ) :
    lexer.Performs .next (some lexer.next.1) lexer.next.2 := by
  have hBegin : lexer.cursor.Reaches lexer.begin.cursor := Lexeme.reaches_skipTrivia lexer.cursor
  cases hHere : lexer.begin.cursor.current with
  | none =>
      rw [next_of_atEnd hHere]
      refine ⟨rfl, rfl, hBegin, .inr (Nat.le_refl _), ?_⟩
      rintro _ ⟨⟩
      exact ⟨rfl, rfl, none, rfl, rfl⟩
  | some c =>
      have sound := Lexeme.sound_scan lexer.begin.cursor
      rw [next_of_current hHere]
      refine ⟨rfl, rfl, hBegin.trans sound.reaches, .inr sound.reaches.offset_le, ?_⟩
      rintro _ ⟨⟩
      exact lexer.begin.gave_conclude sound.ordinary

/-- A request does what `Performs` says, whichever it is and wherever the lexer is. -/
theorem performs (lexer : Lexer σ) (request : Request) :
    lexer.Performs request (lexer.perform request).1 (lexer.perform request).2 := by
  cases request with
  | next => exact lexer.performs_next
  | next? =>
      have next := lexer.performs_next
      refine ⟨next.document, next.tokenStart, next.reaches, next.begun, ?_⟩
      intro s hs
      refine next.gave s ?_
      change s ∈ (if lexer.next.1.token.isEnd then none else some lexer.next.1) at hs
      split at hs
      · cases hs
      · exact hs
  | skipTrivia =>
      refine ⟨rfl, rfl, Lexeme.reaches_skipTrivia lexer.cursor, .inl rfl, fun s hs => ?_⟩
      have hNone : s ∈ (none : Option Scanned) := hs
      cases hNone
  | scan scanner => exact lexer.performs_run scanner

/-- What is kept of a lexer over `source`, whatever is asked of it: it has walked along the source,
and its token does not begin behind the cursor. -/
structure Inside (lexer : Lexer σ) (source : σ) : Prop where
  reached : (Cursor.ofStream source).Reaches lexer.cursor
  begun : lexer.tokenStart.offset ≤ lexer.cursor.position.offset

theorem inside_ofStream (source : σ) (document : DocumentId) :
    (ofStream source document).Inside source where
  reached := (Cursor.Moved.refl _).reaches
  begun := Nat.le_refl _

theorem Inside.perform {lexer : Lexer σ} {source : σ} (inside : lexer.Inside source)
    (request : Request) : (lexer.perform request).2.Inside source where
  reached := inside.reached.trans (lexer.performs request).reaches
  begun := by
    rcases (lexer.performs request).begun with hSame | hBegun
    · rw [hSame]
      exact Nat.le_trans inside.begun (lexer.performs request).reaches.offset_le
    · exact hBegun

/-- The cursor is never behind the end of the source. -/
theorem Inside.offset_le {lexer : Lexer σ} {source : σ} (inside : lexer.Inside source) :
    lexer.cursor.position.offset ≤ (CharStream.toList source).length := by
  obtain ⟨stretch, moved⟩ := inside.reached
  have hText : CharStream.toList source = stretch ++ lexer.cursor.rest :=
    (Cursor.rest_ofStream source).symm.trans moved.rest_eq
  have hOffset : lexer.cursor.position.offset = 0 + stretch.length := by
    rw [moved.position_eq, Text.Position.offset_after]
    rfl
  rw [hText, List.length_append]
  omega

/-- The diagnostic reports the error that is returned in `entry`, for a document of `length`
characters: from where the token begins that was gone to last up to the cursor. -/
structure Reports (document : DocumentId) (length : Nat) (d : Diagnostic)
    (entry : Text.Position × Reply) : Prop where
  severity : d.severity = .error
  document : d.span.document = document
  token : ∃ token, entry.2.token = some token ∧ token.isError ∧
    d.span.line = token.line ∧ d.span.column = token.column
  start : d.span.start = entry.1.offset
  stop : d.span.stop = entry.2.position.offset
  ordered : d.span.start ≤ d.span.stop
  inside : d.span.stop ≤ length

/-- A request reports its error, if it returns one, and nothing else. -/
theorem Inside.reports {lexer : Lexer σ} {source : σ} (inside : lexer.Inside source)
    (request : Request) :
    let later := (lexer.perform request).2
    let report := (lexer.perform request).1.bind (·.report)
    (report = none ∧ (lexer.reply request).isError = false) ∨
      ∃ d, report = some d ∧ (lexer.reply request).isError ∧
        Reports lexer.document (CharStream.toList source).length d
          (later.tokenStart, lexer.reply request) := by
  intro later report
  have performs := lexer.performs request
  have hInside : later.Inside source := inside.perform request
  cases hScanned : (lexer.perform request).1 with
  | none => exact .inl ⟨by simp [report, hScanned], by simp [Reply.isError, reply, hScanned]⟩
  | some s =>
      have gave : later.Gave s := performs.gave s hScanned
      obtain ⟨fault?, hReport, hError⟩ := gave.report
      have hIsError : (lexer.reply request).isError = fault?.isSome := by
        simp [Reply.isError, reply, hScanned, hError]
      have hReported : report = fault?.map (·.diagnostic later.span) := by
        simp [report, hScanned, hReport]
      cases fault? with
      | none => exact .inl ⟨hReported, hIsError⟩
      | some fault =>
          refine .inr ⟨_, hReported, hIsError, rfl, performs.document, ?_, rfl, rfl,
            hInside.begun, hInside.offset_le⟩
          exact ⟨s.token, by simp [reply, hScanned], hError, gave.line.symm, gave.column.symm⟩

end Lexer

end Coll

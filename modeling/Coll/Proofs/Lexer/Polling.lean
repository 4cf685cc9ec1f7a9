import Coll.Proofs.Lexer.Request
import Coll.Proofs.Stream.Polling

/-!
How often a lexer asks its stream for a character. A scanner only ever advances its cursor. The one
that looks ahead does so on the first character of a lexeme, and moves over that one afterwards, so
a lexer never keeps a character that it has looked ahead to.
-/

namespace Coll

namespace Cursor

variable {σ : Type}

/-- Any number of advances. -/
inductive Advances [CharStream σ] (cursor : Cursor σ) : Cursor σ → Prop where
  | refl : cursor.Advances cursor
  | step {later : Cursor σ} (advances : cursor.Advances later) : cursor.Advances later.advance

theorem advances_advance [CharStream σ] (cursor : Cursor σ) : cursor.Advances cursor.advance :=
  .step .refl

theorem Advances.trans [CharStream σ] {cursor middle later : Cursor σ}
    (left : cursor.Advances middle) (right : middle.Advances later) : cursor.Advances later := by
  induction right with
  | refl => exact left
  | step _ ih => exact ih.step

theorem advances_accept [CharStream σ] (cursor : Cursor σ) (expected : Char) :
    cursor.Advances (cursor.accept expected).2 := by
  rw [accept]
  split
  · exact cursor.advances_advance
  · exact .refl

variable [FiniteStream σ]

theorem advances_takeOnto (p : Char → Bool) (cursor : Cursor σ) (taken : List Char) :
    cursor.Advances (cursor.takeOnto p taken).2 := by
  fun_induction takeOnto p cursor taken with
  | case1 => exact .refl
  | case2 cursor taken c hHere hClass ih => exact cursor.advances_advance.trans ih
  | case3 => exact .refl

theorem advances_takeWhile (p : Char → Bool) (cursor : Cursor σ) :
    cursor.Advances (cursor.takeWhile p).2 := cursor.advances_takeOnto p []

theorem advances_dropWhile (p : Char → Bool) (cursor : Cursor σ) :
    cursor.Advances (cursor.dropWhile p) := by
  fun_induction dropWhile p cursor with
  | case1 => exact .refl
  | case2 cursor c hHere hClass ih => exact cursor.advances_advance.trans ih
  | case3 => exact .refl

end Cursor

namespace Lexeme

variable {σ : Type} [FiniteStream σ]

theorem advances_skipTrivia (cursor : Cursor σ) : cursor.Advances (skipTrivia cursor) := by
  fun_induction skipTrivia cursor with
  | case1 => exact .refl
  | case2 cursor c hHere hBlank ih => exact cursor.advances_advance.trans ih
  | case3 cursor hHere hMark ih =>
      exact (cursor.advances_advance.trans (Cursor.advances_dropWhile _ _)).trans ih
  | case4 => exact .refl

theorem advances_scanNumber (cursor : Cursor σ) : cursor.Advances (scanNumber cursor).2 := by
  have hDigits := cursor.advances_takeWhile Char.isDigit
  rw [scanNumber]
  generalize cursor.takeWhile Char.isDigit = taken at hDigits
  obtain ⟨digits, rest⟩ := taken
  dsimp only
  split
  · exact hDigits.step.trans (Cursor.advances_takeWhile _ _)
  · exact hDigits

theorem advances_scanDotFloat (cursor : Cursor σ) :
    cursor.advance.Advances (scanDotFloat cursor).2 := Cursor.advances_takeWhile _ _

theorem advances_scanContent (cursor : Cursor σ) (content : List Char) :
    cursor.Advances (scanContent cursor content).2 := by
  have hTwo := fun cursor : Cursor σ => cursor.advances_advance.step
  fun_induction scanContent cursor content with
  | case1 => exact .refl
  | case2 => exact Cursor.advances_advance _
  | case3 => exact Cursor.advances_advance _
  | case4 cursor _ _ _ _ _ _ _ ih => exact (hTwo cursor).trans ih
  | case5 => exact hTwo _
  | case6 cursor _ _ _ _ _ ih => exact cursor.advances_advance.trans ih

theorem advances_scanPair (second : Char) (joined single : Outcome) (cursor : Cursor σ) :
    cursor.advance.Advances (scanPair second joined single cursor).2 :=
  Cursor.advances_accept _ _

theorem advances_scanEquals (cursor : Cursor σ) :
    cursor.advance.Advances (scanEquals cursor).2 := by
  have hAccept := cursor.advance.advances_accept '='
  rw [scanEquals]
  split
  · next rest hTaken =>
      rw [hTaken] at hAccept
      exact hAccept
  · next rest hLeft =>
      rw [hLeft] at hAccept
      split
      · exact hAccept.step.trans (advances_scanPair _ _ _ rest)
      · exact hAccept

theorem advances_scanSign (cursor : Cursor σ) : cursor.advance.Advances (scanSign cursor).2 := by
  rw [scanSign]
  split
  case h_2 => exact advances_scanEquals cursor
  case h_7 => exact .refl
  all_goals exact advances_scanPair _ _ _ cursor

/-- Whichever scanner is run, wherever it is run, it does not look ahead. -/
theorem Scanner.advances_scan (scanner : Scanner) (cursor : Cursor σ) :
    cursor.Advances (scanner.scan cursor).2 := by
  have hFirst := cursor.advances_advance
  cases scanner with
  | name => exact Cursor.advances_takeWhile _ _
  | number => exact advances_scanNumber cursor
  | dotFloat => exact hFirst.trans (advances_scanDotFloat cursor)
  | string => exact hFirst.trans (advances_scanContent _ _)
  | sign => exact hFirst.trans (advances_scanSign cursor)
  | equals => exact hFirst.trans (advances_scanEquals cursor)
  | minus | less | greater | ampersand | pipe =>
      exact hFirst.trans (advances_scanPair _ _ _ cursor)

/-- Where the dispatch has looked ahead, the character it looked from is moved over. -/
theorem advances_scan (cursor : Cursor σ) :
    cursor.Advances (scan cursor).2 ∨ cursor.peek.2.advance.Advances (scan cursor).2 := by
  rw [scan]
  split
  · exact .inl (Scanner.name.advances_scan cursor)
  split
  · exact .inl (Scanner.number.advances_scan cursor)
  split
  · refine .inr ?_
    dsimp only
    split
    · exact advances_scanDotFloat cursor.peek.2
    · exact advances_scanSign cursor.peek.2
  split
  · exact .inl (Scanner.string.advances_scan cursor)
  · exact .inl (Scanner.sign.advances_scan cursor)

end Lexeme

namespace Cursor

/-- Nothing has been looked ahead to that has not been moved onto. -/
structure Settled {σ : Type} [CharStream σ] (source : σ) (cursor : Cursor (Metered σ)) : Prop
    extends cursor.Polled source where
  ahead : cursor.ahead = none

variable {σ : Type} [FiniteStream σ] {source : σ} {cursor later : Cursor (Metered σ)}

theorem Polled.settled_advance (polled : cursor.Polled source) : cursor.advance.Settled source :=
  ⟨polled.advance, polled.ahead_advance⟩

theorem Settled.advances (settled : cursor.Settled source) (advances : cursor.Advances later) :
    later.Settled source := by
  induction advances with
  | refl => exact settled
  | step _ ih => exact ih.toPolled.settled_advance

theorem Settled.scan (settled : cursor.Settled source) : (Lexeme.scan cursor).2.Settled source := by
  rcases Lexeme.advances_scan cursor with hAdvances | hAdvances
  · exact settled.advances hAdvances
  · exact settled.toPolled.peek.settled_advance.advances hAdvances

end Cursor

namespace Lexer

section Requests

variable {σ : Type} [FiniteStream σ] {source : σ}

/-- The lexer after one request after the other. -/
def performAll (lexer : Lexer σ) (requests : List Request) : Lexer σ :=
  requests.foldl (fun lexer request => (lexer.perform request).2) lexer

/-- A request leaves nothing looked ahead to, whichever it is. -/
theorem settled_perform {lexer : Lexer (Metered σ)} (settled : lexer.cursor.Settled source)
    (request : Request) : (lexer.perform request).2.cursor.Settled source := by
  have hBegin : lexer.begin.cursor.Settled source :=
    settled.advances (Lexeme.advances_skipTrivia lexer.cursor)
  have hNext : lexer.next.2.cursor.Settled source := by
    rw [next]
    split
    · exact hBegin
    · exact hBegin.scan
  cases request with
  | next => exact hNext
  | next? => exact hNext
  | skipTrivia => exact hBegin
  | scan scanner => exact settled.advances (scanner.advances_scan lexer.cursor)

theorem settled_performAll {lexer : Lexer (Metered σ)} (settled : lexer.cursor.Settled source)
    (requests : List Request) : (lexer.performAll requests).cursor.Settled source := by
  induction requests generalizing lexer with
  | nil => exact settled
  | cons request requests ih => exact ih (settled_perform settled request)

/-- Between two requests the stream has been asked for one answer more than for the characters
that the lexer has moved over, and for none behind the end. -/
structure Frugal (source : σ) (lexer : Lexer (Metered σ)) : Prop where
  cursor : lexer.cursor.Frugal source
  ahead : lexer.cursor.ahead = none
  count : lexer.cursor.source.answers.length = lexer.cursor.position.offset + 1

theorem frugal_performAll (source : σ) (document : DocumentId) (requests : List Request) :
    ((ofStream ({ source } : Metered σ) document).performAll requests).Frugal source := by
  have hNew : (ofStream ({ source } : Metered σ) document).cursor.Settled source :=
    ⟨Cursor.polled_ofStream source, rfl⟩
  have settled := settled_performAll hNew requests
  have hCount := settled.frugal.count
  rw [settled.ahead] at hCount
  exact ⟨settled.frugal, settled.ahead, hCount⟩

end Requests

end Lexer

/-- No stream is asked for a character before it is needed, and none is asked again behind its end,
even if it had more to give. A cursor keeps to this under any operations. A lexer keeps to it under
any requests and has looked ahead to nothing between two of them. Of a stream without an end the
lexer reads a beginning; however much of it is there, what the lexer was answered is what the
stream answers. -/
theorem asks_only_as_needed :
    (∀ {σ : Type} [CharStream σ] (source : σ) (operations : List Cursor.Operation),
      ((Cursor.ofStream ({ source } : Metered σ)).performAll operations).Frugal source) ∧
    (∀ {σ : Type} [FiniteStream σ] (source : σ) (document : DocumentId)
        (requests : List Lexer.Request),
      ((Lexer.ofStream ({ source } : Metered σ) document).performAll requests).Frugal source) ∧
    (∀ {σ : Type} [CharStream σ] (source : σ) (limit : Nat) (document : DocumentId)
        (requests : List Lexer.Request),
      let part : Limited σ := ⟨source, limit⟩
      let lexer := (Lexer.ofStream ({ source := part } : Metered (Limited σ)) document).performAll
        requests
      let answers := lexer.cursor.source.answers
      lexer.Frugal part ∧
        answers.take limit = (CharStream.draw source answers.length).take limit) := by
  refine ⟨?_, fun source => Lexer.frugal_performAll source, ?_⟩
  · intro σ _ source operations
    exact ((Cursor.polled_ofStream source).performAll operations).frugal
  · intro σ _ source limit document requests part lexer answers
    have frugal : lexer.Frugal part := Lexer.frugal_performAll part document requests
    refine ⟨frugal, ?_⟩
    rw [← Limited.take_draw, ← frugal.cursor.drawn]

end Coll

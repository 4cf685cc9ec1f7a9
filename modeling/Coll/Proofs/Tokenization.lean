import Coll.Lexer
import Coll.Proofs.Lexeme.Gap
import Coll.Proofs.Lexeme.Munch

/-!
Tokenization by longest match. A text is cut into gaps and lexemes, each as long as it can be, in
one way only; draining a lexer gives one token for each lexeme of the cut, and the end token. What a
stream is made of has no part in it: only its characters count.
-/

namespace Coll

open Lexeme (Form IsLexeme Longest Outcome Trivia)

/-- A lexeme of a text with the gap before it and what it stands for. -/
structure Piece where
  gap : List Char
  lexeme : List Char
  outcome : Outcome

namespace Piece

/-- What a piece takes up of the text. -/
def stretch (piece : Piece) : List Char := piece.gap ++ piece.lexeme

/-- A piece that a text begins with, where `left` is the text behind it: first the longest gap, then
the longest lexeme. -/
structure Leads (piece : Piece) (left : List Char) : Prop where
  gap : Longest Trivia piece.gap (piece.lexeme ++ left)
  nonempty : piece.lexeme ≠ []
  lexeme : Longest IsLexeme piece.lexeme left
  form : Form piece.lexeme left piece.outcome

/-- A text begins with one piece at most. -/
theorem Leads.unique {piece piece' : Piece} {left left' : List Char} (leads : piece.Leads left)
    (leads' : piece'.Leads left') (h : piece.stretch ++ left = piece'.stretch ++ left') :
    piece = piece' ∧ left = left' := by
  simp only [stretch, List.append_assoc] at h
  obtain ⟨hGap, hRest⟩ := leads.gap.unique leads'.gap h
  obtain ⟨hLexeme, hLeft⟩ := leads.lexeme.unique leads'.lexeme hRest
  have hForm := leads'.form
  rw [← hLexeme, ← hLeft] at hForm
  have hOutcome := leads.form.unique hForm
  cases piece
  cases piece'
  subst hGap hLexeme hLeft hOutcome
  exact ⟨rfl, rfl⟩

/-- A gap that nothing follows is no gap before a piece. -/
theorem Leads.not_last {piece : Piece} {left last : List Char} (leads : piece.Leads left)
    (hLast : Longest Trivia last []) (h : piece.stretch ++ left = last) : False := by
  have hSame : piece.gap ++ (piece.lexeme ++ left) = last ++ [] := by
    rw [List.append_nil, ← List.append_assoc]
    exact h
  obtain ⟨-, hNil⟩ := leads.gap.unique hLast hSame
  exact leads.nonempty (List.append_eq_nil_iff.1 hNil).1

end Piece

/-- The pieces of a text, and the gap behind the last of them. -/
inductive Cut : List Char → List Piece → List Char → Prop where
  | last {gap : List Char} (longest : Longest Trivia gap []) : Cut gap [] gap
  | piece {piece : Piece} {left last : List Char} {pieces : List Piece} (leads : piece.Leads left)
      (more : Cut left pieces last) : Cut (piece.stretch ++ left) (piece :: pieces) last

namespace Cut

/-- Nothing of the text gets lost. -/
theorem text_eq {text last : List Char} {pieces : List Piece} (cut : Cut text pieces last) :
    text = pieces.flatMap Piece.stretch ++ last := by
  induction cut with
  | last => rfl
  | piece _ _ ih => rw [List.flatMap_cons, List.append_assoc, ← ih]

/-- There is no other way to cut a text. -/
theorem unique {text last last' : List Char} {pieces pieces' : List Piece}
    (cut : Cut text pieces last) (cut' : Cut text pieces' last') :
    pieces = pieces' ∧ last = last' := by
  induction cut generalizing pieces' last' with
  | @last gap longest =>
      generalize hText : gap = text at cut'
      cases cut' with
      | last => exact ⟨rfl, rfl⟩
      | piece leads => exact (leads.not_last longest hText.symm).elim
  | @piece piece left _ _ leads _ ih =>
      generalize hText : piece.stretch ++ left = text at cut'
      cases cut' with
      | last longest => exact (leads.not_last longest hText).elim
      | piece leads' more' =>
          obtain ⟨rfl, rfl⟩ := leads.unique leads' hText
          obtain ⟨rfl, rfl⟩ := ih more'
          exact ⟨rfl, rfl⟩

/-- Every piece of a cut leads what is cut behind it. -/
theorem exists_leads {text last : List Char} {pieces : List Piece} (cut : Cut text pieces last)
    {piece : Piece} (hMem : piece ∈ pieces) : ∃ left, piece.Leads left := by
  induction cut with
  | last => cases hMem
  | piece leads _ ih =>
      rcases List.mem_cons.1 hMem with rfl | hMem
      · exact ⟨_, leads⟩
      · exact ih hMem

end Cut

/-- The token of a piece that begins at `p`, the place of its lexeme, and what is reported. -/
def Piece.scanned (document : DocumentId) (p : Text.Position) (piece : Piece) : Scanned :=
  let start := p.after piece.gap
  let span : Span :=
    ⟨start.offset, (start.after piece.lexeme).offset, start.line, start.column, document⟩
  { token := ⟨piece.outcome.kind, piece.outcome.text, start.line, start.column⟩
    span
    report := piece.outcome.fault?.map (·.diagnostic span) }

/-- The end token, where the text ends at `p`. -/
def endScanned (document : DocumentId) (p : Text.Position) : Scanned where
  token := ⟨.endOfInput, "", p.line, p.column⟩
  span := ⟨p.offset, p.offset, p.line, p.column, document⟩
  report := none

/-- The tokens of a cut text that begins at `p`, the end token last. -/
def scannedFrom (document : DocumentId) : Text.Position → List Piece → List Char → List Scanned
  | p, [], last => [endScanned document (p.after last)]
  | p, piece :: pieces, last =>
    piece.scanned document p :: scannedFrom document (p.after piece.stretch) pieces last

/-- A token is the end token or that of a piece. -/
theorem eq_scanned_of_mem {document : DocumentId} {p : Text.Position} {pieces : List Piece}
    {last : List Char} {scanned : Scanned} (hMem : scanned ∈ scannedFrom document p pieces last) :
    (∃ q, scanned = endScanned document q) ∨
      ∃ piece ∈ pieces, ∃ q, scanned = piece.scanned document q := by
  induction pieces generalizing p with
  | nil => exact .inl ⟨_, List.mem_singleton.1 hMem⟩
  | cons first pieces ih =>
      rcases List.mem_cons.1 hMem with rfl | hMem
      · exact .inr ⟨first, List.mem_cons_self, p, rfl⟩
      · exact (ih hMem).imp id fun ⟨piece, hPiece, h⟩ => ⟨piece, List.mem_cons_of_mem _ hPiece, h⟩

/-- Every piece has a token. -/
theorem exists_scanned_mem {pieces : List Piece} {piece : Piece} (hMem : piece ∈ pieces)
    (document : DocumentId) (p : Text.Position) (last : List Char) :
    ∃ q, piece.scanned document q ∈ scannedFrom document p pieces last := by
  induction pieces generalizing p with
  | nil => cases hMem
  | cons first pieces ih =>
      rcases List.mem_cons.1 hMem with rfl | hMem
      · exact ⟨p, List.mem_cons_self⟩
      · obtain ⟨q, hq⟩ := ih hMem (p.after first.stretch)
        exact ⟨q, List.mem_cons_of_mem _ hq⟩

namespace Lexeme

/-- No word is the end of the input or an error. -/
theorem wordKind_ordinary (word : List Char) :
    wordKind word ≠ .endOfInput ∧ wordKind word ≠ .error := by
  have hAll : ∀ kind ∈ .identifier :: .collectionName :: Kind.reserved.map (·.2),
      kind ≠ .endOfInput ∧ kind ≠ .error := by decide
  exact hAll _ (wordKind_mem word)

theorem Outcome.fault?_eq_some_iff {outcome : Outcome} {fault : Fault} :
    outcome.fault? = some fault ↔ outcome = .malformed fault := by
  cases outcome <;> simp [fault?]

theorem ordinary_of_mem_signs : ∀ sign ∈ signs,
    sign.2.kind ≠ .endOfInput ∧ (sign.2.kind = .error ↔ sign.2.fault?.isSome) := by decide

/-- No lexeme is the end of the input, and the malformed ones are the errors. -/
theorem Form.kind_ordinary {lexeme left : List Char} {outcome : Outcome}
    (form : Form lexeme left outcome) :
    outcome.kind ≠ .endOfInput ∧ (outcome.kind = .error ↔ outcome.fault?.isSome) := by
  cases form with
  | word form =>
      cases form
      obtain ⟨hEnd, hError⟩ := wordKind_ordinary (_ :: _)
      exact ⟨hEnd, iff_of_false hError (by simp [Outcome.fault?])⟩
  | numeral form => cases form <;> simp [integer, float, Outcome.kind, Outcome.fault?]
  | quoted form =>
      obtain ⟨-, closing⟩ := form
      cases closing <;> simp [Outcome.kind, Outcome.fault?]
  | signed form =>
      cases form with
      | listed mem => exact ordinary_of_mem_signs _ mem
      | strange => simp [Outcome.kind, Outcome.fault?]

end Lexeme

/-- The cursor on the first character of a text has the whole text before it. -/
theorem Cursor.rest_ofText (text : List Char) : (Cursor.ofStream text).rest = text :=
  (Cursor.rest_ofStream text).trans (CharStream.toList_list text)

theorem isEnd_endScanned (document : DocumentId) (p : Text.Position) :
    (endScanned document p).token.isEnd := rfl

theorem Piece.Leads.not_isEnd {piece : Piece} {left : List Char} (leads : piece.Leads left)
    (document : DocumentId) (p : Text.Position) : ¬ (piece.scanned document p).token.isEnd := by
  intro hEnd
  exact leads.form.kind_ordinary.1 (beq_iff_eq.1 hEnd)

/-- Of the tokens of a cut text only the last one is the end token. -/
theorem map_isEnd_scannedFrom {text last : List Char} {pieces : List Piece}
    (cut : Cut text pieces last) (document : DocumentId) (p : Text.Position) :
    (scannedFrom document p pieces last).map (·.token.isEnd) =
      List.replicate pieces.length false ++ [true] := by
  induction cut generalizing p with
  | last => rfl
  | piece leads _ ih =>
      have hMore := Bool.eq_false_iff.2 (leads.not_isEnd document p)
      rw [scannedFrom, List.map_cons, ih, hMore, List.length_cons, List.replicate_succ,
        List.cons_append]

/-- The end token stands behind all others. -/
theorem Cut.filter_not_isEnd {text last : List Char} {pieces : List Piece}
    (cut : Cut text pieces last) (document : DocumentId) (p : Text.Position) :
    (scannedFrom document p pieces last).filter (!·.token.isEnd) ++
      [endScanned document (p.after text)] = scannedFrom document p pieces last := by
  induction cut generalizing p with
  | last => rfl
  | @piece piece left last pieces leads more ih =>
      have hMore := leads.not_isEnd document p
      rw [scannedFrom, List.filter_cons_of_pos (by simpa using hMore), List.cons_append,
        Text.Position.after_append, ih]

namespace Lexer

/-- What is concluded from a reading at the beginning of a token is said by the piece. -/
theorem conclude_eq_scanned {σ : Type} [CharStream σ] {lexer : Lexer σ} {p : Text.Position}
    {later : Cursor σ} (piece : Piece) (hStart : lexer.tokenStart = p.after piece.gap)
    (hLater : later.position = (p.after piece.gap).after piece.lexeme) :
    (lexer.conclude (piece.outcome, later)).1 = piece.scanned lexer.document p := by
  simp only [conclude, tokenOf, span, Piece.scanned, hLater, hStart]

variable {σ : Type} [FiniteStream σ]

theorem next_of_atEnd {lexer : Lexer σ} (hHere : lexer.begin.cursor.current = none) :
    lexer.next = (endScanned lexer.document lexer.begin.cursor.position, lexer.begin) := by
  unfold next
  rw [if_pos (by simp [Cursor.atEnd, hHere])]
  rfl

theorem next_of_current {lexer : Lexer σ} {c : Char} (hHere : lexer.begin.cursor.current = some c) :
    lexer.next = lexer.begin.conclude (Lexeme.scan lexer.begin.cursor) := by
  unfold next
  rw [if_neg (by simp [Cursor.atEnd, hHere])]

/-- Asking for a token either finds the end of the input behind a gap, or moves over a piece. -/
theorem next_cases (lexer : Lexer σ) :
    (∃ gap, Longest Trivia gap [] ∧ lexer.cursor.Moved gap lexer.next.2.cursor ∧
      lexer.next.2.cursor.rest = [] ∧
      lexer.next.1 = endScanned lexer.document (lexer.cursor.position.after gap)) ∨
    ∃ piece : Piece, piece.Leads lexer.next.2.cursor.rest ∧
      lexer.cursor.Moved piece.stretch lexer.next.2.cursor ∧
      lexer.next.1 = piece.scanned lexer.document lexer.cursor.position := by
  obtain ⟨gap, hMoved, hLongest⟩ : ∃ gap, lexer.cursor.Moved gap lexer.begin.cursor ∧
      Longest Trivia gap lexer.begin.cursor.rest := Lexeme.longest_skipTrivia lexer.cursor
  cases hHere : lexer.begin.cursor.current with
  | none =>
      have hRest := Cursor.rest_eq_nil_iff.2 hHere
      rw [hRest] at hLongest
      rw [next_of_atEnd hHere]
      exact .inl ⟨gap, hLongest, hMoved, hRest, by rw [hMoved.position_eq]⟩
  | some c =>
      obtain ⟨lexeme, hRead⟩ := Lexeme.scan_reading hHere
      have hForm : Form lexeme (Lexeme.scan lexer.begin.cursor).2.rest
          (Lexeme.scan lexer.begin.cursor).1 := hRead.form
      rw [next_of_current hHere]
      let piece : Piece := ⟨gap, lexeme, (Lexeme.scan lexer.begin.cursor).1⟩
      refine .inr ⟨piece, ⟨?_, hForm.ne_nil, ⟨⟨_, hForm⟩, ?_⟩, hForm⟩, hMoved.trans hRead.moved, ?_⟩
      · rw [hRead.moved.rest_eq] at hLongest
        exact hLongest
      · rintro other behind hSame ⟨outcome, form⟩
        exact hRead.length_le (hSame.trans hRead.moved.rest_eq.symm) form
      · have hLater := hRead.moved.position_eq
        rw [hMoved.position_eq] at hLater
        exact conclude_eq_scanned piece hMoved.position_eq hLater

@[simp] theorem document_next (lexer : Lexer σ) : lexer.next.2.document = lexer.document := by
  unfold next
  dsimp only
  split <;> rfl

theorem drainOnto_of_isEnd {lexer : Lexer σ} (hEnd : lexer.next.1.token.isEnd)
    (seen : Array Scanned) :
    lexer.drainOnto seen = (seen.push lexer.next.1, lexer.next.2) := by
  rw [drainOnto]
  exact dif_neg (not_not_intro hEnd)

theorem drainOnto_of_more {lexer : Lexer σ} (hMore : ¬ lexer.next.1.token.isEnd)
    (seen : Array Scanned) :
    lexer.drainOnto seen = lexer.next.2.drainOnto (seen.push lexer.next.1) := by
  rw [drainOnto]
  exact dif_pos hMore

/-- Draining a lexer cuts what is ahead of it. -/
theorem drainOnto_cut (lexer : Lexer σ) (seen : Array Scanned) :
    ∃ pieces last, Cut lexer.cursor.rest pieces last ∧
      (lexer.drainOnto seen).1.toList =
        seen.toList ++ scannedFrom lexer.document lexer.cursor.position pieces last := by
  induction hBound : lexer.cursor.bound using Nat.strongRecOn generalizing lexer seen with
  | ind bound ih =>
      rcases lexer.next_cases with ⟨gap, hGap, hMoved, hRest, hScanned⟩ |
        ⟨piece, leads, hStep, hScanned⟩
      · have hEnd : lexer.next.1.token.isEnd := by
          rw [hScanned]
          exact isEnd_endScanned _ _
        have hText : lexer.cursor.rest = gap := by
          rw [hMoved.rest_eq, hRest, List.append_nil]
        refine ⟨[], gap, ?_, ?_⟩
        · rw [hText]
          exact .last hGap
        · rw [drainOnto_of_isEnd hEnd, Array.toList_push, hScanned]
          rfl
      · have hMore : ¬ lexer.next.1.token.isEnd := by
          rw [hScanned]
          exact leads.not_isEnd _ _
        have hLess : lexer.next.2.cursor.bound < bound := hBound ▸ bound_next_lt hMore
        obtain ⟨pieces, last, cut, hList⟩ := ih _ hLess lexer.next.2 (seen.push lexer.next.1) rfl
        refine ⟨piece :: pieces, last, ?_, ?_⟩
        · rw [hStep.rest_eq]
          exact .piece leads cut
        · rw [drainOnto_of_more hMore, hList, Array.toList_push, List.append_assoc, hScanned,
            document_next, hStep.position_eq]
          rfl

/-- However what is ahead of a lexer is cut, its tokens are those of the cut. -/
theorem toList_drain {lexer : Lexer σ} {pieces : List Piece} {last : List Char}
    (cut : Cut lexer.cursor.rest pieces last) :
    lexer.drain.1.toList = scannedFrom lexer.document lexer.cursor.position pieces last := by
  obtain ⟨pieces', last', cut', hList⟩ := lexer.drainOnto_cut #[]
  obtain ⟨rfl, rfl⟩ := cut.unique cut'
  exact hList

end Lexer

/-- Every text can be cut. -/
theorem exists_cut (text : List Char) : ∃ pieces last, Cut text pieces last := by
  obtain ⟨pieces, last, cut, -⟩ := (Lexer.ofStream text).drainOnto_cut #[]
  rw [Lexer.ofStream, Cursor.rest_ofText] at cut
  exact ⟨pieces, last, cut⟩

/-- The tokens depend on the characters of a stream only, not on how they are supplied. -/
theorem Cut.toList_drain_ofStream {σ : Type} [FiniteStream σ] {s : σ} {pieces : List Piece}
    {last : List Char} (cut : Cut (CharStream.toList s) pieces last) (document : DocumentId) :
    (Lexer.ofStream s document).drain.1.toList = scannedFrom document .start pieces last := by
  have hRest : (Lexer.ofStream s document).cursor.rest = CharStream.toList s :=
    Cursor.rest_ofStream s
  rw [← hRest] at cut
  exact Lexer.toList_drain cut

theorem Cut.toList_tokenize {text last : List Char} {pieces : List Piece}
    (cut : Cut text pieces last) (document : DocumentId) :
    (tokenize text document).toList = scannedFrom document .start pieces last := by
  rw [← CharStream.toList_list text] at cut
  exact cut.toList_drain_ofStream document

/-- Tokenization is longest match: a text splits in one way only into gaps and lexemes that are each
the longest at their place, and its tokens are those of the lexemes, in order and each where its
lexeme begins. The end token comes behind them and nowhere else. -/
theorem tokenize_longest_match (text : List Char) (document : DocumentId) :
    ∃ pieces last, Cut text pieces last ∧
      (∀ pieces' last', Cut text pieces' last' → pieces' = pieces ∧ last' = last) ∧
      text = pieces.flatMap Piece.stretch ++ last ∧
      (tokenize text document).toList = scannedFrom document .start pieces last ∧
      (tokenize text document).toList.map (·.token.isEnd) =
        List.replicate pieces.length false ++ [true] := by
  obtain ⟨pieces, last, cut⟩ := exists_cut text
  refine ⟨pieces, last, cut, ?_, cut.text_eq, cut.toList_tokenize document, ?_⟩
  · intro pieces' last' cut'
    exact cut'.unique cut
  · rw [cut.toList_tokenize]
    exact map_isEnd_scannedFrom cut document .start

end Coll

import Coll.Proofs.Report.Likeness
import Coll.Proofs.Report.Lines
import Coll.Proofs.Report.Underline
import Coll.Proofs.Tokenization.Stability

/-!
A text whose lines end with carriage return and line feed. To the lexer the carriage return is one
more blank, or the end of a comment; a line is shown without it. So only the offsets of a text tell
how its lines end, and neither a token nor a report shows an offset.
-/

namespace Coll

open Lexeme (BeginsLexeme EndsLine Longest Trivia commentMark isBlank)
open LineTable (dropFinal)

/-- A text with a carriage return before each of its line feeds. -/
def withReturns (text : List Char) : List Char :=
  text.flatMap fun c => if c = '\n' then ['\r', '\n'] else [c]

@[simp] theorem withReturns_nil : withReturns [] = [] := rfl

@[simp] theorem withReturns_feed (rest : List Char) :
    withReturns ('\n' :: rest) = '\r' :: '\n' :: withReturns rest := rfl

theorem withReturns_cons {c : Char} (hPlain : c ≠ '\n') (rest : List Char) :
    withReturns (c :: rest) = c :: withReturns rest := by
  rw [withReturns, List.flatMap_cons, if_neg hPlain]
  rfl

theorem withReturns_append (first second : List Char) :
    withReturns (first ++ second) = withReturns first ++ withReturns second :=
  List.flatMap_append

/-- Where there is no line feed there is nothing to be put before it. -/
theorem withReturns_of_plain {text : List Char} (hPlain : '\n' ∉ text) :
    withReturns text = text := by
  induction text with
  | nil => rfl
  | cons c rest ih =>
      obtain ⟨hFirst, hRest⟩ := not_or.1 (mt List.mem_cons.2 hPlain)
      rw [withReturns_cons (Ne.symm hFirst), ih hRest]

theorem count_withReturns (text : List Char) : (withReturns text).count '\n' = text.count '\n' := by
  induction text with
  | nil => rfl
  | cons c rest ih =>
      by_cases hFeed : c = '\n'
      · subst hFeed
        simp [ih]
      · simp [withReturns_cons hFeed, hFeed, ih]

/-- A line feed with a carriage return before it leads to the same line and column as without. -/
theorem parallel_withReturns (text : List Char) : Parallel text (withReturns text) := by
  induction text with
  | nil => exact .refl []
  | cons c rest ih =>
      by_cases hFeed : c = '\n'
      · subst hFeed
        have hLine : Parallel ['\n'] ['\r', '\n'] := by
          intro p p' alike
          exact ⟨congrArg (· + 1) alike.line, rfl⟩
        exact hLine.append ih
      · rw [withReturns_cons hFeed]
        exact (Parallel.refl [c]).append ih

section Gaps

variable {gap left : List Char}

theorem head?_withReturns (hHead : left.head? ≠ some '\n') :
    (withReturns left).head? = left.head? := by
  cases left with
  | nil => rfl
  | cons c rest =>
      have hPlain : c ≠ '\n' := fun hFeed => hHead (congrArg some hFeed)
      rw [withReturns_cons hPlain]
      rfl

theorem head?_ne_feed (hLeft : BeginsLexeme left) : left.head? ≠ some '\n' := by
  intro hHead
  have hBlank := (hLeft '\n' hHead).1
  exact absurd hBlank (by decide)

/-- Trivia that begins with a blank is trivia without it. -/
theorem Lexeme.Trivia.of_blank {c : Char} (hBlank : isBlank c)
    (trivia : Trivia (c :: gap) left) : Trivia gap left := by
  cases trivia with
  | blank _ more => exact more
  | comment => simp [isBlank, commentMark] at hBlank

/-- Trivia stays trivia. A comment takes up the carriage return that comes before the end of its
line. -/
theorem Lexeme.Trivia.withReturns (trivia : Trivia gap left) (hLeft : BeginsLexeme left) :
    Trivia (withReturns gap) (withReturns left) := by
  induction trivia with
  | nil left => exact .nil _
  | @blank c stretch left hBlank _ ih =>
      by_cases hFeed : c = '\n'
      · subst hFeed
        exact .blank rfl (.blank rfl (ih hLeft))
      · rw [withReturns_cons hFeed]
        exact .blank hBlank (ih hLeft)
  | @comment body stretch left hLine hEnds _ ih =>
      have hBody : Coll.withReturns (commentMark :: body ++ stretch) =
          commentMark :: body ++ Coll.withReturns stretch := by
        rw [withReturns_append, withReturns_of_plain]
        simpa [commentMark] using hLine
      have more := ih hLeft
      rw [hBody]
      cases stretch with
      | nil =>
          refine .comment hLine ?_ more
          have hHead := head?_ne_feed hLeft
          rwa [withReturns_nil, List.nil_append, EndsLine, head?_withReturns hHead]
      | cons c stretch =>
          obtain rfl : c = '\n' := hEnds c rfl
          rw [withReturns_feed] at more ⊢
          have hReturn : '\n' ∉ body ++ ['\r'] := by simpa using hLine
          have hComment : Trivia (commentMark :: (body ++ ['\r']) ++
              '\n' :: Coll.withReturns stretch) (Coll.withReturns left) :=
            .comment hReturn (fun _ hc => (Option.some.inj hc).symm) (more.of_blank rfl)
          simpa using hComment

theorem Lexeme.Longest.withReturns (longest : Longest Trivia gap left) :
    Longest Trivia (withReturns gap) (withReturns left) := by
  have hLeft := longest.beginsLexeme
  refine (longest.mem.withReturns hLeft).longest ?_
  rwa [BeginsLexeme, head?_withReturns (head?_ne_feed hLeft)]

end Gaps

/-- The same lexeme behind a gap with carriage returns. -/
def Piece.withReturns (piece : Piece) : Piece := { piece with gap := Coll.withReturns piece.gap }

theorem Piece.alike_withReturns (piece : Piece) : piece.Alike piece.withReturns :=
  ⟨parallel_withReturns piece.gap, rfl, rfl⟩

/-- A lexeme without a line feed is still as long as it can be: what comes behind it is what came
before, or a blank. -/
theorem Piece.Leads.withReturns {piece : Piece} {left : List Char} (leads : piece.Leads left)
    (hPlain : '\n' ∉ piece.lexeme) : piece.withReturns.Leads (Coll.withReturns left) := by
  have leads' : piece.Leads (Coll.withReturns left) := by
    by_cases hHead : left.head? = some '\n'
    · obtain ⟨rest, rfl⟩ := List.head?_eq_some_iff.1 hHead
      refine leads.of_separated ?_ fun c hc => ?_
      · intro hOpen
        have hNil := (hOpen ▸ leads.form).left_eq_nil
        cases hNil
      · exact Option.some.inj hc ▸ .inl rfl
    · exact leads.of_head? (head?_withReturns hHead)
  have hGap := leads.gap.withReturns
  rw [withReturns_append, withReturns_of_plain hPlain] at hGap
  exact ⟨hGap, leads'.nonempty, leads'.lexeme, leads'.form⟩

theorem Cut.withReturns {text last : List Char} {pieces : List Piece} (cut : Cut text pieces last)
    (hPlain : ∀ piece ∈ pieces, '\n' ∉ piece.lexeme) :
    Cut (Coll.withReturns text) (pieces.map Piece.withReturns) (Coll.withReturns last) := by
  induction cut with
  | last longest => exact .last longest.withReturns
  | @piece piece left last pieces leads _ ih =>
      obtain ⟨hFirst, hRest⟩ := List.forall_mem_cons.1 hPlain
      have hText : Coll.withReturns (piece.stretch ++ left) =
          piece.withReturns.stretch ++ Coll.withReturns left := by
        rw [Piece.stretch, withReturns_append, withReturns_append, withReturns_of_plain hFirst]
        rfl
      rw [hText]
      exact .piece (leads.withReturns hFirst) (ih hRest)

/-- The characters of a text in a stretch of it. -/
def Span.within (span : Span) (text : List Char) : List Char :=
  (text.drop span.start).take span.length

/-- The lexeme of every piece stands where its token says. -/
theorem Cut.exists_within {whole text last : List Char} {pieces : List Piece}
    (cut : Cut text pieces last) {document : DocumentId} {p : Text.Position}
    (hText : whole.drop p.offset = text) {piece : Piece} (hMem : piece ∈ pieces) :
    ∃ scanned ∈ scannedFrom document p pieces last, scanned.span.within whole = piece.lexeme := by
  induction cut generalizing p with
  | last => cases hMem
  | @piece first left last pieces leads _ ih =>
      rcases List.mem_cons.1 hMem with rfl | hMem
      · refine ⟨_, List.mem_cons_self, ?_⟩
        have hStart : whole.drop (p.offset + piece.gap.length) = piece.lexeme ++ left := by
          rw [← List.drop_drop, hText, Piece.stretch, List.append_assoc, List.drop_left]
        simp only [Piece.scanned, Span.within, Span.length, Text.Position.offset_after, hStart,
          Nat.add_sub_cancel_left, List.take_left]
      · have hLeft : whole.drop (p.after first.stretch).offset = left := by
          rw [Text.Position.offset_after, ← List.drop_drop, hText, List.drop_left]
        obtain ⟨scanned, hScanned, hWithin⟩ := ih hLeft hMem
        exact ⟨scanned, List.mem_cons_of_mem _ hScanned, hWithin⟩

/-- A text of which no lexeme goes over the end of a line. -/
def LexemesInLines (text : List Char) : Prop :=
  ∀ scanned ∈ (tokenize text).toList, '\n' ∉ scanned.span.within text

instance (text : List Char) : Decidable (LexemesInLines text) :=
  inferInstanceAs (Decidable (∀ scanned ∈ (tokenize text).toList, _))

/-- With carriage returns before its line feeds a text has the tokens that it has without. -/
theorem alike_withReturns {text : List Char} (hLines : LexemesInLines text)
    (document document' : DocumentId) :
    List.Forall₂ Scanned.Alike (tokenize text document).toList
      (tokenize (withReturns text) document').toList := by
  obtain ⟨pieces, last, cut⟩ := exists_cut text
  have hPlain : ∀ piece ∈ pieces, '\n' ∉ piece.lexeme := by
    intro piece hPiece
    have hStart : text.drop Text.Position.start.offset = text := rfl
    obtain ⟨scanned, hScanned, hWithin⟩ := cut.exists_within hStart hPiece
    rw [← cut.toList_tokenize] at hScanned
    exact hWithin ▸ hLines scanned hScanned
  rw [cut.toList_tokenize, (cut.withReturns hPlain).toList_tokenize]
  refine alike_scannedFrom ?_ (parallel_withReturns last) (.refl _)
  exact List.forall₂_map_right_iff.2 (List.forall₂_same.2 fun piece _ => piece.alike_withReturns)

/-- The lines of a text are its lines with a carriage return behind each but the last. -/
theorem LineOf.withReturns {text above line below : List Char}
    (lineOf : LineOf text above line below) :
    ∃ line' below', LineOf (Coll.withReturns text) (Coll.withReturns above) line' below' ∧
      (line' = line ∨ line' = line ++ ['\r']) := by
  have hText : Coll.withReturns text =
      Coll.withReturns above ++ line ++ Coll.withReturns below := by
    rw [lineOf.text_eq, withReturns_append, withReturns_append, withReturns_of_plain lineOf.plain]
  have hBegins : ∀ c ∈ (Coll.withReturns above).getLast?, c = '\n' := by
    rcases List.eq_nil_or_concat above with rfl | ⟨front, c, rfl⟩
    · nofun
    · obtain rfl : c = '\n' := lineOf.begins c (by simp)
      simp [withReturns_append]
  cases below with
  | nil =>
      rw [withReturns_nil] at hText
      exact ⟨line, [], ⟨hText, hBegins, lineOf.plain, nofun⟩, .inl rfl⟩
  | cons c below =>
      obtain rfl : c = '\n' := lineOf.ends c rfl
      have hPlain : '\n' ∉ line ++ ['\r'] := by simpa using lineOf.plain
      refine ⟨line ++ ['\r'], '\n' :: Coll.withReturns below,
        ⟨?_, hBegins, hPlain, fun _ hc => (Option.some.inj hc).symm⟩, .inr rfl⟩
      rw [hText, withReturns_feed]
      simp

/-- Documents that differ in the carriage returns before their line feeds have the same lines. -/
theorem Document.line_withReturns {known known' : Document}
    (hContent : known'.content.toList = withReturns known.content.toList)
    (hReturn : '\r' ∉ known.content.toList) (line : Nat) : known.line line = known'.line line := by
  have hCount : known'.lineCount = known.lineCount := by
    rw [known'.lineCount_eq, known.lineCount_eq, hContent, count_withReturns]
  by_cases hLine : line = 0 ∨ known.lineCount < line
  · rw [known.line_eq_error hLine, known'.line_eq_error (hCount ▸ hLine), hCount]
  · obtain ⟨hPositive, hLast⟩ := not_or.1 hLine
    obtain ⟨above, row, below, lineOf, rfl⟩ :=
      known.exists_lineOf_of_number (Nat.pos_of_ne_zero hPositive) (Nat.le_of_not_lt hLast)
    obtain ⟨row', below', lineOf', hRow⟩ := lineOf.withReturns
    have hShown : dropFinal '\r' row' = dropFinal '\r' row := by
      have hMem : '\r' ∉ row := by
        intro hMem
        apply hReturn
        rw [lineOf.text_eq]
        simp [hMem]
      have hKept : dropFinal '\r' row = row := if_neg fun h => hMem (List.mem_of_getLast? h)
      rcases hRow with rfl | rfl
      · rfl
      · rw [hKept]
        simp [dropFinal]
    have hLine := known.line_eq lineOf
    have hLine' := known'.line_eq (hContent ▸ lineOf')
    rw [count_withReturns, hShown] at hLine'
    exact hLine.trans hLine'.symm

/-- How its lines end makes no difference to a text. If it has no carriage return and no lexeme of
it goes over the end of a line, then with a carriage return before each line feed it has the same
tokens in the same lines and columns; and whatever other documents come in before and after it, the
reports are the same. -/
theorem line_endings_alike {content : String} (hReturn : '\r' ∉ content.toList)
    (hLines : LexemesInLines content.toList) :
    let returned := String.ofList (withReturns content.toList)
    (∀ document document', (tokenize returned.toList document').toList.map (·.token) =
      (tokenize content.toList document).toList.map (·.token)) ∧
    ∀ (catalog catalog' : Catalog) (name : String) (more more' : List (String × String)),
      (reportsOn returned.toList catalog'.nextId).map
          ((catalog'.add name returned).addAll more').render =
        (reportsOn content.toList catalog.nextId).map
          ((catalog.add name content).addAll more).render := by
  intro returned
  have hContent : returned.toList = withReturns content.toList := String.toList_ofList
  have hAlike := alike_withReturns hLines
  rw [hContent]
  constructor
  · intro document document'
    have hTokens := (hAlike document document').imp fun _ _ alike => alike.token
    rw [← List.forall₂_eq_eq_eq, List.forall₂_map_left_iff, List.forall₂_map_right_iff]
    exact hTokens.flip.imp fun _ _ h => h.symm
  · intro catalog catalog' name more more'
    let known : Document := { id := catalog.nextId, name, content }
    let known' : Document := { id := catalog'.nextId, name, content := returned }
    have hGet : ((catalog.add name content).addAll more).get catalog.nextId = .ok known :=
      Catalog.get_addAll_of_get (catalog.get_add_nextId name content) more
    have hGet' : ((catalog'.add name returned).addAll more').get catalog'.nextId = .ok known' :=
      Catalog.get_addAll_of_get (catalog'.get_add_nextId name returned) more'
    have hName : known.name = known'.name := rfl
    have hLine : ∀ line, known.line line = known'.line line :=
      Document.line_withReturns hContent hReturn
    have hScanned := hAlike catalog.nextId catalog'.nextId
    rw [← hContent] at hScanned ⊢
    have hReports := Catalog.map_render_reportsOn hGet hGet' hName hLine hScanned
    exact hReports.symm

/-- A comment, an empty line and two errors, the second at the end of its line. -/
theorem line_endings_alike_brokenLines :
    let content := "x # \"\n\ny = @\n\"a\\n\" &\n"
    let returned := "x # \"\r\n\r\ny = @\r\n\"a\\n\" &\r\n"
    '\r' ∉ content.toList ∧ LexemesInLines content.toList ∧
    (tokenize returned.toList 1).toList.map (·.token) =
      (tokenize content.toList).toList.map (·.token) ∧
    (reportsOn returned.toList 1).map ((({} : Catalog).add "b" "").add "a" returned).render =
      ["error[E1001]: unexpected character '@'\n  --> a:3:5\n  3 | y = @\n    |     ^",
        "error[E1005]: unsupported operator `&`\n  --> a:4:7\n  4 | \"a\\n\" &\n    |       ^\n" ++
          "  = help: use `&&` for logical and"] := by
  intro content returned
  have hReturn : '\r' ∉ content.toList := by decide
  have hLines : LexemesInLines content.toList := by decide +kernel
  have hReturned : String.ofList (withReturns content.toList) = returned := by decide +kernel
  obtain ⟨hTokens, hReports⟩ := line_endings_alike hReturn hLines
  rw [hReturned] at hTokens hReports
  refine ⟨hReturn, hLines, hTokens 0 1, ?_⟩
  have hSame := hReports {} (({} : Catalog).add "b" "") "a" [] []
  exact hSame.trans (by decide +kernel)

end Coll

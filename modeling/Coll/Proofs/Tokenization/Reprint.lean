import Coll.Proofs.Lexeme.Spelling
import Coll.Proofs.Report.Flaws

/-!
Tokens printed and read again. Whatever trivia the tokens of a text without errors are printed with,
and however their literals are written, the printed text has the same tokens.
-/

namespace Coll

open Lexeme (Form Outcome Separated Spacing Spelled Trivia)

/-- Tokens written one after the other, with spacing between neighbours and any trivia behind the
last. -/
inductive Written : List Token → List Char → Prop where
  | nil {last : List Char} (trivia : Trivia last []) : Written [] last
  | cons {token : Token} {tokens : List Token} {spelling gap text : List Char}
      (spelled : Spelled token.kind token.text spelling) (spacing : Spacing gap)
      (apart : tokens ≠ [] → gap ≠ []) (more : Written tokens text) :
      Written (token :: tokens) (spelling ++ gap ++ text)

/-- `text` consists of spacing and of the tokens, written behind it. -/
def Prints (tokens : List Token) (text : List Char) : Prop :=
  ∃ gap written, Spacing gap ∧ Written tokens written ∧ text = gap ++ written

/-- The token of a lexeme without a fault. -/
def Token.Lexical (token : Token) : Prop :=
  ∃ lexeme left, Form lexeme left (.lexeme token.kind token.text)

/-- What a token says apart from its place. -/
def Token.content (token : Token) : Kind × String := (token.kind, token.text)

namespace Cut

variable {text last : List Char} {pieces : List Piece}

/-- A token that is neither the end token nor an error is that of a lexeme without a fault. -/
theorem lexical (cut : Cut text pieces last) (document : DocumentId) (p : Text.Position) :
    ∀ scanned ∈ scannedFrom document p pieces last, ¬ scanned.token.isEnd →
      ¬ scanned.token.isError → scanned.token.Lexical := by
  intro scanned hMem hMore hClean
  rcases eq_scanned_of_mem hMem with ⟨q, rfl⟩ | ⟨piece, hPiece, q, rfl⟩
  · exact absurd (isEnd_endScanned document q) hMore
  · obtain ⟨left, leads⟩ := cut.exists_leads hPiece
    have form := leads.form
    cases hOutcome : piece.outcome with
    | lexeme kind text =>
        rw [hOutcome] at form
        refine ⟨piece.lexeme, left, ?_⟩
        simp only [Piece.scanned, hOutcome]
        exact form
    | malformed fault =>
        simp [Piece.scanned, hOutcome, Outcome.kind, Token.isError] at hClean

end Cut

theorem content_scannedFrom (document : DocumentId) (p : Text.Position) (pieces : List Piece)
    (last : List Char) :
    (scannedFrom document p pieces last).map (·.token.content) =
      pieces.map (fun piece => (piece.outcome.kind, piece.outcome.text)) ++
        [(.endOfInput, "")] := by
  induction pieces generalizing p with
  | nil => rfl
  | cons piece pieces ih =>
      rw [scannedFrom, List.map_cons, ih]
      rfl

/-- Pieces without faults are not reported. -/
theorem flatMap_report_eq_nil {pieces : List Piece}
    (hClean : ∀ piece ∈ pieces, piece.outcome.fault? = none) (document : DocumentId)
    (p : Text.Position) (last : List Char) :
    (scannedFrom document p pieces last).flatMap (·.report.toList) = [] := by
  rw [List.flatMap_eq_nil_iff]
  intro scanned hMem
  rcases eq_scanned_of_mem hMem with ⟨q, rfl⟩ | ⟨piece, hPiece, q, rfl⟩
  · rfl
  · simp [Piece.scanned, hClean piece hPiece]

namespace Written

variable {tokens : List Token} {text gap : List Char}

/-- Behind spacing that may only be missing before the last trivia, nothing goes on. -/
theorem separated (written : Written tokens text) (spacing : Spacing gap)
    (apart : tokens ≠ [] → gap ≠ []) : Separated (gap ++ text) := by
  cases written with
  | nil trivia =>
      have hAll : Trivia (gap ++ text) [] := (spacing.trivia _).append trivia
      exact hAll.separated
  | cons =>
      obtain ⟨c, rest, rfl⟩ := List.exists_cons_of_ne_nil (apart (List.cons_ne_nil _ _))
      exact (spacing.trivia []).separated

/-- What is written is cut into the lexemes that were written. -/
theorem exists_cut (written : Written tokens text) (hLexical : ∀ token ∈ tokens, token.Lexical)
    (spacing : Spacing gap) :
    ∃ pieces last, Cut (gap ++ text) pieces last ∧
      pieces.map (·.outcome) = tokens.map fun token => .lexeme token.kind token.text := by
  induction written generalizing gap with
  | @nil last trivia =>
      have hAll : Trivia (gap ++ last) [] := (spacing.trivia _).append (by simpa using trivia)
      exact ⟨[], gap ++ last, .last (hAll.longest (by simp [Lexeme.BeginsLexeme])), rfl⟩
  | @cons token tokens spelling between text spelled hBetween apart more ih =>
      obtain ⟨⟨lexeme, left, form⟩, hMore⟩ := List.forall_mem_cons.1 hLexical
      obtain ⟨pieces, last, cut, hOutcomes⟩ := ih hMore hBetween
      have form' := form.of_spelled spelled (between ++ text)
      let piece : Piece := ⟨gap, spelling, .lexeme token.kind token.text⟩
      have hGap := (spacing.trivia _).longest (form'.beginsLexeme (between ++ text))
      have hLexeme := form'.longest_of_separated (more.separated hBetween apart)
      have leads : piece.Leads (between ++ text) := ⟨hGap, form'.ne_nil, hLexeme, form'⟩
      have cut' := Cut.piece leads cut
      rw [Piece.stretch, List.append_assoc, ← List.append_assoc spelling] at cut'
      exact ⟨piece :: pieces, last, cut', by rw [List.map_cons, hOutcomes, List.map_cons]⟩

end Written

/-- Printed tokens are read as they were, and nothing is reported. -/
theorem Prints.content_tokenize {tokens : List Token} {text : List Char}
    (prints : Prints tokens text) (hLexical : ∀ token ∈ tokens, token.Lexical)
    (document : DocumentId) :
    (tokenize text document).toList.map (·.token.content) =
        tokens.map Token.content ++ [(.endOfInput, "")] ∧
      (({} : Findings).addAll (tokenize text document)).toList = [] := by
  obtain ⟨gap, written, spacing, hWritten, rfl⟩ := prints
  obtain ⟨pieces, last, cut, hOutcomes⟩ := hWritten.exists_cut hLexical spacing
  constructor
  · have hContents := congrArg (List.map fun outcome : Outcome => (outcome.kind, outcome.text))
      hOutcomes
    rw [List.map_map, List.map_map] at hContents
    rw [cut.toList_tokenize, content_scannedFrom]
    exact congrArg (· ++ _) hContents
  · rw [Findings.toList_addAll, cut.toList_tokenize, flatMap_report_eq_nil]
    · rfl
    · intro piece hPiece
      have hMem := List.mem_map_of_mem (f := (·.outcome)) hPiece
      rw [hOutcomes] at hMem
      obtain ⟨token, -, hToken⟩ := List.mem_map.1 hMem
      rw [← hToken]
      rfl

/-- Printing and reading again is the identity on kinds and texts. If a text has no errors, every
text that its tokens are printed as has the same tokens apart from their places, and no errors
either. A number alone, written as its token says, is read as that number again. -/
theorem content_tokenize_of_prints {text printed : List Char} {document : DocumentId}
    (hClean : ∀ scanned ∈ (tokenize text document).toList, ¬ scanned.token.isError)
    (prints : Prints (((tokenize text document).toList.filter (!·.token.isEnd)).map (·.token))
      printed) (documentPrinted : DocumentId) :
    (tokenize printed documentPrinted).toList.map (·.token.content) =
        (tokenize text document).toList.map (·.token.content) ∧
      (({} : Findings).addAll (tokenize printed documentPrinted)).toList = [] ∧
      ∀ scanned ∈ (tokenize text document).toList,
        scanned.token.kind = .literal .integer ∨ scanned.token.kind = .literal .float →
        (tokenize scanned.token.text.toList documentPrinted).toList.map (·.token.content) =
          [scanned.token.content, (.endOfInput, "")] := by
  obtain ⟨pieces, last, cut⟩ := exists_cut text
  have hAll := cut.filter_not_isEnd document .start
  have hLexical := cut.lexical document .start
  rw [← cut.toList_tokenize] at hAll hLexical
  have hTokens : ∀ token ∈ ((tokenize text document).toList.filter (!·.token.isEnd)).map (·.token),
      token.Lexical := by
    intro token hToken
    obtain ⟨scanned, hScanned, rfl⟩ := List.mem_map.1 hToken
    obtain ⟨hMem, hMore⟩ := List.mem_filter.1 hScanned
    exact hLexical scanned hMem (by simpa using hMore) (hClean scanned hMem)
  obtain ⟨hContents, hReports⟩ := prints.content_tokenize hTokens documentPrinted
  refine ⟨?_, hReports, ?_⟩
  · rw [hContents, List.map_map]
    exact (List.map_append ..).symm.trans (congrArg _ hAll)
  · intro scanned hMem hKind
    have hMore : ¬ scanned.token.isEnd := by
      rcases hKind with h | h <;> simp [Token.isEnd, h]
    have other : scanned.token.kind ≠ .literal .string := by
      rcases hKind with h | h <;> simp [h]
    have hWritten : Written [scanned.token] (scanned.token.text.toList ++ [] ++ []) :=
      .cons (.plain other) .nil (absurd rfl) (.nil (.nil []))
    have hAlone : Prints [scanned.token] scanned.token.text.toList :=
      ⟨[], _, .nil, hWritten, by simp⟩
    have lexical := hLexical scanned hMem hMore (hClean scanned hMem)
    exact (hAlone.content_tokenize (List.forall_mem_singleton.2 lexical) documentPrinted).1

/-- Numbers with zeros too many and too few, a literal with an escape and a sign, printed between
comments and with the line feed of the literal as it is. -/
theorem content_tokenize_of_prints_literals :
    (∀ scanned ∈ (tokenize "007 .5\"a\\n\"->".toList).toList, ¬ scanned.token.isError) ∧
    Prints (((tokenize "007 .5\"a\\n\"->".toList).toList.filter (!·.token.isEnd)).map (·.token))
      "#c\n7 0.5#\n\"a\n\"\t->#".toList ∧
    (tokenize "#c\n7 0.5#\n\"a\n\"\t->#".toList).toList.map (·.token.content) =
      [(.literal .integer, "7"), (.literal .float, "0.5"), (.literal .string, "a\n"),
        (.delimiter .arrow, "->"), (.endOfInput, "")] := by
  have hClean : ∀ scanned ∈ (tokenize "007 .5\"a\\n\"->".toList).toList,
      ¬ scanned.token.isError := by decide +kernel
  have hTokens : ((tokenize "007 .5\"a\\n\"->".toList).toList.filter (!·.token.isEnd)).map
      (·.token) = [⟨.literal .integer, "7", 1, 1⟩, ⟨.literal .float, "0.5", 1, 5⟩,
        ⟨.literal .string, "a\n", 1, 7⟩, ⟨.delimiter .arrow, "->", 1, 12⟩] := by decide +kernel
  have items : Lexeme.Items ['a', '\n'] "a\n".toList :=
    .plain (by decide) (by decide) (.plain (by decide) (by decide) .nil)
  have hLast : Trivia ['#'] [] := .comment List.not_mem_nil nofun (.nil [])
  have hArrow : Written [⟨.delimiter .arrow, "->", 1, 12⟩] _ :=
    .cons (.plain nofun) .nil (absurd rfl) (.nil hLast)
  have hString : Written [⟨.literal .string, "a\n", 1, 7⟩, _] _ :=
    .cons (.literal items) (.blank (c := '\t') rfl .nil) (fun _ => List.cons_ne_nil _ _) hArrow
  have hFloat : Written [⟨.literal .float, "0.5", 1, 5⟩, _, _] _ :=
    .cons (.plain nofun) (.comment List.not_mem_nil .nil) (fun _ => List.cons_ne_nil _ _) hString
  have hInteger : Written [⟨.literal .integer, "7", 1, 1⟩, _, _, _] _ :=
    .cons (.plain nofun) (.blank (c := ' ') rfl .nil) (fun _ => List.cons_ne_nil _ _) hFloat
  have hStart : Spacing _ := @Spacing.comment ['c'] [] (by decide) .nil
  have hPrints : Prints (((tokenize "007 .5\"a\\n\"->".toList).toList.filter
      (!·.token.isEnd)).map (·.token)) "#c\n7 0.5#\n\"a\n\"\t->#".toList := by
    rw [hTokens]
    exact ⟨_, _, hStart, hInteger, by decide⟩
  refine ⟨hClean, hPrints, ?_⟩
  rw [(content_tokenize_of_prints hClean hPrints 0).1]
  decide +kernel

end Coll

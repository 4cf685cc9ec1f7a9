import Coll.Proofs.Lexer.Request

/-!
Draining a lexer. In whatever way the tokens are asked for, and whatever is skipped or looked up
between two of them, they come as `tokenize` lists them. The end is a state that nothing leaves.
-/

namespace Coll

namespace Lexeme

variable {σ : Type} [FiniteStream σ]

/-- Where a lexeme begins, and at the end of the input, there is nothing to skip. -/
theorem skipTrivia_of_beginsLexeme {cursor : Cursor σ} (hRest : BeginsLexeme cursor.rest) :
    skipTrivia cursor = cursor := by
  rw [skipTrivia]
  split
  · rfl
  · next c hHere =>
      obtain ⟨hBlank, hMark⟩ := hRest c (by simp [hHere])
      simp [hBlank, hMark]

@[simp] theorem skipTrivia_skipTrivia (cursor : Cursor σ) :
    skipTrivia (skipTrivia cursor) = skipTrivia cursor :=
  skipTrivia_of_beginsLexeme (beginsLexeme_skipTrivia cursor)

end Lexeme

namespace Lexer

section Steps

variable {σ : Type} [FiniteStream σ]

theorem begin_skipTrivia (lexer : Lexer σ) : lexer.skipTrivia.begin = lexer.begin := by
  simp [begin, skipTrivia]

theorem begin_begin (lexer : Lexer σ) : lexer.begin.begin = lexer.begin := by
  simp [begin, skipTrivia]

/-- Skipping does not change the next token: it would have been skipped anyway. -/
theorem next_skipTrivia (lexer : Lexer σ) : lexer.skipTrivia.next = lexer.next := by
  unfold next
  rw [begin_skipTrivia]

/-- The token that `next` gives when it has been asked `count` times before. -/
def given (lexer : Lexer σ) : Nat → Scanned
  | 0 => lexer.next.1
  | count + 1 => lexer.next.2.given count

theorem given_skipTrivia (lexer : Lexer σ) : lexer.skipTrivia.given = lexer.given := by
  funext count
  cases count <;> simp only [given, next_skipTrivia]

/-- The lexer is at the end of the input and its token begins there. -/
structure Ended (lexer : Lexer σ) : Prop where
  begun : lexer.begin = lexer
  exhausted : lexer.cursor.current = none

/-- The end token is given only at the end of the input. -/
theorem over_of_isEnd {lexer : Lexer σ} (hEnd : lexer.next.1.token.isEnd) :
    lexer.begin.cursor.current = none := by
  cases hHere : lexer.begin.cursor.current with
  | none => rfl
  | some c =>
      have sound := Lexeme.sound_scan lexer.begin.cursor
      rw [next_of_current hHere] at hEnd
      exact absurd (beq_iff_eq.1 hEnd) sound.ordinary.1

theorem ended_next {lexer : Lexer σ} (hEnd : lexer.next.1.token.isEnd) : lexer.next.2.Ended := by
  have hOver := over_of_isEnd hEnd
  rw [next_of_atEnd hOver]
  exact ⟨lexer.begin_begin, hOver⟩

theorem Ended.next_eq {lexer : Lexer σ} (ended : lexer.Ended) :
    lexer.next = (endScanned lexer.document lexer.cursor.position, lexer) := by
  have hHere : lexer.begin.cursor.current = none := by rw [ended.begun, ended.exhausted]
  rw [next_of_atEnd hHere, ended.begun]

theorem Ended.skipTrivia_eq {lexer : Lexer σ} (ended : lexer.Ended) : lexer.skipTrivia = lexer := by
  have hRest : Lexeme.BeginsLexeme lexer.cursor.rest := by
    simp [Lexeme.BeginsLexeme, ended.exhausted]
  rw [skipTrivia, Lexeme.skipTrivia_of_beginsLexeme hRest]

theorem Ended.given_eq {lexer : Lexer σ} (ended : lexer.Ended) (count : Nat) :
    lexer.given count = endScanned lexer.document lexer.cursor.position := by
  induction count with
  | zero => rw [given, ended.next_eq]
  | succ count ih => rw [given, ended.next_eq, ih]

/-- Once the end token has been given, it is given for ever. -/
theorem given_of_isEnd {lexer : Lexer σ} (hEnd : lexer.next.1.token.isEnd) (count : Nat) :
    lexer.given count = lexer.next.1 := by
  cases count with
  | zero => rfl
  | succ count =>
      have hOver := over_of_isEnd hEnd
      rw [given, (ended_next hEnd).given_eq, next_of_atEnd hOver]
      rfl

/-- A token that is given is an error just when it is reported. -/
theorem isError_given (lexer : Lexer σ) (count : Nat) :
    (lexer.given count).token.isError = (lexer.given count).report.isSome := by
  induction count generalizing lexer with
  | zero =>
      obtain ⟨fault?, hReport, hError⟩ := (lexer.performs_next.gave _ rfl).report
      rw [given, hReport, hError, Option.isSome_map]
  | succ count ih => exact ih lexer.next.2

theorem toList_drain_of_isEnd {lexer : Lexer σ} (hEnd : lexer.next.1.token.isEnd) :
    lexer.drain.1.toList = [lexer.next.1] := by
  rw [drain, drainOnto_of_isEnd hEnd]
  rfl

theorem toList_drain_of_more {lexer : Lexer σ} (hMore : ¬ lexer.next.1.token.isEnd) :
    lexer.drain.1.toList = lexer.next.1 :: lexer.next.2.drain.1.toList := by
  obtain ⟨pieces, last, cut, hList⟩ := lexer.next.2.drainOnto_cut (#[].push lexer.next.1)
  rw [drain, drainOnto_of_more hMore, hList, toList_drain cut]
  rfl

theorem toList_drain_ne_nil (lexer : Lexer σ) : lexer.drain.1.toList ≠ [] := by
  by_cases hEnd : lexer.next.1.token.isEnd
  · simp [toList_drain_of_isEnd hEnd]
  · simp [toList_drain_of_more hEnd]

/-- What is given are the tokens that draining finds, and from then on the last of them. -/
theorem given_eq_getD (lexer : Lexer σ) {last : Scanned}
    (hLast : lexer.drain.1.toList.getLast? = some last) (count : Nat) :
    lexer.given count = lexer.drain.1.toList[count]?.getD last := by
  -- every token but the end token lowers the bound of the cursor
  induction hBound : lexer.cursor.bound using Nat.strongRecOn generalizing lexer count with
  | ind bound ih =>
      by_cases hEnd : lexer.next.1.token.isEnd
      · have hSame : lexer.given count = lexer.next.1 := given_of_isEnd hEnd count
        rw [toList_drain_of_isEnd hEnd] at hLast ⊢
        obtain rfl : lexer.next.1 = last := by simpa using hLast
        cases count <;> simpa using hSame
      · have hLess : lexer.next.2.cursor.bound < bound := hBound ▸ bound_next_lt hEnd
        rw [toList_drain_of_more hEnd] at hLast ⊢
        cases count with
        | zero => rfl
        | succ count =>
            have hMore : lexer.next.2.drain.1.toList ≠ [] := lexer.next.2.toList_drain_ne_nil
            rw [List.getLast?_cons_of_ne_nil hMore] at hLast
            exact ih _ hLess lexer.next.2 hLast count rfl

/-- The last token of a text is the end token, where the text ends. -/
theorem getLast?_tokenize (text : List Char) (document : DocumentId) :
    (tokenize text document).toList.getLast? =
      some (endScanned document (Text.Position.start.after text)) := by
  obtain ⟨pieces, gap, cut⟩ := exists_cut text
  have hAll := cut.filter_not_isEnd document .start
  rw [cut.toList_tokenize, ← hAll]
  exact List.getLast?_concat

/-- What is given of a stream are the tokens of its characters. -/
theorem given_ofStream (s : σ) (document : DocumentId) (count : Nat) :
    (ofStream s document).given count =
      (tokenize (CharStream.toList s) document).toList[count]?.getD
        (endScanned document (Text.Position.start.after (CharStream.toList s))) := by
  obtain ⟨pieces, gap, cut⟩ := exists_cut (CharStream.toList s)
  have hTokens : (ofStream s document).drain.1.toList =
      (tokenize (CharStream.toList s) document).toList := by
    rw [cut.toList_drain_ofStream, cut.toList_tokenize]
  have hLast := getLast?_tokenize (CharStream.toList s) document
  rw [← hTokens] at hLast
  rw [(ofStream s document).given_eq_getD hLast, hTokens]

end Steps

/-- What can be asked of a lexer while it is drained. -/
inductive Pull where
  | next
  /-- The next token, none at the end of the input. -/
  | next?
  | skipTrivia
  | line
  | column
  deriving DecidableEq, Repr

/-- What is returned: a token, or none in its place, or a number. -/
inductive Answer where
  | token (scanned? : Option Scanned)
  | skipped
  | number (n : Nat)
  deriving DecidableEq, Repr

namespace Pull

def asksToken : Pull → Bool
  | next | next? => true
  | skipTrivia | line | column => false

/-- How a token is returned. -/
def shows (pull : Pull) (scanned : Scanned) : Option Scanned :=
  if pull = next? ∧ scanned.token.isEnd then none else some scanned

/-- What is returned for ever once `last`, the end token, has been given. -/
def atEnd (last : Scanned) : Pull → Answer
  | next => .token (some last)
  | next? => .token none
  | skipTrivia => .skipped
  | line => .number last.token.line
  | column => .number last.token.column

end Pull

def Answer.token? : Answer → Option (Option Scanned)
  | token scanned? => some scanned?
  | skipped | number _ => none

def pull {σ : Type} [FiniteStream σ] (lexer : Lexer σ) : Pull → Answer × Lexer σ
  | .next => (.token (some lexer.next.1), lexer.next.2)
  | .next? => (.token lexer.next?.1, lexer.next?.2)
  | .skipTrivia => (.skipped, lexer.skipTrivia)
  | .line => (.number lexer.line, lexer)
  | .column => (.number lexer.column, lexer)

/-- What is reported while an answer is found. Only scanning reports anything. -/
def reported {σ : Type} [FiniteStream σ] (lexer : Lexer σ) : Pull → Option Diagnostic
  | .next | .next? => lexer.next.1.report
  | .skipTrivia | .line | .column => none

/-- At the end of the input nothing that is asked moves the lexer. -/
theorem Ended.pull_eq {σ : Type} [FiniteStream σ] {lexer : Lexer σ} (ended : lexer.Ended)
    (pull : Pull) : lexer.pull pull = (pull.atEnd (lexer.given 0), lexer) := by
  have hNext := ended.next_eq
  rw [ended.given_eq]
  cases pull with
  | next => rw [Lexer.pull, hNext, Pull.atEnd]
  | next? => simp [Lexer.pull, next?, hNext, isEnd_endScanned, Pull.atEnd]
  | skipTrivia => rw [Lexer.pull, ended.skipTrivia_eq, Pull.atEnd]
  | line | column => rfl

end Lexer

open Lexer (Answer Pull)

/-- A lexer and what it has reported. -/
structure Reporting (σ : Type) where
  lexer : Lexer σ
  findings : Findings := {}

namespace Reporting

variable {σ : Type} [FiniteStream σ]

def ofStream (s : σ) (document : DocumentId) : Reporting σ where
  lexer := .ofStream s document

def pull (reporting : Reporting σ) (pull : Pull) : Answer × Reporting σ :=
  let (answer, lexer) := reporting.lexer.pull pull
  (answer,
    { lexer, findings := reporting.findings.addOption (reporting.lexer.reported pull) })

/-- The answers to one question after the other, and the lexer after them. -/
def run (reporting : Reporting σ) : List Pull → List Answer × Reporting σ
  | [] => ([], reporting)
  | pull :: pulls =>
    let (answer, later) := reporting.pull pull
    let (answers, last) := later.run pulls
    (answer :: answers, last)

/-- What asking once does: the first token to be given is returned and reported if one is asked for,
and the others are still to be given. -/
structure Serves (reporting : Reporting σ) (pull : Pull) (answer : Answer)
    (later : Reporting σ) : Prop where
  token : answer.token? =
    if pull.asksToken then some (pull.shows (reporting.lexer.given 0)) else none
  findings : later.findings.toList = reporting.findings.toList ++
    if pull.asksToken then (reporting.lexer.given 0).report.toList else []
  given : ∀ count, later.lexer.given count =
    reporting.lexer.given (if pull.asksToken then count + 1 else count)

theorem serves (reporting : Reporting σ) (pull : Pull) :
    reporting.Serves pull (reporting.pull pull).1 (reporting.pull pull).2 := by
  cases pull with
  | next => exact ⟨rfl, Findings.toList_addOption _ _, fun _ => rfl⟩
  | next? =>
      have hShown : reporting.lexer.next?.1 = Pull.next?.shows (reporting.lexer.given 0) := by
        simp [Lexer.next?, Pull.shows, Lexer.given]
      exact ⟨congrArg some hShown, Findings.toList_addOption _ _, fun _ => rfl⟩
  | skipTrivia =>
      refine ⟨rfl, Findings.toList_addOption _ _, fun count => ?_⟩
      exact congrFun reporting.lexer.given_skipTrivia count
  | line => exact ⟨rfl, Findings.toList_addOption _ _, fun _ => rfl⟩
  | column => exact ⟨rfl, Findings.toList_addOption _ _, fun _ => rfl⟩

/-- The tokens returned are those to be given, in order. -/
theorem token?_run (reporting : Reporting σ) (pulls : List Pull) :
    (reporting.run pulls).1.filterMap Answer.token? =
      (pulls.filter Pull.asksToken).mapIdx fun count pull =>
        pull.shows (reporting.lexer.given count) := by
  induction pulls generalizing reporting with
  | nil => rfl
  | cons pull pulls ih =>
      have serves := reporting.serves pull
      simp only [run, List.filterMap_cons, serves.token, ih, serves.given]
      cases hAsks : pull.asksToken <;> simp [hAsks]

theorem given_run (reporting : Reporting σ) (pulls : List Pull) (count : Nat) :
    (reporting.run pulls).2.lexer.given count =
      reporting.lexer.given (pulls.countP Pull.asksToken + count) := by
  induction pulls generalizing reporting with
  | nil => simp [run]
  | cons pull pulls ih =>
      simp only [run, ih, (reporting.serves pull).given, List.countP_cons]
      congr 1
      cases pull.asksToken
      · simp
      · simp only [if_true]
        omega

/-- What is reported is what there is to report of the tokens given. -/
theorem findings_run (reporting : Reporting σ) (pulls : List Pull) :
    (reporting.run pulls).2.findings.toList = reporting.findings.toList ++
      (List.range (pulls.countP Pull.asksToken)).flatMap fun count =>
        (reporting.lexer.given count).report.toList := by
  induction pulls generalizing reporting with
  | nil => simp [run]
  | cons pull pulls ih =>
      have serves := reporting.serves pull
      simp only [run, ih, serves.findings, serves.given, List.countP_cons]
      cases pull.asksToken <;>
        simp [List.range_succ_eq_map, List.flatMap_map]

/-- What is reported of a text, however its tokens are asked for, is reported by `tokenize`. -/
theorem mem_reports_of_mem_findings {s : σ} {document : DocumentId} {pulls : List Pull}
    {d : Diagnostic} (hFound : d ∈ ((ofStream s document).run pulls).2.findings.toList) :
    d ∈ (tokenize (CharStream.toList s) document).toList.flatMap (·.report.toList) := by
  have hNone : (ofStream s document).findings.toList = [] := rfl
  rw [findings_run, hNone, List.nil_append] at hFound
  obtain ⟨count, -, hReport⟩ := List.mem_flatMap.1 hFound
  have hGiven : (ofStream s document).lexer.given count = _ := Lexer.given_ofStream s document count
  rw [hGiven] at hReport
  cases hAt : (tokenize (CharStream.toList s) document).toList[count]? with
  | none => simp [hAt, endScanned] at hReport
  | some scanned =>
      rw [hAt] at hReport
      exact List.mem_flatMap.2 ⟨scanned, List.mem_of_getElem? hAt, hReport⟩

/-- At the end of the input nothing that is asked changes anything. -/
theorem pull_of_ended {reporting : Reporting σ} (ended : reporting.lexer.Ended) (pull : Pull) :
    reporting.pull pull = (pull.atEnd (reporting.lexer.given 0), reporting) := by
  have hReport : reporting.lexer.reported pull = none := by
    cases pull with
    | next | next? => rw [Lexer.reported, ended.next_eq, endScanned]
    | skipTrivia | line | column => rfl
  simp only [Reporting.pull, ended.pull_eq, hReport, Findings.addOption]

theorem run_of_ended {reporting : Reporting σ} (ended : reporting.lexer.Ended)
    (pulls : List Pull) :
    reporting.run pulls = (pulls.map (Pull.atEnd (reporting.lexer.given 0)), reporting) := by
  induction pulls with
  | nil => rfl
  | cons pull pulls ih => simp [run, pull_of_ended ended, ih]

theorem lexer_pull_of_asksToken (reporting : Reporting σ) {pull : Pull} (hAsks : pull.asksToken) :
    (reporting.pull pull).2.lexer = reporting.lexer.next.2 := by
  cases pull with
  | next | next? => rfl
  | skipTrivia | line | column => cases hAsks

/-- If the end token is among those that have been given, the lexer is at the end. -/
theorem ended_run {reporting : Reporting σ} {pulls : List Pull} (count : Nat)
    (hCount : count < pulls.countP Pull.asksToken)
    (hEnd : (reporting.lexer.given count).token.isEnd) : (reporting.run pulls).2.lexer.Ended := by
  induction pulls generalizing reporting count with
  | nil => simp at hCount
  | cons pull pulls ih =>
      have hGiven := (reporting.serves pull).given
      rw [List.countP_cons] at hCount
      cases hAsks : pull.asksToken with
      | false =>
          simp only [hAsks, Bool.false_eq_true, if_false, Nat.add_zero] at hGiven hCount
          rw [← hGiven] at hEnd
          exact ih count hCount hEnd
      | true =>
          simp only [hAsks, if_true] at hGiven hCount
          cases count with
          | zero =>
              have ended : (reporting.pull pull).2.lexer.Ended := by
                rw [reporting.lexer_pull_of_asksToken hAsks]
                exact Lexer.ended_next hEnd
              simp only [run, run_of_ended ended]
              exact ended
          | succ count =>
              rw [← hGiven] at hEnd
              exact ih count (Nat.lt_of_succ_lt_succ hCount) hEnd

theorem reaches_run (reporting : Reporting σ) (pulls : List Pull) :
    reporting.lexer.cursor.Reaches (reporting.run pulls).2.lexer.cursor := by
  induction pulls generalizing reporting with
  | nil => exact (Cursor.Moved.refl _).reaches
  | cons pull pulls ih =>
      have hPull : reporting.lexer.cursor.Reaches (reporting.pull pull).2.lexer.cursor := by
        cases pull with
        | next => exact (reporting.lexer.performs .next).reaches
        | next? => exact (reporting.lexer.performs .next?).reaches
        | skipTrivia => exact (reporting.lexer.performs .skipTrivia).reaches
        | line | column => exact (Cursor.Moved.refl _).reaches
      exact hPull.trans (ih _)

/-- Where the input is over, the position is that behind the last character. -/
theorem position_of_atEnd (s : σ) (document : DocumentId) {pulls : List Pull}
    (hOver : ((ofStream s document).run pulls).2.lexer.cursor.atEnd) :
    ((ofStream s document).run pulls).2.lexer.cursor.position =
      Text.Position.start.after (CharStream.toList s) := by
  obtain ⟨stretch, moved⟩ := (ofStream s document).reaches_run pulls
  have hText := moved.rest_eq
  rw [Cursor.atEnd_eq_isEmpty_rest, List.isEmpty_iff] at hOver
  rw [hOver, List.append_nil] at hText
  have hAll : (ofStream s document).lexer.cursor.rest = CharStream.toList s :=
    Cursor.rest_ofStream s
  rw [moved.position_eq, ← hText, hAll]
  rfl

/-- Of tokens that are errors just when they are reported, the reports are those of the errors. -/
theorem map_some_flatMap_report {scanned : List Scanned}
    (hError : ∀ s ∈ scanned, s.token.isError = s.report.isSome) :
    (scanned.flatMap (·.report.toList)).map some =
      (scanned.filter (·.token.isError)).map (·.report) := by
  induction scanned with
  | nil => rfl
  | cons first scanned ih =>
      obtain ⟨hFirst, hMore⟩ := List.forall_mem_cons.1 hError
      rw [List.flatMap_cons, List.map_append, ih hMore, List.filter_cons, hFirst]
      cases hReport : first.report <;> simp [hReport]

/-- The tokens do not depend on how a lexer is drained, and its end is stable. Whatever has been
asked, the tokens that `next` and `next?` have returned are the first ones that `tokenize` lists, or
all of them and the end token for the rest; what is reported are the errors among them, each once.
Where the input is over, line and column are those of the end token, and once that token has been
given, nothing changes any more. -/
theorem run_draws_tokens (s : σ) (document : DocumentId) (pulls : List Pull) :
    let text := CharStream.toList s
    let tokens := (tokenize text document).toList
    let last := endScanned document (Text.Position.start.after text)
    let nth := fun count => tokens[count]?.getD last
    let asked := pulls.countP Pull.asksToken
    let run := (ofStream s document).run pulls
    tokens.getLast? = some last ∧
    run.1.filterMap Answer.token? =
      (pulls.filter Pull.asksToken).mapIdx (fun count pull => pull.shows (nth count)) ∧
    run.2.findings.toList.map some =
      (((List.range asked).map nth).filter (·.token.isError)).map (·.report) ∧
    (run.2.lexer.cursor.atEnd →
      run.2.lexer.line = last.token.line ∧ run.2.lexer.column = last.token.column) ∧
    (tokens.length ≤ asked → ∀ more, run.2.run more = (more.map (Pull.atEnd last), run.2)) := by
  intro text tokens last nth asked run
  have hLast : tokens.getLast? = some last := Lexer.getLast?_tokenize text document
  have hGiven : ∀ count, (ofStream s document).lexer.given count = nth count :=
    Lexer.given_ofStream s document
  refine ⟨hLast, ?_, ?_, ?_, ?_⟩
  · simp only [run, token?_run, hGiven]
  · have hFindings : run.2.findings.toList =
        ((List.range asked).map nth).flatMap (·.report.toList) := by
      simp only [run, findings_run, hGiven, List.flatMap_map]
      rfl
    rw [hFindings]
    apply map_some_flatMap_report
    intro scanned hScanned
    obtain ⟨count, -, rfl⟩ := List.mem_map.1 hScanned
    rw [← hGiven]
    exact Lexer.isError_given _ _
  · intro hOver
    have hPosition := position_of_atEnd s document hOver
    exact ⟨congrArg Text.Position.line hPosition, congrArg Text.Position.column hPosition⟩
  · intro hAsked more
    have hLength : 0 < tokens.length := List.length_pos_of_mem (List.mem_of_getLast? hLast)
    have hFinal : nth (tokens.length - 1) = last := by
      simp [nth, ← List.getLast?_eq_getElem?, hLast]
    have ended : run.2.lexer.Ended := by
      apply ended_run (tokens.length - 1) (by omega)
      rw [hGiven, hFinal]
      exact isEnd_endScanned _ _
    have hBeyond : run.2.lexer.given 0 = last := by
      have hNone : tokens[asked]? = none := List.getElem?_eq_none hAsked
      rw [given_run, hGiven]
      change tokens[asked]?.getD last = last
      rw [hNone, Option.getD_none]
    rw [run_of_ended ended, hBeyond]

end Reporting

end Coll

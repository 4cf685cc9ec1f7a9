import Coll.Proofs.Lexer.Request
import Mathlib.Algebra.BigOperators.Group.Finset.Piecewise
import Mathlib.Data.Fintype.Basic
import Mathlib.Data.List.Forall2

/-!
Lexers that report to the same findings. Their requests come in any order; the findings tell the
errors of each of them apart by the document, and no lexer notices the others.
-/

namespace Coll

open Lexer (Reply Reports Request)

variable {ι : Type}

section Turns

variable {α : Type} [DecidableEq ι]

/-- What belongs to one of several parties, in order. -/
def only (i : ι) (turns : List (ι × α)) : List α := (turns.filter (·.1 = i)).map (·.2)

theorem only_cons (i : ι) (turn : ι × α) (turns : List (ι × α)) :
    only i (turn :: turns) = (if turn.1 = i then [turn.2] else []) ++ only i turns := by
  by_cases h : turn.1 = i <;> simp [only, h]

/-- What belongs to anybody is counted once for the one that it belongs to. -/
theorem sum_countP_only [Fintype ι] (p : α → Bool) (turns : List (ι × α)) :
    ∑ i, (only i turns).countP p = turns.countP (fun turn => p turn.2) := by
  induction turns with
  | nil => simp [only]
  | cons turn turns ih =>
      have hTurn : ∀ i, (if turn.1 = i then [turn.2] else []).countP p =
          if turn.1 = i then [turn.2].countP p else 0 := by
        intro i
        split <;> rfl
      simp only [only_cons, List.countP_append, Finset.sum_add_distrib, ih, hTurn,
        Finset.sum_ite_eq, Finset.mem_univ, if_true]
      rw [List.countP_singleton, List.countP_cons, Nat.add_comm]

end Turns

/-- Lexers, each over a stream of its own, and what they have reported. -/
structure Shared (σ : ι → Type) where
  lexer : ∀ i, Lexer (σ i)
  findings : Findings := {}

namespace Shared

variable {σ : ι → Type} [∀ i, FiniteStream (σ i)]

/-- New lexers, each for a document of its own. -/
def ofStreams (sources : ∀ i, σ i) (documents : ι → DocumentId) : Shared σ where
  lexer i := .ofStream (sources i) (documents i)

/-- What is kept of lexers over `sources` for `documents`, whatever is asked of them. -/
structure Inside (shared : Shared σ) (sources : ∀ i, σ i) (documents : ι → DocumentId) : Prop where
  lexer : ∀ i, (shared.lexer i).Inside (sources i)
  document : ∀ i, (shared.lexer i).document = documents i

theorem inside_ofStreams (sources : ∀ i, σ i) (documents : ι → DocumentId) :
    (ofStreams sources documents).Inside sources documents where
  lexer i := Lexer.inside_ofStream (sources i) (documents i)
  document _ := rfl

/-- The diagnostics are those of the errors among the replies, in order, and those about one
document are those of the errors of its lexer. -/
structure Accounts (sources : ∀ i, σ i) (documents : ι → DocumentId) (found : List Diagnostic)
    (replies : List (ι × Reply)) (alone : ι → List (Text.Position × Reply)) : Prop where
  all : List.Forall₂ (fun d reply => d.isError ∧ d.span.document = documents reply.1) found
    (replies.filter (·.2.isError))
  each : ∀ i, List.Forall₂ (Reports (documents i) (CharStream.toList (sources i)).length)
    (found.filter (·.span.document = documents i)) ((alone i).filter (·.2.isError))

theorem Accounts.append {sources : ∀ i, σ i} {documents : ι → DocumentId}
    {found found' : List Diagnostic} {replies replies' : List (ι × Reply)}
    {alone alone' : ι → List (Text.Position × Reply)}
    (first : Accounts sources documents found replies alone)
    (second : Accounts sources documents found' replies' alone') :
    Accounts sources documents (found ++ found') (replies ++ replies')
      (fun i => alone i ++ alone' i) where
  all := by
    rw [List.filter_append]
    exact List.rel_append first.all second.all
  each i := by
    rw [List.filter_append, List.filter_append]
    exact List.rel_append (first.each i) (second.each i)

variable [DecidableEq ι]

/-- One lexer is asked for something. -/
def perform (shared : Shared σ) (turn : ι × Request) : Shared σ where
  lexer := Function.update shared.lexer turn.1 ((shared.lexer turn.1).perform turn.2).2
  findings :=
    shared.findings.addOption (((shared.lexer turn.1).perform turn.2).1.bind (·.report))

/-- The replies to one request after the other, and the lexers after them. -/
def run (shared : Shared σ) : List (ι × Request) → List (ι × Reply) × Shared σ
  | [] => ([], shared)
  | turn :: turns =>
    let (replies, later) := (shared.perform turn).run turns
    ((turn.1, (shared.lexer turn.1).reply turn.2) :: replies, later)

/-- What a lexer replies if it has what is asked of it to itself, from where it is. -/
def alone (shared : Shared σ) (turns : List (ι × Request)) (i : ι) :
    List (Text.Position × Reply) :=
  (shared.lexer i).history (shared.lexer i).tokenStart (only i turns)

/-- The others stay as they are. -/
theorem lexer_perform (shared : Shared σ) (turn : ι × Request) (i : ι) :
    (shared.perform turn).lexer i =
      if turn.1 = i then ((shared.lexer i).perform turn.2).2 else shared.lexer i := by
  obtain ⟨j, request⟩ := turn
  by_cases h : j = i
  · subst h
    simp [perform]
  · simp [perform, Function.update_of_ne (Ne.symm h), h]

theorem Inside.perform {shared : Shared σ} {sources : ∀ i, σ i} {documents : ι → DocumentId}
    (inside : shared.Inside sources documents) (turn : ι × Request) :
    (shared.perform turn).Inside sources documents where
  lexer i := by
    rw [lexer_perform]
    split
    · exact (inside.lexer i).perform turn.2
    · exact inside.lexer i
  document i := by
    rw [lexer_perform]
    split
    · exact ((shared.lexer i).performs turn.2).document.trans (inside.document i)
    · exact inside.document i

/-- What a turn adds to the history of a lexer. -/
def entries (shared : Shared σ) (turn : ι × Request) (i : ι) : List (Text.Position × Reply) :=
  if turn.1 = i then [((shared.perform turn).lexer i |>.tokenStart, (shared.lexer i).reply turn.2)]
  else []

/-- A turn of one lexer is a step in its own history and none in that of another. -/
theorem alone_cons (shared : Shared σ) (turn : ι × Request) (turns : List (ι × Request)) (i : ι) :
    shared.alone (turn :: turns) i =
      shared.entries turn i ++ (shared.perform turn).alone turns i := by
  rw [alone, alone, entries, only_cons, lexer_perform]
  split
  · rw [((shared.lexer i).performs turn.2).tokenStart]
    rfl
  · rfl

/-- A lexer replies what it replies when it runs alone. -/
theorem only_run (shared : Shared σ) (turns : List (ι × Request)) (i : ι) :
    only i (shared.run turns).1 = (shared.alone turns i).map (·.2) := by
  induction turns generalizing shared with
  | nil => rfl
  | cons turn turns ih =>
      rw [run, only_cons, alone_cons, List.map_append, ih, entries]
      split
      · next h =>
          subst h
          rfl
      · rfl

section Account

variable {sources : ∀ i, σ i} {documents : ι → DocumentId}

/-- The diagnostic of a turn goes to the lexer whose turn it is and to no other, because no other
has its document. -/
theorem Inside.accounts_perform (hDistinct : Function.Injective documents) {shared : Shared σ}
    (inside : shared.Inside sources documents) (turn : ι × Request) :
    ∃ found, (shared.perform turn).findings.toList = shared.findings.toList ++ found ∧
      Accounts sources documents found [(turn.1, (shared.lexer turn.1).reply turn.2)]
        (shared.entries turn) := by
  refine ⟨_, Findings.toList_addOption _ _, ?_⟩
  rcases (inside.lexer turn.1).reports turn.2 with ⟨hReport, hError⟩ | ⟨d, hReport, hError, reports⟩
  -- nothing is reported, and no error is returned
  · rw [hReport]
    constructor
    · simp [hError]
    · intro i
      rw [entries]
      split
      · next h =>
          subst h
          simp [hError]
      · exact .nil
  -- one error is returned, and it is reported for the document of its lexer
  · rw [hReport]
    have hDocument : d.span.document = documents turn.1 :=
      reports.document.trans (inside.document turn.1)
    constructor
    · have hSeverity : d.isError := beq_iff_eq.2 reports.severity
      simp [hError, hSeverity, hDocument]
    · intro i
      rw [entries]
      split
      · next h =>
          subst h
          rw [inside.document] at reports
          simpa [hError, hDocument, lexer_perform] using reports
      · next h =>
          have hOther : documents turn.1 ≠ documents i := fun hSame => h (hDistinct hSame)
          simp [hDocument, hOther]

/-- However long the lexers run, the findings account for their errors. -/
theorem Inside.accounts_run (hDistinct : Function.Injective documents) {shared : Shared σ}
    (inside : shared.Inside sources documents) (turns : List (ι × Request)) :
    ∃ found, (shared.run turns).2.findings.toList = shared.findings.toList ++ found ∧
      Accounts sources documents found (shared.run turns).1 (shared.alone turns) := by
  induction turns generalizing shared with
  | nil => exact ⟨[], (List.append_nil _).symm, .nil, fun _ => .nil⟩
  | cons turn turns ih =>
      obtain ⟨first, hFirst, accounts⟩ := inside.accounts_perform hDistinct turn
      obtain ⟨second, hSecond, accounts'⟩ := ih (inside.perform turn)
      refine ⟨first ++ second, ?_, ?_⟩
      · rw [run, hSecond, hFirst, List.append_assoc]
      · have hAlone : shared.alone (turn :: turns) =
            fun i => shared.entries turn i ++ (shared.perform turn).alone turns i :=
          funext fun i => shared.alone_cons turn turns i
        rw [hAlone]
        exact accounts.append accounts'

end Account

/-- Errors and diagnostics stay in step, whatever is asked of any number of lexers and in whatever
order. As long as no two of them are for the same document, the diagnostics about a document are, in
order, the reports of the errors that its lexer returned; there are no others; and every lexer
returns the tokens and gets to the positions that it does when it runs alone. -/
theorem run_reports_errors [Fintype ι] (sources : ∀ i, σ i) {documents : ι → DocumentId}
    (hDistinct : Function.Injective documents) (turns : List (ι × Request)) :
    let run := (ofStreams sources documents).run turns
    let history := fun i =>
      (Lexer.ofStream (sources i) (documents i)).history .start (only i turns)
    (∀ i, only i run.1 = (history i).map (·.2)) ∧
    (∀ i, List.Forall₂ (Reports (documents i) (CharStream.toList (sources i)).length)
      (run.2.findings.toList.filter (·.span.document = documents i))
      ((history i).filter (·.2.isError))) ∧
    run.2.findings.toList.map (·.span.document) =
      (run.1.filter (·.2.isError)).map (documents ·.1) ∧
    run.2.findings.errorCount = ∑ i, (history i).countP (·.2.isError) := by
  intro run history
  have hReplies : ∀ i, only i run.1 = (history i).map (·.2) :=
    fun i => only_run (ofStreams sources documents) turns i
  obtain ⟨found, hFound, accounts⟩ :=
    (inside_ofStreams sources documents).accounts_run hDistinct turns
  have hFindings : run.2.findings.toList = found := hFound
  obtain ⟨hErrors, hDocuments⟩ := (List.forall₂_and_left found _).1 accounts.all
  refine ⟨hReplies, ?_, ?_, ?_⟩
  · rw [hFindings]
    exact accounts.each
  · rw [hFindings, ← List.forall₂_eq_eq_eq, List.forall₂_map_left_iff, List.forall₂_map_right_iff]
    exact hDocuments
  · calc run.2.findings.errorCount
        = found.countP Diagnostic.isError := by rw [Findings.errorCount_eq, hFindings]
      _ = (run.1.filter (·.2.isError)).length := by
          rw [List.countP_eq_length.2 hErrors, accounts.all.length_eq]
      _ = ∑ i, (only i run.1).countP (·.isError) := by
          rw [sum_countP_only, List.countP_eq_length_filter]
      _ = ∑ i, (history i).countP (·.2.isError) := by
          simp only [hReplies, List.countP_map]
          rfl

/-- Two lexers that are asked in turns, one of them also behind the end of its text. -/
def mixedTurns : List (Bool × Request) :=
  [(true, .scan .string), (false, .next?), (true, .scan .sign), (false, .scan .sign),
    (false, .skipTrivia), (false, .next), (true, .next?), (true, .scan .ampersand)]

theorem run_reports_errors_mixedTurns :
    Function.Injective (fun i : Bool => bif i then 3 else 7) ∧
    let run := (ofStreams (fun i : Bool => bif i then ['"'] else ['a', ' ', '@'])
      (fun i => bif i then 3 else 7)).run mixedTurns
    List.Forall₂ (Reports 3 1) (run.2.findings.toList.filter (·.span.document = 3))
      [(⟨0, 1, 1⟩, ⟨some ⟨.error, "unterminated string literal", 1, 1⟩, ⟨1, 1, 2⟩⟩),
        (⟨0, 1, 1⟩, ⟨some ⟨.error, "\x00", 1, 1⟩, ⟨1, 1, 2⟩⟩),
        (⟨1, 1, 2⟩, ⟨some ⟨.error, "&", 1, 2⟩, ⟨1, 1, 2⟩⟩)] ∧
    run.2.findings.toList.map (·.span.document) = [3, 3, 7, 7, 3] ∧
    run.2.findings.errorCount = 5 := by
  have hDistinct : Function.Injective (fun i : Bool => bif i then 3 else 7) := by decide
  obtain ⟨-, hReports, hDocuments, hCount⟩ := run_reports_errors
    (fun i : Bool => bif i then ['"'] else ['a', ' ', '@']) hDistinct mixedTurns
  have hHistory : ((Lexer.ofStream ['"'] 3).history .start (only true mixedTurns)).filter
      (·.2.isError) =
        [(⟨0, 1, 1⟩, ⟨some ⟨.error, "unterminated string literal", 1, 1⟩, ⟨1, 1, 2⟩⟩),
          (⟨0, 1, 1⟩, ⟨some ⟨.error, "\x00", 1, 1⟩, ⟨1, 1, 2⟩⟩),
          (⟨1, 1, 2⟩, ⟨some ⟨.error, "&", 1, 2⟩, ⟨1, 1, 2⟩⟩)] := by decide +kernel
  refine ⟨hDistinct, ?_, hDocuments.trans (by decide +kernel), hCount.trans (by decide +kernel)⟩
  have hThird := hReports true
  rw [← hHistory]
  simpa using hThird

end Shared

end Coll

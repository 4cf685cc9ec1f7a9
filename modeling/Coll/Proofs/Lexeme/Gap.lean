import Coll.Lexeme.Trivia
import Coll.Proofs.Stream.Movement

/-!
Gaps between lexemes. Whether a stretch is trivia depends on what follows it, because a comment
must reach the end of its line; `skipTrivia` moves over the longest stretch that is.
-/

namespace Coll.Lexeme

/-- `taken` with `left` behind it is of the class `P`, and no longer beginning of the same text
is. A class judges a beginning together with what it leaves. -/
structure Longest (P : List Char → List Char → Prop) (taken left : List Char) : Prop where
  mem : P taken left
  length_le : ∀ other behind, other ++ behind = taken ++ left → P other behind →
    other.length ≤ taken.length

/-- A text has at most one longest beginning of a class. -/
theorem Longest.unique {P : List Char → List Char → Prop} {taken left taken' left' : List Char}
    (first : Longest P taken left) (second : Longest P taken' left')
    (h : taken ++ left = taken' ++ left') : taken = taken' ∧ left = left' := by
  have hLe := first.length_le taken' left' h.symm second.mem
  have hGe := second.length_le taken left h first.mem
  exact List.append_inj h (Nat.le_antisymm hGe hLe)

/-- A text that a comment can end before: the end of the input, or a line feed. -/
def EndsLine (text : List Char) : Prop := ∀ c ∈ text.head?, c = '\n'

/-- Blanks and comments one after the other. A comment goes on up to the next line feed, which is
no part of it, or up to the end of the text. -/
inductive Trivia : List Char → List Char → Prop where
  | nil (left : List Char) : Trivia [] left
  | blank {c : Char} {stretch left : List Char} (blank : isBlank c) (more : Trivia stretch left) :
      Trivia (c :: stretch) left
  | comment {body stretch left : List Char} (line : '\n' ∉ body)
      (ends : EndsLine (stretch ++ left)) (more : Trivia stretch left) :
      Trivia (commentMark :: body ++ stretch) left

/-- What no trivia begins with: nothing at all, or a character that is neither a blank nor the mark
of a comment. -/
def BeginsLexeme (text : List Char) : Prop :=
  ∀ c ∈ text.head?, isBlank c = false ∧ c ≠ commentMark

/-- Of two comments with which the same text begins, both end with the line. -/
theorem body_eq_of_endsLine {body body' left left' : List Char} (hLine : '\n' ∉ body)
    (hLine' : '\n' ∉ body') (hEnds : EndsLine left) (hEnds' : EndsLine left')
    (h : body ++ left = body' ++ left') : body = body' ∧ left = left' := by
  have inLine (body : List Char) (hLine : '\n' ∉ body) : ∀ c ∈ body, (c != '\n') = true := by
    intro c hc
    simpa using fun he : c = '\n' => hLine (he ▸ hc)
  have atEnd (left : List Char) (hEnds : EndsLine left) :
      ∀ c ∈ left.head?, (c != '\n') = false := by
    intro c hc
    simpa using hEnds c hc
  exact run_unique (inLine body hLine) (inLine body' hLine') (atEnd left hEnds)
    (atEnd left' hEnds') h

/-- Trivia that stops where a lexeme begins, or at the end, cannot be made longer. -/
theorem Trivia.longest {gap left : List Char} (trivia : Trivia gap left)
    (hLeft : BeginsLexeme left) : Longest Trivia gap left := by
  refine ⟨trivia, ?_⟩
  induction trivia with
  | nil left =>
      intro other behind hSame hOther
      cases hOther with
      | nil => exact Nat.le_refl _
      | @blank c _ _ hBlank =>
          have hPlain := (hLeft c (congrArg List.head? hSame.symm)).1
          exact absurd hBlank (by simp [hPlain])
      | comment => exact absurd rfl (hLeft commentMark (congrArg List.head? hSame.symm)).2
  | blank hBlank _ ih =>
      intro other behind hSame hOther
      cases hOther with
      | nil => exact Nat.zero_le _
      | blank _ hMore =>
          obtain ⟨-, hSame⟩ := List.cons.inj hSame
          exact Nat.succ_le_succ (ih hLeft _ _ hSame hMore)
      | comment =>
          obtain ⟨rfl, -⟩ := List.cons.inj hSame
          simp [isBlank, commentMark] at hBlank
  | @comment body stretch left hLine hEnds _ ih =>
      intro other behind hSame hOther
      cases hOther with
      | nil => exact Nat.zero_le _
      | blank hBlank =>
          obtain ⟨rfl, -⟩ := List.cons.inj hSame
          simp [isBlank, commentMark] at hBlank
      | @comment body' stretch' _ hLine' hEnds' hMore =>
          simp only [List.cons_append, List.cons.injEq, true_and, List.append_assoc] at hSame
          obtain ⟨rfl, hRest⟩ := body_eq_of_endsLine hLine' hLine hEnds' hEnds hSame
          have hLe := ih hLeft _ _ hRest hMore
          simp only [List.cons_append, List.length_cons, List.length_append]
          omega

variable {σ : Type} [FiniteStream σ]

/-- Behind the gap a lexeme begins, or the input is over. -/
theorem beginsLexeme_skipTrivia (cursor : Cursor σ) : BeginsLexeme (skipTrivia cursor).rest := by
  fun_induction skipTrivia cursor with
  | case1 cursor hEnd => simp [BeginsLexeme, hEnd]
  | case2 _ _ _ _ ih => exact ih
  | case3 _ _ _ ih => exact ih
  | case4 cursor c hHere hBlank hMark =>
      intro d hd
      obtain rfl : c = d := by simpa [hHere] using hd
      exact ⟨by simpa using hBlank, hMark⟩

/-- Skipping moves over trivia. -/
theorem moved_skipTrivia (cursor : Cursor σ) :
    ∃ gap, cursor.Moved gap (skipTrivia cursor) ∧ Trivia gap (skipTrivia cursor).rest := by
  fun_induction skipTrivia cursor with
  | case1 cursor => exact ⟨[], .refl cursor, .nil _⟩
  | case2 cursor c hHere hBlank ih =>
      obtain ⟨gap, hMoved, hTrivia⟩ := ih
      exact ⟨c :: gap, (Cursor.moved_advance hHere).cons hMoved, .blank hBlank hTrivia⟩
  | case3 cursor hHere _ ih =>
      obtain ⟨gap, hMoved, hTrivia⟩ := ih
      have hLine := cursor.advance.moved_dropWhile (· != '\n')
      have hAll := (Cursor.moved_advance hHere).cons (hLine.trans hMoved)
      refine ⟨_, hAll, .comment ?_ ?_ hTrivia⟩
      · intro hMem
        simpa using of_mem_takeWhile hMem
      · rw [← hMoved.rest_eq, Cursor.rest_dropWhile]
        intro c hc
        simpa using stop_dropWhile (· != '\n') cursor.advance.rest c hc
  | case4 cursor => exact ⟨[], .refl cursor, .nil _⟩

/-- Skipping moves over the longest stretch of trivia. -/
theorem longest_skipTrivia (cursor : Cursor σ) :
    ∃ gap, cursor.Moved gap (skipTrivia cursor) ∧ Longest Trivia gap (skipTrivia cursor).rest := by
  obtain ⟨gap, hMoved, hTrivia⟩ := moved_skipTrivia cursor
  exact ⟨gap, hMoved, hTrivia.longest (beginsLexeme_skipTrivia cursor)⟩

end Coll.Lexeme

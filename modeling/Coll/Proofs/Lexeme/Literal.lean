import Coll.Lexeme.Quoted
import Coll.Proofs.Lexeme.Reading

/-!
String literals as they are written: a quote, items, and what ends them. The items of a text are
determined by the text, so a literal ends in one way and in one place only.
-/

namespace Coll.Lexeme

/-- What a backslash and a character stand for together. -/
inductive Escape : Char → Char → Prop where
  | lineFeed : Escape 'n' '\n'
  | backslash : Escape '\\' '\\'
  | quote : Escape '"' '"'

theorem unescape?_eq_some_iff {c meant : Char} : unescape? c = some meant ↔ Escape c meant := by
  constructor
  · intro h
    unfold unescape? at h
    split at h
    · cases h
      subst_vars
      exact .lineFeed
    split at h
    · cases h
      subst_vars
      exact .backslash
    split at h
    · cases h
      subst_vars
      exact .quote
    · cases h
  · intro h
    cases h <;> rfl

theorem unescape?_eq_none_iff {c : Char} : unescape? c = none ↔ ∀ meant, ¬ Escape c meant := by
  simp only [Option.eq_none_iff_forall_ne_some, ne_eq, unescape?_eq_some_iff]

/-- Items between quotes and their content. Every character but a quote and a backslash stands for
itself. -/
inductive Items : List Char → List Char → Prop where
  | nil : Items [] []
  | plain {c : Char} {body content : List Char} (notQuote : c ≠ '"') (notBackslash : c ≠ '\\')
      (more : Items body content) : Items (c :: body) (c :: content)
  | escape {c meant : Char} {body content : List Char} (escape : Escape c meant)
      (more : Items body content) : Items ('\\' :: c :: body) (meant :: content)

/-- What ends the items of a literal, with what is left behind it: a quote, a backslash before a
character that it gives no meaning, or the end of the text, also behind a lone backslash. -/
inductive Closing (content : List Char) : List Char → List Char → Outcome → Prop where
  | quote {left : List Char} :
      Closing content ['"'] left (.lexeme (.literal .string) (String.ofList content))
  | invalid {c : Char} {left : List Char} (meaningless : ∀ meant, ¬ Escape c meant) :
      Closing content ['\\', c] left (.malformed (.invalidEscape c))
  | textEnd : Closing content [] [] (.malformed .unterminated)
  | endAfterBackslash : Closing content ['\\'] [] (.malformed .unterminated)

/-- A literal, complete or broken off. -/
inductive Quoted : List Char → List Char → Outcome → Prop where
  | intro {body content tail left : List Char} {outcome : Outcome} (items : Items body content)
      (closing : Closing content tail left outcome) :
      Quoted ('"' :: body ++ tail) left outcome

theorem Quoted.head {literal left : List Char} {outcome : Outcome}
    (form : Quoted literal left outcome) : literal.head? = some '"' := by
  cases form
  rfl

/-- What ends the items does not begin with an item. -/
theorem Closing.items_eq_nil {content tail left body more behind : List Char} {outcome : Outcome}
    (closing : Closing content tail left outcome) (items : Items body more)
    (h : body ++ behind = tail ++ left) : body = [] := by
  cases items with
  | nil => rfl
  | plain hQuote hBackslash =>
      cases closing with
      | quote => exact (hQuote (List.cons.inj h).1).elim
      | invalid => exact (hBackslash (List.cons.inj h).1).elim
      | textEnd => simp at h
      | endAfterBackslash => exact (hBackslash (List.cons.inj h).1).elim
  | escape hEscape =>
      cases closing with
      | quote => simp at h
      | invalid meaningless =>
          obtain ⟨-, hSecond⟩ := List.cons.inj h
          obtain ⟨rfl, -⟩ := List.cons.inj hSecond
          exact (meaningless _ hEscape).elim
      | textEnd => simp at h
      | endAfterBackslash => simp at h

/-- Two ways to read items off the same text are the same way, if both go on as far as they can. -/
theorem Items.unique
    {body content body' content' content₁ content₂ tail left tail' left' : List Char}
    {outcome outcome' : Outcome} (items : Items body content) (items' : Items body' content')
    (closing : Closing content₁ tail left outcome)
    (closing' : Closing content₂ tail' left' outcome')
    (h : body ++ (tail ++ left) = body' ++ (tail' ++ left')) :
    body = body' ∧ content = content' ∧ tail ++ left = tail' ++ left' := by
  induction items generalizing body' content' with
  | nil =>
      obtain rfl := closing.items_eq_nil items' h.symm
      cases items'
      exact ⟨rfl, rfl, h⟩
  | plain hQuote hBackslash more ih =>
      cases items' with
      | nil => exact absurd (closing'.items_eq_nil (.plain hQuote hBackslash more) h) (by simp)
      | plain _ _ more' =>
          obtain ⟨rfl, hMore⟩ := List.cons.inj h
          obtain ⟨rfl, rfl, hTail⟩ := ih more' hMore
          exact ⟨rfl, rfl, hTail⟩
      | escape => exact (hBackslash (List.cons.inj h).1).elim
  | escape hEscape more ih =>
      cases items' with
      | nil => exact absurd (closing'.items_eq_nil (.escape hEscape more) h) (by simp)
      | plain _ hBackslash' => exact (hBackslash' (List.cons.inj h).1.symm).elim
      | escape hEscape' more' =>
          obtain ⟨-, hSecond⟩ := List.cons.inj h
          obtain ⟨rfl, hMore⟩ := List.cons.inj hSecond
          obtain ⟨rfl, rfl, hTail⟩ := ih more' hMore
          cases hEscape <;> cases hEscape' <;> exact ⟨rfl, rfl, hTail⟩

/-- A text that begins with an end of items begins with one such end. -/
theorem Closing.unique {content tail left tail' left' : List Char} {outcome outcome' : Outcome}
    (closing : Closing content tail left outcome) (closing' : Closing content tail' left' outcome')
    (h : tail ++ left = tail' ++ left') : tail = tail' ∧ outcome = outcome' := by
  cases closing <;> cases closing' <;> simp_all

/-- A text begins with at most one literal. -/
theorem Quoted.unique {literal left literal' left' : List Char} {outcome outcome' : Outcome}
    (form : Quoted literal left outcome) (form' : Quoted literal' left' outcome')
    (h : literal ++ left = literal' ++ left') : literal = literal' ∧ outcome = outcome' := by
  obtain ⟨items, closing⟩ := form
  obtain ⟨items', closing'⟩ := form'
  simp only [List.cons_append, List.cons.injEq, true_and, List.append_assoc] at h
  obtain ⟨rfl, rfl, hTail⟩ := items.unique items' closing closing' h
  obtain ⟨rfl, rfl⟩ := closing.unique closing' hTail
  exact ⟨rfl, rfl⟩

variable {σ : Type} [FiniteStream σ]

/-- Inside a literal, items are taken as long as there are any, and then what ends them. -/
theorem scanContent_closing (cursor : Cursor σ) (content : List Char) :
    ∃ body more tail, Items body more ∧ cursor.Moved (body ++ tail) (scanContent cursor content).2 ∧
      Closing (content.reverse ++ more) tail (scanContent cursor content).2.rest
        (scanContent cursor content).1 := by
  fun_induction scanContent cursor content with
  | case1 cursor content hEnd =>
      refine ⟨[], [], [], .nil, .refl cursor, ?_⟩
      rw [Cursor.rest_eq_nil_iff.2 hEnd]
      exact .textEnd
  | case2 cursor content hHere =>
      refine ⟨[], [], ['"'], .nil, Cursor.moved_advance hHere, ?_⟩
      rw [List.append_nil]
      exact .quote
  | case3 cursor content hEnd hHere =>
      refine ⟨[], [], ['\\'], .nil, Cursor.moved_advance hHere, ?_⟩
      rw [Cursor.rest_eq_nil_iff.2 hEnd]
      exact .endAfterBackslash
  | case4 cursor content c hNext meant hMeant hHere _ ih =>
      obtain ⟨body, more, tail, items, hMoved, closing⟩ := ih
      refine ⟨'\\' :: c :: body, meant :: more, tail,
        .escape (unescape?_eq_some_iff.1 hMeant) items, ?_, by simpa using closing⟩
      exact (Cursor.moved_advance hHere).cons ((Cursor.moved_advance hNext).cons hMoved)
  | case5 cursor content c hNext hMeant hHere =>
      refine ⟨[], [], ['\\', c], .nil, ?_, .invalid (unescape?_eq_none_iff.1 hMeant)⟩
      exact (Cursor.moved_advance hHere).cons (Cursor.moved_advance hNext)
  | case6 cursor content c hHere hQuote hBackslash ih =>
      obtain ⟨body, more, tail, items, hMoved, closing⟩ := ih
      exact ⟨c :: body, c :: more, tail, .plain hQuote hBackslash items,
        (Cursor.moved_advance hHere).cons hMoved, by simpa using closing⟩

/-- From a quote on, a literal is read. -/
theorem scanString_reading {cursor : Cursor σ} (hHere : cursor.current = some '"') :
    ∃ literal, Reading Quoted cursor literal (scanString cursor) := by
  obtain ⟨body, content, tail, items, hMoved, closing⟩ := scanContent_closing cursor.advance []
  have form : Quoted ('"' :: body ++ tail) (scanString cursor).2.rest (scanString cursor).1 :=
    .intro items closing
  have hAll : cursor.Moved ('"' :: body ++ tail) (scanString cursor).2 :=
    (Cursor.moved_advance hHere).cons hMoved
  refine ⟨'"' :: body ++ tail, hAll, form, ?_⟩
  intro other behind outcome hSame form'
  obtain ⟨rfl, -⟩ := form'.unique form (hSame.trans hAll.rest_eq)
  exact Nat.le_refl _

end Coll.Lexeme

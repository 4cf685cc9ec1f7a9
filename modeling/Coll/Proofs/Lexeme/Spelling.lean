import Coll.Proofs.Lexeme.Boundary

/-!
Lexemes written anew. The text of a token is a normal form: written as it is, or between quotes if
it is the content of a literal, it is a lexeme that stands for the same. Trivia keeps lexemes apart.
-/

namespace Coll.Lexeme

/-- Trivia that may stand before anything: blanks, and comments with the line feed that ends
them. -/
inductive Spacing : List Char → Prop where
  | nil : Spacing []
  | blank {c : Char} {stretch : List Char} (blank : isBlank c) (more : Spacing stretch) :
      Spacing (c :: stretch)
  | comment {body stretch : List Char} (line : '\n' ∉ body) (more : Spacing stretch) :
      Spacing (commentMark :: body ++ '\n' :: stretch)

theorem Spacing.trivia {gap : List Char} (spacing : Spacing gap) (left : List Char) :
    Trivia gap left := by
  induction spacing with
  | nil => exact .nil left
  | blank hBlank _ ih => exact .blank hBlank ih
  | comment hLine _ ih =>
      exact .comment hLine (fun c hc => (Option.some.inj hc).symm) (.blank rfl ih)

/-- How a token of some kind and text may be written. Between quotes, a quote and a backslash need
a backslash before them, and a line feed may be written as it is or as an escape. -/
inductive Spelled : Kind → String → List Char → Prop where
  | literal {text : String} {body : List Char} (items : Items body text.toList) :
      Spelled (.literal .string) text ('"' :: body ++ ['"'])
  | plain {kind : Kind} {text : String} (other : kind ≠ .literal .string) :
      Spelled kind text text.toList

theorem Spelled.eq_toList {kind : Kind} {text : String} {spelling : List Char}
    (spelled : Spelled kind text spelling) (other : kind ≠ .literal .string) :
    spelling = text.toList := by
  cases spelled with
  | literal => exact (other rfl).elim
  | plain => rfl

section Numbers

variable {digits : List Char}

theorem wholePart_ne_nil (digits : List Char) : wholePart digits ≠ [] := by
  unfold wholePart
  split
  · exact List.cons_ne_nil _ _
  · assumption

theorem isDigit_of_mem_wholePart (whole : ∀ c ∈ digits, c.isDigit) :
    ∀ c ∈ wholePart digits, c.isDigit := by
  intro c hc
  unfold wholePart at hc
  split at hc
  · obtain rfl := List.mem_singleton.1 hc
    decide
  · exact whole c ((List.dropWhile_suffix _).subset hc)

/-- Without leading zeros there are none to drop. -/
theorem wholePart_wholePart (digits : List Char) :
    wholePart (wholePart digits) = wholePart digits := by
  cases hDrop : digits.dropWhile (· == '0') with
  | nil =>
      have hZero : wholePart digits = ['0'] := by rw [wholePart, hDrop]
      rw [hZero]
      rfl
  | cons c more =>
      have hWhole : wholePart digits = c :: more := by rw [wholePart, hDrop]
      have hStop := stop_dropWhile (· == '0') digits c (by rw [hDrop]; rfl)
      rw [hWhole, wholePart, List.dropWhile_cons_of_neg (by simp [hStop])]

/-- A number written in its normal form is that number. -/
theorem Numeral.normal {number left : List Char} {kind : Kind} {text : String}
    (form : Numeral number left (.lexeme kind text)) (behind : List Char) :
    Numeral text.toList behind (.lexeme kind text) ∧ kind ≠ .literal .string := by
  cases form with
  | integer nonempty whole =>
      have normal : Numeral (wholePart number) behind (Lexeme.integer (wholePart number)) :=
        .integer (wholePart_ne_nil number) (isDigit_of_mem_wholePart whole)
      rw [Lexeme.integer, wholePart_wholePart] at normal
      rw [String.toList_ofList]
      exact ⟨normal, nofun⟩
  | @float digits fraction _ nonempty whole part =>
      have normal : Numeral (wholePart digits ++ '.' :: fraction) behind
          (Lexeme.float (wholePart digits) fraction) :=
        .float (wholePart_ne_nil digits) (isDigit_of_mem_wholePart whole) part
      simp only [Lexeme.float, List.isEmpty_iff, wholePart_ne_nil, if_false,
        wholePart_wholePart] at normal
      simp only [List.isEmpty_iff, nonempty, if_false, String.toList_ofList]
      exact ⟨normal, nofun⟩
  | @dotFloat fraction _ nonempty part =>
      have normal : Numeral (['0'] ++ '.' :: fraction) behind (Lexeme.float ['0'] fraction) :=
        .float (List.cons_ne_nil _ _) (List.forall_mem_singleton.2 rfl) part
      rw [String.toList_ofList]
      exact ⟨normal, nofun⟩

end Numbers

/-- No word is a string literal. -/
theorem wordKind_ne_string (word : List Char) : wordKind word ≠ .literal .string := by
  have hAll : ∀ kind ∈ .identifier :: .collectionName :: Kind.reserved.map (·.2),
      kind ≠ .literal .string := by decide
  exact hAll _ (wordKind_mem word)

/-- The text of a sign is its spelling. -/
theorem toList_text_of_mem_signs : ∀ sign ∈ signs, sign.2.fault? = none →
    sign.2.text.toList = sign.1 ∧ sign.2.kind ≠ .literal .string := by decide

section Forms

variable {lexeme left : List Char} {kind : Kind} {text : String}

/-- However a lexeme is written anew, it stands for the same. -/
theorem Form.of_spelled {spelling : List Char} (form : Form lexeme left (.lexeme kind text))
    (spelled : Spelled kind text spelling) (behind : List Char) :
    Form spelling behind (.lexeme kind text) := by
  cases form with
  | word form =>
      cases form with
      | intro starts continues =>
          rw [spelled.eq_toList (wordKind_ne_string _), String.toList_ofList]
          exact .word (.intro starts continues)
  | numeral form =>
      obtain ⟨normal, other⟩ := form.normal behind
      rw [spelled.eq_toList other]
      exact .numeral normal
  | quoted form =>
      obtain ⟨-, closing⟩ := form
      cases closing with
      | quote =>
          cases spelled with
          | literal items =>
              have form : Quoted _ behind _ := .intro items .quote
              rw [String.ofList_toList] at form
              exact .quoted form
          | plain other => exact (other rfl).elim
  | signed form =>
      cases form with
      | listed mem =>
          obtain ⟨hText, other⟩ := toList_text_of_mem_signs _ mem rfl
          rw [spelled.eq_toList other]
          exact .signed (.listed (hText ▸ mem))

/-- A lexeme without a fault begins with no blank and no mark of a comment. -/
theorem Form.beginsLexeme (form : Form lexeme left (.lexeme kind text)) (behind : List Char) :
    BeginsLexeme (lexeme ++ behind) := by
  obtain ⟨first, rest, rfl⟩ := List.exists_cons_of_ne_nil form.ne_nil
  rw [beginsLexeme_iff]
  intro c hc hSeparates
  obtain rfl := Option.some.inj hc
  obtain ⟨hName, hDigit, hPoint, hSigns⟩ := hSeparates.plain
  cases form with
  | word form => simp [form.continues first List.mem_cons_self] at hName
  | numeral form =>
      rcases form.mem first List.mem_cons_self with h | h
      · simp [h] at hDigit
      · exact hPoint h
  | quoted form =>
      obtain rfl := Option.some.inj form.head
      exact absurd hSeparates.mem (by decide)
  | signed form =>
      cases form with
      | listed mem => exact hSigns _ mem List.mem_cons_self

end Forms

end Coll.Lexeme

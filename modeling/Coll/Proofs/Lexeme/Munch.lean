import Coll.Lexeme.Scanner
import Coll.Proofs.Lexeme.Literal
import Coll.Proofs.Lexeme.Numeral
import Coll.Proofs.Lexeme.Signed

/-!
The lexemes of the language, and that scanning reads the longest one. The first character tells
which form a lexeme has. Only a point leaves a choice, which the character after it decides.
-/

namespace Coll.Lexeme

/-- A lexeme, well formed or not, with what is left behind it and what it stands for. -/
inductive Form : List Char → List Char → Outcome → Prop where
  | word {lexeme left : List Char} {outcome : Outcome} (form : Word lexeme left outcome) :
      Form lexeme left outcome
  | numeral {lexeme left : List Char} {outcome : Outcome} (form : Numeral lexeme left outcome) :
      Form lexeme left outcome
  | quoted {lexeme left : List Char} {outcome : Outcome} (form : Quoted lexeme left outcome) :
      Form lexeme left outcome
  | signed {lexeme left : List Char} {outcome : Outcome} (form : Signed lexeme left outcome) :
      Form lexeme left outcome

/-- Some lexeme stands before what is left. -/
def IsLexeme (lexeme left : List Char) : Prop := ∃ outcome, Form lexeme left outcome

theorem not_startsName_of_isDigit {c : Char} (hDigit : c.isDigit) : startsName c = false := by
  have hRange : 48 ≤ c.toNat ∧ c.toNat ≤ 57 := by
    simpa [Char.isDigit, UInt32.le_iff_toNat_le] using hDigit
  have hAscii : Unicode.isAscii c := by
    simp only [Unicode.isAscii, decide_eq_true_eq]
    omega
  have hMark : c ≠ '_' := by
    rintro rfl
    contradiction
  have hUpper : c.isUpper = false := by
    refine decide_eq_false fun h => ?_
    have hLe : 65 ≤ c.toNat := UInt32.le_iff_toNat_le.1 h.1
    omega
  have hLower : c.isLower = false := by
    refine Bool.and_eq_false_iff.2 (.inl (decide_eq_false fun h => ?_))
    have hLe : 97 ≤ c.toNat := UInt32.le_iff_toNat_le.1 h
    omega
  have hAlpha : c.isAlpha = false := Bool.or_eq_false_iff.2 ⟨hUpper, hLower⟩
  simp [startsName, Unicode.isAlphabetic, hAscii, hMark, hAlpha]

section Heads

variable {lexeme left : List Char} {outcome : Outcome} {c : Char}

theorem Form.ne_nil (form : Form lexeme left outcome) : lexeme ≠ [] := by
  rintro rfl
  cases form with
  | word form => obtain ⟨c, hc, -⟩ := form.startsName; cases hc
  | numeral form => rcases form.head with ⟨c, hc, -⟩ | ⟨c, part, h, -⟩ <;> contradiction
  | quoted form => cases form.head
  | signed form => exact form.ne_nil rfl

/-- A lexeme begins with the character that the text begins with. -/
theorem Form.head? {behind text : List Char} (form : Form lexeme left outcome)
    (hSame : lexeme ++ behind = c :: text) : lexeme.head? = some c := by
  obtain ⟨d, rest, rfl⟩ := List.exists_cons_of_ne_nil form.ne_nil
  obtain ⟨rfl, -⟩ := List.cons.inj hSame
  rfl

/-- A number begins with no letter and no quote. -/
theorem Numeral.head_plain (form : Numeral lexeme left outcome) (hHead : lexeme.head? = some c) :
    startsName c = false ∧ c ≠ '"' ∧ (c.isDigit ∨ c = '.') := by
  rcases form.head with ⟨d, hd, hDigit⟩ | ⟨d, part, rfl, -⟩
  · obtain rfl := Option.some.inj (hHead.symm.trans hd)
    refine ⟨not_startsName_of_isDigit hDigit, ?_, .inl hDigit⟩
    rintro rfl
    contradiction
  · obtain rfl := Option.some.inj hHead
    decide

theorem Form.word_of_startsName (form : Form lexeme left outcome) (hHead : lexeme.head? = some c)
    (hName : startsName c) : Word lexeme left outcome := by
  cases form with
  | word form => exact form
  | numeral form => simp [(form.head_plain hHead).1] at hName
  | quoted form =>
      obtain rfl := Option.some.inj (hHead.symm.trans form.head)
      exact absurd hName (by decide)
  | signed form => simp [(form.head c hHead).1] at hName

theorem Form.numeral_of_isDigit (form : Form lexeme left outcome) (hHead : lexeme.head? = some c)
    (hDigit : c.isDigit) : Numeral lexeme left outcome := by
  cases form with
  | word form =>
      obtain ⟨d, hd, hName⟩ := form.startsName
      obtain rfl := Option.some.inj (hHead.symm.trans hd)
      simp [not_startsName_of_isDigit hDigit] at hName
  | numeral form => exact form
  | quoted form =>
      obtain rfl := Option.some.inj (hHead.symm.trans form.head)
      exact absurd hDigit (by decide)
  | signed form => simp [(form.head c hHead).2.1] at hDigit

theorem Form.quoted_of_quote (form : Form lexeme left outcome) (hHead : lexeme.head? = some '"') :
    Quoted lexeme left outcome := by
  cases form with
  | word form =>
      obtain ⟨d, hd, hName⟩ := form.startsName
      obtain rfl := Option.some.inj (hHead.symm.trans hd)
      exact absurd hName (by decide)
  | numeral form => exact absurd rfl (form.head_plain hHead).2.1
  | quoted form => exact form
  | signed form => exact absurd rfl (form.head '"' hHead).2.2

/-- Everything else is a sign, unless it is a number that begins with its point. -/
theorem Form.signed_or_numeral (form : Form lexeme left outcome) (hHead : lexeme.head? = some c)
    (hName : startsName c = false) (hDigit : c.isDigit = false) (hQuote : c ≠ '"') :
    Signed lexeme left outcome ∨ Numeral lexeme left outcome ∧ c = '.' := by
  cases form with
  | word form =>
      obtain ⟨d, hd, hStarts⟩ := form.startsName
      obtain rfl := Option.some.inj (hHead.symm.trans hd)
      simp [hName] at hStarts
  | numeral form =>
      rcases (form.head_plain hHead).2.2 with h | h
      · simp [hDigit] at h
      · exact .inr ⟨form, h⟩
  | quoted form => exact absurd (Option.some.inj (hHead.symm.trans form.head)) hQuote
  | signed form => exact .inl form

/-- The only sign that begins with a point is the point. -/
theorem Signed.eq_point (form : Signed lexeme left outcome) (hHead : lexeme.head? = some '.') :
    lexeme = ['.'] := by
  have hTable : ∀ sign ∈ signs, sign.1.head? = some '.' → sign.1 = ['.'] := by decide
  cases form with
  | listed mem => exact hTable _ mem hHead
  | strange => exact congrArg (fun c => [c]) (Option.some.inj hHead)

theorem Numeral.ne_point (form : Numeral lexeme left outcome) : lexeme ≠ ['.'] := by
  rintro rfl
  rcases form.head with ⟨d, hd, hDigit⟩ | ⟨d, part, h, -⟩
  · obtain rfl := Option.some.inj hd
    contradiction
  · cases h

end Heads

/-- What a lexeme stands for is determined by the lexeme. -/
theorem Form.unique {lexeme left : List Char} {outcome outcome' : Outcome}
    (form : Form lexeme left outcome) (form' : Form lexeme left outcome') : outcome = outcome' := by
  obtain ⟨c, rest, hLexeme⟩ := List.exists_cons_of_ne_nil form.ne_nil
  have hHead : lexeme.head? = some c := by rw [hLexeme, List.head?_cons]
  by_cases hName : startsName c
  · exact (form.word_of_startsName hHead hName).unique (form'.word_of_startsName hHead hName)
  by_cases hDigit : c.isDigit
  · exact (form.numeral_of_isDigit hHead hDigit).unique (form'.numeral_of_isDigit hHead hDigit)
  by_cases hQuote : c = '"'
  · subst hQuote
    exact ((form.quoted_of_quote hHead).unique (form'.quoted_of_quote hHead) rfl).2
  simp only [Bool.not_eq_true] at hName hDigit
  rcases form.signed_or_numeral hHead hName hDigit hQuote with sign | ⟨number, rfl⟩ <;>
    rcases form'.signed_or_numeral hHead hName hDigit hQuote with sign' | ⟨number', hPoint⟩
  · exact sign.unique sign'
  · subst hPoint
    exact (number'.ne_point (sign.eq_point hHead)).elim
  · exact (number.ne_point (sign'.eq_point hHead)).elim
  · exact number.unique number'

variable {σ : Type} [FiniteStream σ]

/-- Looking ahead to a digit tells what the cursor will be on. -/
theorem exists_digit_of_peek {cursor : Cursor σ} (hDigit : cursor.peek.1.isDigit) :
    ∃ d, cursor.peek.2.advance.current = some d ∧ d.isDigit := by
  rw [Cursor.peek_eq_getD] at hDigit
  rw [← Cursor.head?_rest, Cursor.rest_advance, Cursor.rest_peek]
  cases hNext : cursor.rest.tail.head? with
  | none =>
      rw [hNext] at hDigit
      exact absurd hDigit (by decide)
  | some d =>
      rw [hNext] at hDigit
      exact ⟨d, rfl, hDigit⟩

/-- A number that begins with its point has a digit where looking ahead looks. -/
theorem Numeral.isDigit_of_point {cursor : Cursor σ} {number behind : List Char} {outcome : Outcome}
    (form : Numeral number behind outcome) (hHead : number.head? = some '.')
    (hSame : number ++ behind = cursor.rest) : cursor.peek.1.isDigit := by
  rw [Cursor.peek_eq_getD, ← hSame]
  rcases form.head with ⟨d, hd, hDigit⟩ | ⟨d, part, rfl, hDigit⟩
  · obtain rfl := Option.some.inj (hHead.symm.trans hd)
    contradiction
  · exact hDigit

/-- From a point on, the character behind it decides between a number and the sign. -/
theorem scan_reading_point {cursor : Cursor σ} (hHere : cursor.current = some '.') :
    ∃ lexeme, Reading Form cursor lexeme (scan cursor) := by
  have hChar : cursor.char = '.' := by simp [Cursor.char, hHere]
  have hPeek : cursor.peek.2.current = some '.' := (Cursor.current_peek cursor).trans hHere
  have hText : cursor.rest = '.' :: cursor.advance.rest := Cursor.rest_eq_cons hHere
  have hOther {other behind outcome} (hSame : other ++ behind = cursor.peek.2.rest)
      (form : Form other behind outcome) :
      Signed other behind outcome ∨ Numeral other behind outcome := by
    rw [Cursor.rest_peek, hText] at hSame
    exact (form.signed_or_numeral (form.head? hSame) (by decide) (by decide) (by decide)).imp_right
      And.left
  unfold scan
  rw [hChar, if_neg (by decide), if_neg (by decide), if_pos rfl]
  dsimp only
  by_cases hDigit : cursor.peek.1.isDigit
  · rw [if_pos hDigit]
    obtain ⟨d, hNext, hDigit⟩ := exists_digit_of_peek hDigit
    obtain ⟨number, hRead⟩ := scanDotFloat_reading hPeek hNext hDigit
    refine ⟨number, (hRead.widen (.numeral hRead.form) fun hSame form => ?_).of_peek⟩
    rcases hOther hSame form with sign | form
    · refine .inr ?_
      rw [sign.eq_point (form.head? (hSame.trans ((Cursor.rest_peek cursor).trans hText)))]
      exact List.length_pos_iff.2 (Form.numeral hRead.form).ne_nil
    · exact .inl form
  · rw [if_neg hDigit]
    obtain ⟨sign, hRead⟩ := scanSign_reading hPeek (by decide) (by decide) (by decide)
    refine ⟨sign, (hRead.widen (.signed hRead.form) fun hSame form => ?_).of_peek⟩
    rcases hOther hSame form with form | number
    · exact .inl form
    · refine absurd ?_ hDigit
      rw [Cursor.rest_peek] at hSame
      exact number.isDigit_of_point (Form.head? (.numeral number) (hSame.trans hText)) hSame

/-- Scanning reads the longest lexeme that the text ahead begins with. -/
theorem scan_reading {cursor : Cursor σ} {c : Char} (hHere : cursor.current = some c) :
    ∃ lexeme, Reading Form cursor lexeme (scan cursor) := by
  have hChar : cursor.char = c := by simp [Cursor.char, hHere]
  have hText := Cursor.rest_eq_cons hHere
  by_cases hPoint : c = '.'
  · subst hPoint
    exact scan_reading_point hHere
  unfold scan
  rw [hChar]
  by_cases hName : startsName c
  · rw [if_pos hName]
    have hRead := scanName_reading hHere hName
    exact ⟨_, hRead.widen (.word hRead.form) fun hSame form =>
      .inl (form.word_of_startsName (form.head? (hSame.trans hText)) hName)⟩
  rw [if_neg hName]
  by_cases hDigit : c.isDigit
  · rw [if_pos hDigit]
    obtain ⟨number, hRead⟩ := scanNumber_reading hHere hDigit
    exact ⟨number, hRead.widen (.numeral hRead.form) fun hSame form =>
      .inl (form.numeral_of_isDigit (form.head? (hSame.trans hText)) hDigit)⟩
  rw [if_neg hDigit, if_neg hPoint]
  by_cases hQuote : c = '"'
  · subst hQuote
    rw [if_pos rfl]
    obtain ⟨literal, hRead⟩ := scanString_reading hHere
    exact ⟨literal, hRead.widen (.quoted hRead.form) fun hSame form =>
      .inl (form.quoted_of_quote (form.head? (hSame.trans hText)))⟩
  rw [if_neg hQuote]
  simp only [Bool.not_eq_true] at hName hDigit
  obtain ⟨sign, hRead⟩ := scanSign_reading hHere hName hDigit hQuote
  refine ⟨sign, hRead.widen (.signed hRead.form) fun hSame form => ?_⟩
  have hHead := form.head? (hSame.trans hText)
  rcases form.signed_or_numeral hHead hName hDigit hQuote with form | ⟨-, h⟩
  · exact .inl form
  · exact (hPoint h).elim

end Coll.Lexeme

import Coll.Proofs.Lexeme.Gap
import Coll.Proofs.Lexeme.Munch

/-!
Where lexemes and gaps end. One character behind a lexeme decides that the lexeme ends there: with
the same character behind it, or with one that no lexeme goes on with, it stays the longest.
-/

namespace Coll.Lexeme

/-- No lexeme goes on with `c`, unless it is quoted: `c` begins trivia. -/
def Separates (c : Char) : Prop := isBlank c ∨ c = commentMark

/-- The text is over, or trivia begins it. -/
def Separated (text : List Char) : Prop := ∀ c ∈ text.head?, Separates c

/-- The characters that separate lexemes. -/
theorem Separates.mem {c : Char} (h : Separates c) : c ∈ [' ', '\t', '\n', '\r', '#'] := by
  rcases h with h | rfl
  · simp only [isBlank, Bool.or_eq_true, beq_iff_eq, or_assoc] at h
    rcases h with rfl | rfl | rfl | rfl <;> decide
  · decide

/-- No word, no number and no sign has a separating character in it. -/
theorem Separates.plain {c : Char} (h : Separates c) :
    continuesName c = false ∧ c.isDigit = false ∧ c ≠ '.' ∧ ∀ sign ∈ signs, c ∉ sign.1 := by
  have hAll : [' ', '\t', '\n', '\r', '#'].all fun c =>
      !continuesName c && !c.isDigit && c != '.' && signs.all (!·.1.contains c) := by decide
  simpa [and_assoc] using List.all_eq_true.1 hAll c h.mem

theorem beginsLexeme_iff {text : List Char} :
    BeginsLexeme text ↔ ∀ c ∈ text.head?, ¬ Separates c := by
  simp [BeginsLexeme, Separates]

section Numbers

variable {number left : List Char} {outcome : Outcome}

/-- A number consists of digits and points. -/
theorem Numeral.mem (form : Numeral number left outcome) :
    ∀ c ∈ number, c.isDigit ∨ c = '.' := by
  intro c hc
  cases form with
  | integer _ whole => exact .inl (whole c hc)
  | float _ whole part =>
      rcases List.mem_append.1 hc with hc | hc
      · exact .inl (whole c hc)
      · rcases List.mem_cons.1 hc with hc | hc
        · exact .inr hc
        · exact .inl (part c hc)
  | dotFloat _ part =>
      rcases List.mem_cons.1 hc with hc | hc
      · exact .inr hc
      · exact .inl (part c hc)

/-- What a number begins with is a number, or the point alone. -/
theorem Numeral.isLexeme_of_prefix {start : List Char} (form : Numeral number left outcome)
    (hStart : start <+: number) (hNonempty : start ≠ []) (behind : List Char) :
    IsLexeme start behind := by
  cases form with
  | integer _ whole =>
      exact ⟨_, .numeral (.integer hNonempty fun c hc => whole c (hStart.subset hc))⟩
  | @float digits fraction _ nonempty whole part =>
      obtain ⟨rest, hRest⟩ := hStart
      rcases List.append_eq_append_iff.1 hRest with ⟨more, rfl, -⟩ | ⟨more, rfl, hMore⟩
      · exact ⟨_, .numeral (.integer hNonempty fun c hc => whole c (List.mem_append_left _ hc))⟩
      · cases more with
        | nil =>
            rw [List.append_nil]
            exact ⟨_, .numeral (.integer nonempty whole)⟩
        | cons c more =>
            obtain ⟨rfl, rfl⟩ := List.cons.inj hMore
            exact ⟨_, .numeral
              (.float nonempty whole fun c hc => part c (List.mem_append_left _ hc))⟩
  | @dotFloat fraction _ nonempty part =>
      obtain ⟨c, more, rfl⟩ := List.exists_cons_of_ne_nil hNonempty
      obtain ⟨rfl, hMore⟩ := List.cons_prefix_cons.1 hStart
      cases more with
      | nil => exact ⟨.delimiter .dot, .signed (.listed (by decide))⟩
      | cons c more =>
          exact ⟨_, .numeral
            (.dotFloat (List.cons_ne_nil _ _) fun c hc => part c (hMore.subset hc))⟩

end Numbers

/-- What a sign of the table begins with stands in the table. -/
theorem mem_signs_of_prefix {sign start : List Char} {outcome : Outcome}
    (hMem : (sign, outcome) ∈ signs) (hStart : start <+: sign) (hNonempty : start ≠ []) :
    ∃ outcome', (start, outcome') ∈ signs := by
  have hTable : ∀ sign ∈ signs, ∀ count ∈ List.range (sign.1.length + 1), count ≠ 0 →
      ∃ entry ∈ signs, entry.1 = sign.1.take count := by decide
  obtain ⟨⟨spelling, outcome'⟩, hEntry, hSpelling⟩ := hTable _ hMem start.length
    (List.mem_range.2 (Nat.lt_succ_of_le hStart.length_le))
    fun h => hNonempty (List.length_eq_zero_iff.1 h)
  obtain rfl : spelling = start := hSpelling.trans (List.prefix_iff_eq_take.1 hStart).symm
  exact ⟨outcome', hEntry⟩

section Forms

variable {lexeme left : List Char} {outcome : Outcome}

/-- A lexeme that is not quoted has no separating character behind its first one. -/
theorem Form.not_separates_of_mem_tail (form : Form lexeme left outcome)
    (hQuote : lexeme.head? ≠ some '"') : ∀ c ∈ lexeme.tail, ¬ Separates c := by
  intro c hc hSeparates
  obtain ⟨hName, hDigit, hPoint, hSigns⟩ := hSeparates.plain
  have hMem := List.mem_of_mem_tail hc
  cases form with
  | word form => simp [form.continues c hMem] at hName
  | numeral form =>
      rcases form.mem c hMem with h | h
      · simp [h] at hDigit
      · exact hPoint h
  | quoted form => exact hQuote form.head
  | signed form =>
      cases form with
      | listed mem => exact hSigns _ mem hMem
      | strange => simp at hc

/-- What a lexeme begins with is a lexeme as well, if it is not quoted. -/
theorem Form.isLexeme_of_prefix {start : List Char} (form : Form lexeme left outcome)
    (hQuote : lexeme.head? ≠ some '"') (hStart : start <+: lexeme) (hNonempty : start ≠ [])
    (behind : List Char) : IsLexeme start behind := by
  cases form with
  | word form =>
      obtain ⟨c, more, rfl⟩ := List.exists_cons_of_ne_nil hNonempty
      cases form with
      | intro starts continues =>
          obtain ⟨rfl, hMore⟩ := List.cons_prefix_cons.1 hStart
          exact ⟨_, .word (.intro starts fun c hc => continues c (hMore.subset hc))⟩
  | numeral form => exact form.isLexeme_of_prefix hStart hNonempty behind
  | quoted form => exact (hQuote form.head).elim
  | signed form =>
      cases form with
      | listed mem =>
          obtain ⟨_, hStartMem⟩ := mem_signs_of_prefix mem hStart hNonempty
          exact ⟨_, .signed (.listed hStartMem)⟩
      | @strange c _ begins =>
          obtain ⟨d, more, rfl⟩ := List.exists_cons_of_ne_nil hNonempty
          obtain ⟨rfl, hMore⟩ := List.cons_prefix_cons.1 hStart
          rw [List.prefix_nil.1 hMore]
          exact ⟨_, .signed (.strange begins)⟩

/-- Only a literal that the end of the text breaks off depends on what is left behind it. -/
theorem Form.of_closed (form : Form lexeme left outcome)
    (hClosed : outcome ≠ .malformed .unterminated) (behind : List Char) :
    Form lexeme behind outcome := by
  cases form with
  | word form =>
      cases form with
      | intro starts continues => exact .word (.intro starts continues)
  | numeral form =>
      cases form with
      | integer nonempty whole => exact .numeral (.integer nonempty whole)
      | float nonempty whole part => exact .numeral (.float nonempty whole part)
      | dotFloat nonempty part => exact .numeral (.dotFloat nonempty part)
  | quoted form =>
      obtain ⟨items, closing⟩ := form
      cases closing with
      | quote => exact .quoted (.intro items .quote)
      | invalid meaningless => exact .quoted (.intro items (.invalid meaningless))
      | textEnd => exact (hClosed rfl).elim
      | endAfterBackslash => exact (hClosed rfl).elim
  | signed form =>
      cases form with
      | listed mem => exact .signed (.listed mem)
      | strange begins => exact .signed (.strange begins)

/-- A literal that the end of the text breaks off has nothing left behind it. -/
theorem Form.left_eq_nil (form : Form lexeme left (.malformed .unterminated)) : left = [] := by
  have hSigns : ∀ sign ∈ signs, sign.2 ≠ .malformed .unterminated := by decide
  cases form with
  | word form => cases form
  | numeral form => cases form
  | quoted form =>
      obtain ⟨-, closing⟩ := form
      cases closing <;> rfl
  | signed form =>
      cases form with
      | listed mem => exact (hSigns _ mem rfl).elim

/-- A lexeme that could be longer goes on with the character behind it, and then that one character
already makes a longer lexeme. -/
theorem Form.longer {other behind : List Char} {outcome' : Outcome}
    (form : Form lexeme left outcome) (form' : Form other behind outcome')
    (hSame : other ++ behind = lexeme ++ left) (hLonger : lexeme.length < other.length) :
    ∃ c ∈ left.head?, ¬ Separates c ∧ ∀ left', IsLexeme (lexeme ++ [c]) left' := by
  obtain ⟨more, rfl, rfl⟩ : ∃ more, other = lexeme ++ more ∧ left = more ++ behind := by
    rcases List.append_eq_append_iff.1 hSame with ⟨more, rfl, -⟩ | ⟨more, rfl, rfl⟩
    · rw [List.length_append] at hLonger
      omega
    · exact ⟨more, rfl, rfl⟩
  obtain ⟨first, rest, rfl⟩ := List.exists_cons_of_ne_nil form.ne_nil
  have hQuote : (first :: rest ++ more).head? ≠ some '"' := by
    intro hHead
    obtain ⟨hEq, -⟩ := (form.quoted_of_quote hHead).unique (form'.quoted_of_quote hHead) hSame.symm
    rw [← hEq] at hLonger
    exact Nat.lt_irrefl _ hLonger
  cases more with
  | nil => simp at hLonger
  | cons c more =>
      refine ⟨c, rfl, form'.not_separates_of_mem_tail hQuote c (by simp), fun left' => ?_⟩
      have hStart : first :: rest ++ [c] <+: first :: rest ++ c :: more :=
        (List.prefix_append_right_inj _).2 (List.prefix_append [c] more)
      exact form'.isLexeme_of_prefix hQuote hStart (by simp) left'

/-- A lexeme that trivia follows, or nothing, cannot be made longer. -/
theorem Form.longest_of_separated (form : Form lexeme left outcome) (hLeft : Separated left) :
    Longest IsLexeme lexeme left := by
  refine ⟨⟨outcome, form⟩, ?_⟩
  rintro other behind hSame ⟨outcome', form'⟩
  refine Nat.le_of_not_lt fun hLonger => ?_
  obtain ⟨c, hc, hPlain, -⟩ := form.longer form' hSame hLonger
  exact hPlain (hLeft c hc)

/-- Whether a lexeme could be longer is seen from the one character behind it. -/
theorem Form.longest_of_head? {left' : List Char} (form : Form lexeme left outcome)
    (longest : Longest IsLexeme lexeme left) (hHead : left'.head? = left.head?) :
    Form lexeme left' outcome ∧ Longest IsLexeme lexeme left' := by
  by_cases hClosed : outcome = .malformed .unterminated
  · subst hClosed
    obtain rfl := form.left_eq_nil
    rw [List.head?_nil, List.head?_eq_none_iff] at hHead
    exact hHead ▸ ⟨form, longest⟩
  have form' := form.of_closed hClosed left'
  refine ⟨form', ⟨_, form'⟩, ?_⟩
  rintro other behind hSame ⟨outcome', hOther⟩
  refine Nat.le_of_not_lt fun hLonger => ?_
  obtain ⟨c, hc, -, hLexeme⟩ := form'.longer hOther hSame hLonger
  obtain ⟨more, rfl⟩ := List.head?_eq_some_iff.1 (hHead.symm.trans hc)
  have hLe := longest.length_le (lexeme ++ [c]) more (List.append_cons _ _ _).symm (hLexeme more)
  rw [List.length_append] at hLe
  exact absurd hLe (Nat.not_succ_le_self _)

end Forms

section Gaps

variable {gap left : List Char}

/-- Of what is left behind trivia only its beginning counts: a comment must not go on there. -/
theorem Trivia.of_endsLine {left' : List Char} (trivia : Trivia gap left)
    (hEnds : EndsLine left → EndsLine left') : Trivia gap left' := by
  induction trivia with
  | nil => exact .nil left'
  | blank hBlank _ ih => exact .blank hBlank (ih hEnds)
  | @comment body stretch left hLine hEnd _ ih =>
      refine .comment hLine ?_ (ih hEnds)
      cases stretch with
      | nil => exact hEnds hEnd
      | cons => exact hEnd

theorem Trivia.append {more : List Char} (trivia : Trivia gap (more ++ left))
    (hMore : Trivia more left) : Trivia (gap ++ more) left := by
  generalize hText : more ++ left = text at trivia
  induction trivia with
  | nil => exact hMore
  | blank hBlank _ ih => exact .blank hBlank (ih hText)
  | comment hLine hEnd _ ih =>
      subst hText
      rw [List.append_assoc]
      exact .comment hLine (by rwa [List.append_assoc]) (ih rfl)

/-- Trivia begins with a separating character. -/
theorem Trivia.separated (trivia : Trivia gap []) : Separated gap := by
  intro c hc
  cases trivia with
  | nil => cases hc
  | blank hBlank => exact Option.some.inj hc ▸ .inl hBlank
  | comment => exact Option.some.inj hc ▸ .inr rfl

/-- Behind the longest trivia a lexeme begins, or the text is over. -/
theorem Longest.beginsLexeme (longest : Longest Trivia gap left) : BeginsLexeme left := by
  let cursor := Cursor.ofStream (gap ++ left)
  have hText : cursor.rest = gap ++ left := by
    rw [Cursor.rest_ofStream, CharStream.toList_list]
  obtain ⟨gap', hMoved, longest'⟩ := longest_skipTrivia cursor
  obtain ⟨-, hLeft⟩ := longest.unique longest' (hText.symm.trans hMoved.rest_eq)
  rw [hLeft]
  exact beginsLexeme_skipTrivia cursor

/-- Whether trivia could be longer is seen from the one character behind it. -/
theorem Longest.trivia_of_head? {left' : List Char} (longest : Longest Trivia gap left)
    (hHead : left'.head? = left.head?) : Longest Trivia gap left' := by
  refine (longest.mem.of_endsLine fun hEnds => ?_).longest ?_
  · rwa [EndsLine, hHead]
  · rw [BeginsLexeme, hHead]
    exact longest.beginsLexeme

end Gaps

end Coll.Lexeme

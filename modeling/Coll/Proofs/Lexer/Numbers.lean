import Coll.Proofs.Lexer.Literals
import Coll.Proofs.Text.Numeral

/-!
Numbers where a lexer meets them. Which number comes next is told by the runs of digits in the text,
and its token has a text that denotes the same: the whole part becomes canonical, the fraction stays
as it is written.
-/

namespace Coll

open Text (Canonical decimal natural rational)

namespace Lexeme

/-- A run of digits that does not go on in what is left behind it. -/
structure DigitRun (run left : List Char) : Prop where
  digits : ∀ c ∈ run, c.isDigit
  stops : ∀ c ∈ left.head?, c.isDigit = false

/-- The number that a text begins with and what is left behind it, with the kind and the text of its
token: digits that no point follows; or digits, a point and digits, where those on one side may be
missing. -/
inductive NumberAhead : List Char → List Char → Kind → List Char → Prop where
  | integer {digits left : List Char} (nonempty : digits ≠ []) (run : DigitRun digits left)
      (noPoint : left.head? ≠ some '.') :
      NumberAhead digits left (.literal .integer) (decimal (natural digits))
  | float {whole fraction left : List Char} (nonempty : whole ≠ [] ∨ fraction ≠ [])
      (digits : ∀ c ∈ whole, c.isDigit) (run : DigitRun fraction left) :
      NumberAhead (whole ++ '.' :: fraction) left (.literal .float)
        (decimal (natural whole) ++ '.' :: fraction)

theorem natural_wholePart (digits : List Char) : natural (wholePart digits) = natural digits := by
  rw [← Text.natural_dropWhile_zero digits]
  unfold wholePart
  split
  · next hNone => rw [hNone]; rfl
  · rfl

theorem canonical_wholePart {digits : List Char} (whole : ∀ c ∈ digits, c.isDigit) :
    Canonical (wholePart digits) where
  nonempty := wholePart_ne_nil digits
  digits := isDigit_of_mem_wholePart whole
  zero hHead := by
    unfold wholePart at hHead ⊢
    split
    · rfl
    · next hSome =>
        have hStop := stop_dropWhile (· == '0') digits '0'
        split at hHead
        · contradiction
        · exact absurd (hStop hHead) (by decide)

/-- Dropping leading zeros leaves the numeral that the digits are printed as. -/
theorem wholePart_eq_decimal {digits : List Char} (whole : ∀ c ∈ digits, c.isDigit) :
    wholePart digits = decimal (natural digits) := by
  rw [← natural_wholePart]
  exact (canonical_wholePart whole).eq_decimal

namespace NumberAhead

variable {number left text : List Char} {kind : Kind}

/-- A text begins with one number at most. -/
theorem unique {number' left' text' : List Char} {kind' : Kind}
    (ahead : NumberAhead number left kind text) (ahead' : NumberAhead number' left' kind' text')
    (hSame : number ++ left = number' ++ left') :
    number = number' ∧ left = left' ∧ kind = kind' ∧ text = text' := by
  cases ahead with
  | integer _ run noPoint =>
      cases ahead' with
      | integer _ run' =>
          obtain ⟨rfl, rfl⟩ := run_unique run.digits run'.digits run.stops run'.stops hSame
          exact ⟨rfl, rfl, rfl, rfl⟩
      | float _ digits' =>
          rw [List.append_assoc, List.cons_append] at hSame
          obtain ⟨-, rfl⟩ := run_unique run.digits digits' run.stops (point_stops _) hSame
          exact absurd rfl noPoint
  | float _ digits run =>
      rw [List.append_assoc, List.cons_append] at hSame
      cases ahead' with
      | integer _ run' noPoint' =>
          obtain ⟨-, rfl⟩ := run_unique digits run'.digits (point_stops _) run'.stops hSame
          exact absurd rfl noPoint'
      | float _ digits' run' =>
          rw [List.append_assoc, List.cons_append] at hSame
          obtain ⟨rfl, hFraction⟩ := digits_eq_of_point digits digits' hSame
          obtain ⟨rfl, rfl⟩ := run_unique run.digits run'.digits run.stops run'.stops hFraction
          exact ⟨rfl, rfl, rfl, rfl⟩

theorem exists_numeral (ahead : NumberAhead number left kind text) :
    ∃ outcome, Numeral number left outcome := by
  cases ahead with
  | integer nonempty run => exact ⟨_, .integer nonempty run.digits⟩
  | @float whole fraction _ nonempty digits run =>
      cases whole with
      | nil => exact ⟨_, .dotFloat (nonempty.resolve_left (absurd rfl)) run.digits⟩
      | cons c whole => exact ⟨_, .float (List.cons_ne_nil _ _) digits run.digits⟩

/-- Nothing but ASCII digits and a point is taken up. -/
theorem mem (ahead : NumberAhead number left kind text) :
    ∀ c ∈ number, c.isDigit ∨ c = '.' := by
  obtain ⟨outcome, form⟩ := ahead.exists_numeral
  exact form.mem

/-- The text denotes what the number does. -/
theorem rational_eq (ahead : NumberAhead number left kind text) :
    rational text = rational number := by
  cases ahead with
  | integer nonempty run =>
      rw [Text.rational_digits run.digits, Text.rational_digits Text.isDigit_of_mem_decimal,
        Text.natural_decimal]
  | float nonempty digits run =>
      rw [Text.rational_point digits, Text.rational_point Text.isDigit_of_mem_decimal,
        Text.natural_decimal]

end NumberAhead

section Readings

variable {number left : List Char} {outcome : Outcome}

/-- A number that is the longest of its text goes on neither with a digit nor, without a point in it,
with a point. -/
theorem Numeral.numberAhead (form : Numeral number left outcome)
    (longest : ∀ {other behind : List Char} {outcome' : Outcome}, other ++ behind = number ++ left →
      Numeral other behind outcome' → other.length ≤ number.length) :
    ∃ text, NumberAhead number left outcome.kind text ∧ outcome.text = String.ofList text ∧
      outcome.fault? = none := by
  have hMore (c : Char) (hc : c ∈ left.head?) (outcome' : Outcome) :
      ¬ Numeral (number ++ [c]) left.tail outcome' := by
    intro form'
    obtain ⟨behind, rfl⟩ := List.head?_eq_some_iff.1 hc
    have hLe := longest (by simp) form'
    rw [List.length_append, List.length_singleton] at hLe
    omega
  have hDigits {digits : List Char} {c : Char} (whole : ∀ d ∈ digits, d.isDigit)
      (hDigit : c.isDigit) : ∀ d ∈ digits ++ [c], d.isDigit :=
    List.forall_mem_append.2 ⟨whole, List.forall_mem_singleton.2 hDigit⟩
  cases form with
  | integer nonempty whole =>
      refine ⟨decimal (natural number), .integer nonempty ⟨whole, fun c hc => ?_⟩ fun hPoint => ?_,
        ?_, rfl⟩
      · refine Bool.eq_false_iff.2 fun hDigit => hMore c hc _ (.integer ?_ (hDigits whole hDigit))
        exact List.append_ne_nil_of_right_ne_nil _ (List.cons_ne_nil _ _)
      · exact hMore '.' hPoint _ (.float nonempty whole (by simp))
      · exact congrArg String.ofList (wholePart_eq_decimal whole)
  | @float digits fraction _ nonempty whole part =>
      refine ⟨decimal (natural digits) ++ '.' :: fraction,
        .float (.inl nonempty) whole ⟨part, fun c hc => ?_⟩, ?_, rfl⟩
      · refine Bool.eq_false_iff.2 fun hDigit => hMore c hc (Lexeme.float digits (fraction ++ [c])) ?_
        rw [List.append_assoc]
        exact .float nonempty whole (hDigits part hDigit)
      · simp only [Lexeme.float, Outcome.text, List.isEmpty_iff, nonempty, if_false,
          wholePart_eq_decimal whole]
  | @dotFloat fraction _ nonempty part =>
      refine ⟨decimal (natural []) ++ '.' :: fraction,
        @NumberAhead.float [] _ _ (.inr nonempty) (by simp) ⟨part, fun c hc => ?_⟩, rfl, rfl⟩
      refine Bool.eq_false_iff.2 fun hDigit =>
        hMore c hc (Lexeme.float ['0'] (fraction ++ [c])) (.dotFloat ?_ (hDigits part hDigit))
      exact List.append_ne_nil_of_right_ne_nil _ (List.cons_ne_nil _ _)

/-- Only numbers have the kinds of numbers. -/
theorem Form.numeral_of_kind (form : Form number left outcome)
    (hKind : outcome.kind ∈ [.literal .integer, .literal .float]) :
    Numeral number left outcome := by
  cases form with
  | word form =>
      have hWords : ∀ kind ∈ .identifier :: .collectionName :: Kind.reserved.map (·.2),
          kind ∉ [.literal .integer, .literal .float] := by decide
      cases form with
      | intro => exact absurd hKind (hWords _ (wordKind_mem _))
  | numeral form => exact form
  | quoted form =>
      obtain ⟨-, closing⟩ := form
      cases closing <;> simp [Outcome.kind] at hKind
  | signed form =>
      have hSigns : ∀ sign ∈ signs, sign.2.kind ∉ [.literal .integer, .literal .float] := by decide
      cases form with
      | listed mem => exact absurd hKind (hSigns _ mem)
      | strange => simp [Outcome.kind] at hKind

/-- Where a number begins, the longest lexeme is a number. -/
theorem Form.numeral_of_longest {number' left' : List Char} {outcome' : Outcome}
    (form : Form number left outcome) (form' : Numeral number' left' outcome')
    (hSame : number ++ left = number' ++ left') (hLonger : number'.length ≤ number.length) :
    Numeral number left outcome := by
  rcases form'.head with ⟨c, hHead, hDigit⟩ | ⟨c, fraction, rfl, hDigit⟩
  · obtain ⟨more, rfl⟩ := List.head?_eq_some_iff.1 hHead
    exact form.numeral_of_isDigit (form.head? hSame) hDigit
  · have hHead : number.head? = some '.' := form.head? hSame
    rcases form.signed_or_numeral hHead (by decide) (by decide) (by decide) with sign | ⟨number, -⟩
    · rw [sign.eq_point hHead] at hLonger
      simp at hLonger
    · exact number

end Readings

end Lexeme

open Lexeme (NumberAhead)

namespace Lexer

variable {σ : Type} [FiniteStream σ] {lexer : Lexer σ}

/-- Where a number begins, it is taken. -/
theorem takes_of_numberAhead {number left text : List Char} {kind : Kind}
    (ahead : NumberAhead number left kind text) (hAhead : lexer.begin.cursor.rest = number ++ left) :
    lexer.Takes number left kind (String.ofList text) none := by
  obtain ⟨outcome, numeral⟩ := ahead.exists_numeral
  obtain ⟨c, hHere⟩ : ∃ c, lexer.begin.cursor.current = some c := by
    refine Option.ne_none_iff_exists'.1 fun hNone => ?_
    rw [← Cursor.rest_eq_nil_iff, hAhead, List.append_eq_nil_iff] at hNone
    exact (Lexeme.Form.numeral numeral).ne_nil hNone.1
  obtain ⟨lexeme, hRead⟩ := Lexeme.scan_reading hHere
  have hSame := hRead.moved.rest_eq.symm.trans hAhead
  have form := hRead.form.numeral_of_longest numeral hSame
    (hRead.length_le hAhead.symm (.numeral numeral))
  obtain ⟨text', ahead', hText, hFault⟩ := form.numberAhead fun hOther form' =>
    hRead.length_le (hOther.trans hRead.moved.rest_eq.symm) (.numeral form')
  obtain ⟨rfl, rfl, rfl, rfl⟩ := ahead'.unique ahead hSame
  have takes := takes_of_reading hHere rfl hRead
  rwa [hText, hFault] at takes

/-- A token of the kind of a number is a number. -/
theorem exists_numberAhead (hKind : lexer.next.1.token.kind ∈ [.literal .integer, .literal .float]) :
    ∃ number left text, NumberAhead number left lexer.next.1.token.kind text ∧
      lexer.begin.cursor.rest = number ++ left := by
  cases hHere : lexer.begin.cursor.current with
  | none =>
      rw [next_of_atEnd hHere] at hKind
      simp [endScanned] at hKind
  | some c =>
      obtain ⟨lexeme, hRead⟩ := Lexeme.scan_reading hHere
      rw [next_of_current hHere] at hKind ⊢
      have form := hRead.form.numeral_of_kind hKind
      obtain ⟨text, ahead, -⟩ := form.numberAhead fun hOther form' =>
        hRead.length_le (hOther.trans hRead.moved.rest_eq.symm) (.numeral form')
      exact ⟨_, _, text, ahead, hRead.moved.rest_eq⟩

end Lexer

/-- Numbers keep their value. A token is a number just where the text goes on with one: digits that
no point follows, or digits around a point. The lexer then takes all of it and nothing else; no
character but an ASCII digit or a point belongs to it. The text of the token denotes what the number
does: the digits before the point become the canonical numeral of their number, and the fraction
stays as it is. So the texts of two integers are equal just when they are the same number. -/
theorem number_keeps_value {σ : Type} [FiniteStream σ] (lexer : Lexer σ) :
    (∀ kind ∈ [.literal .integer, .literal .float], lexer.next.1.token.kind = kind ↔
      ∃ number left text, NumberAhead number left kind text ∧
        lexer.begin.cursor.rest = number ++ left) ∧
    (∀ number left kind text, NumberAhead number left kind text →
      (lexer.begin.cursor.rest = number ++ left →
        lexer.Takes number left kind (String.ofList text) none) ∧
      (∀ c ∈ number, c ∈ "0123456789.".toList) ∧ rational text = rational number) ∧
    (∀ n, Canonical (decimal n) ∧ natural (decimal n) = n) ∧
    ∀ number left text number' left' text', NumberAhead number left (.literal .integer) text →
      NumberAhead number' left' (.literal .integer) text' →
      (text = text' ↔ natural number = natural number') := by
  refine ⟨fun kind hKind => ⟨?_, ?_⟩, fun number left kind text ahead => ⟨?_, ?_, ?_⟩, ?_, ?_⟩
  · rintro rfl
    exact Lexer.exists_numberAhead hKind
  · rintro ⟨number, left, text, ahead, hAhead⟩
    exact congrArg Token.kind (Lexer.takes_of_numberAhead ahead hAhead).token
  · exact Lexer.takes_of_numberAhead ahead
  · intro c hc
    rcases ahead.mem c hc with hDigit | rfl
    · exact Text.mem_of_isDigit hDigit
    · decide
  · exact ahead.rational_eq
  · exact fun n => ⟨Text.canonical_decimal n, Text.natural_decimal n⟩
  · intro number left text number' left' text' ahead ahead'
    cases ahead
    cases ahead'
    exact Text.decimal_injective.eq_iff

/-- The third token of a text: leading zeros go, the zero at the end stays, and a numeral that is no
ASCII digit is not taken. -/
theorem number_keeps_value_zeros :
    let lexer := (Lexer.ofStream "x = 007.50½".toList).next.2.next.2
    let number := "007.50".toList
    NumberAhead number ['½'] (.literal .float) "7.50".toList ∧
    lexer.begin.cursor.rest = number ++ ['½'] ∧
    lexer.next.1.token.kind = .literal .float ∧
    lexer.Takes number ['½'] (.literal .float) "7.50" none ∧
    rational "7.50".toList = rational number := by
  intro lexer number
  have ahead : NumberAhead number ['½'] (.literal .float) "7.50".toList :=
    @NumberAhead.float ['0', '0', '7'] ['5', '0'] ['½'] (.inl (by decide)) (by simp)
      ⟨by simp, by simp⟩
  have hAhead : lexer.begin.cursor.rest = number ++ ['½'] := by decide +kernel
  obtain ⟨hKind, hTakes, -⟩ := number_keeps_value lexer
  obtain ⟨takes, -, hValue⟩ := hTakes _ _ _ _ ahead
  exact ⟨ahead, hAhead, (hKind _ (by decide)).2 ⟨_, _, _, ahead, hAhead⟩, takes hAhead, hValue⟩

end Coll

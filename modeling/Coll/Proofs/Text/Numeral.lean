import Coll.Text.Numeral
import Mathlib.Algebra.Field.Rat
import Mathlib.Data.List.Basic
import Mathlib.Data.List.TakeWhile

/-!
What numerals denote. Every number has one canonical numeral, without superfluous zeros in front,
which is the one that it is printed as; so equal numerals denote the same number, and reading a
printed number gives it back.
-/

namespace Coll.Text

/-- The number that a run of decimal digits denotes, however many zeros it begins with. -/
def natural (digits : List Char) : Nat := Nat.ofDigitChars 10 digits 0

/-- What digits denote with a point among them. Without a point there is no fraction, and a missing
whole part is zero. -/
def rational (numeral : List Char) : ℚ :=
  let whole := numeral.takeWhile (· != '.')
  let fraction := (numeral.dropWhile (· != '.')).tail
  natural whole + natural fraction / 10 ^ fraction.length

/-- Digits that begin with a zero only if that is all there is. -/
structure Canonical (numeral : List Char) : Prop where
  nonempty : numeral ≠ []
  digits : ∀ c ∈ numeral, c.isDigit
  zero : numeral.head? = some '0' → numeral = ['0']

/-- What a numeral is made of. -/
theorem exists_digitChar_of_mem_toDigits {base n : Nat} (hBase : 1 < base) :
    ∀ c ∈ Nat.toDigits base n, ∃ d < base, d.digitChar = c := by
  induction n using Nat.strongRecOn with
  | ind n ih =>
      rw [Nat.toDigits_eq_if hBase]
      split
      · next hSmall => exact List.forall_mem_singleton.2 ⟨n, hSmall, rfl⟩
      · next hMore =>
          have hLess : n / base < n := Nat.div_lt_self (by omega) hBase
          have hLast : n % base < base := Nat.mod_lt n (by omega)
          exact List.forall_mem_append.2
            ⟨ih _ hLess, List.forall_mem_singleton.2 ⟨n % base, hLast, rfl⟩⟩

@[simp] theorem natural_decimal (n : Nat) : natural (decimal n) = n :=
  Nat.ofDigitChars_ten_toDigits

theorem decimal_injective : Function.Injective decimal := by
  intro m n hSame
  rw [← natural_decimal m, hSame, natural_decimal]

theorem isDigit_of_mem_decimal {n : Nat} : ∀ c ∈ decimal n, c.isDigit :=
  fun _ => Nat.isDigit_of_mem_toDigits (by decide) (by decide)

theorem decimal_of_ten_le {n : Nat} (hLe : 10 ≤ n) :
    decimal n = decimal (n / 10) ++ [(n % 10).digitChar] :=
  Nat.toDigits_of_base_le (by decide) hLe

/-- Numbers are printed without superfluous zeros. -/
theorem canonical_decimal (n : Nat) : Canonical (decimal n) where
  nonempty := Nat.toDigits_ne_nil
  digits := isDigit_of_mem_decimal
  zero hHead := by
    induction n using Nat.strongRecOn with
    | ind n ih =>
        by_cases hSmall : n < 10
        · have hDigit : decimal n = [n.digitChar] := Nat.toDigits_of_lt_base hSmall
          rw [hDigit] at hHead ⊢
          rw [Option.some.inj hHead]
        · have hLe : 10 ≤ n := Nat.le_of_not_lt hSmall
          have hNonempty : decimal (n / 10) ≠ [] := Nat.toDigits_ne_nil
          rw [decimal_of_ten_le hLe, List.head?_append_of_ne_nil _ hNonempty] at hHead
          -- the digits in front would be a zero, but there are some only for a number above it
          have hZero : decimal (n / 10) = decimal 0 := ih (n / 10) (by omega) hHead
          have hNone := decimal_injective hZero
          omega

theorem digitChar_of_isDigit {c : Char} (hDigit : c.isDigit) :
    c.toNat - '0'.toNat < 10 ∧ (c.toNat - '0'.toNat).digitChar = c := by
  obtain ⟨hLow, hHigh⟩ := Char.isDigit_iff_toNat.1 hDigit
  have hValue : c.toNat - '0'.toNat < 10 := by
    change c.toNat ≤ 57 at hHigh
    change c.toNat - 48 < 10
    omega
  refine ⟨hValue, Char.toNat_inj.1 ?_⟩
  rw [Nat.toNat_digitChar_of_lt_ten hValue]
  exact Nat.add_sub_cancel' hLow

theorem mem_of_isDigit {c : Char} (hDigit : c.isDigit) : c ∈ "0123456789.".toList := by
  have hAll : ∀ n < 10, n.digitChar ∈ "0123456789.".toList := by decide
  obtain ⟨hValue, hChar⟩ := digitChar_of_isDigit hDigit
  rw [← hChar]
  exact hAll _ hValue

/-- Digits behind a numeral that does not denote zero. -/
theorem decimal_append {n : Nat} {digits : List Char} (hPos : 0 < n)
    (hDigits : ∀ c ∈ digits, c.isDigit) :
    decimal n ++ digits = decimal (Nat.ofDigitChars 10 digits n) := by
  induction digits generalizing n with
  | nil => simp
  | cons c digits ih =>
      obtain ⟨hFirst, hRest⟩ := List.forall_mem_cons.1 hDigits
      obtain ⟨hValue, hChar⟩ := digitChar_of_isDigit hFirst
      have hOne : decimal n ++ [c] = decimal (10 * n + (c.toNat - '0'.toNat)) := by
        have hSum := Nat.toDigits_append_toDigits (by decide) hPos hValue
        rwa [Nat.toDigits_of_lt_base hValue, hChar] at hSum
      rw [Nat.ofDigitChars_cons, ← ih (by omega) hRest, ← hOne, List.append_assoc,
        List.singleton_append]

/-- A canonical numeral is the one that its number is printed as. -/
theorem Canonical.eq_decimal {numeral : List Char} (canonical : Canonical numeral) :
    numeral = decimal (natural numeral) := by
  obtain ⟨c, digits, rfl⟩ := List.exists_cons_of_ne_nil canonical.nonempty
  obtain ⟨hFirst, hRest⟩ := List.forall_mem_cons.1 canonical.digits
  by_cases hZero : c = '0'
  · subst hZero
    rw [canonical.zero rfl]
    decide
  · obtain ⟨hValue, hChar⟩ := digitChar_of_isDigit hFirst
    have hPos : 0 < c.toNat - '0'.toNat := by
      refine Nat.pos_of_ne_zero fun hNone => hZero ?_
      rw [← hChar, hNone]
      rfl
    have hDecimal : decimal (c.toNat - '0'.toNat) = [c] := by
      rw [decimal, Nat.toDigits_of_lt_base hValue, hChar]
    rw [natural, Nat.ofDigitChars_cons, Nat.mul_zero, Nat.zero_add, ← decimal_append hPos hRest,
      hDecimal, List.singleton_append]

/-- Zeros in front do not count. -/
theorem natural_dropWhile_zero (digits : List Char) :
    natural (digits.dropWhile (· == '0')) = natural digits := by
  induction digits with
  | nil => rfl
  | cons c digits ih =>
      by_cases hZero : c = '0'
      · subst hZero
        rw [List.dropWhile_cons_of_pos rfl, ih]
        rfl
      · rw [List.dropWhile_cons_of_neg (by simpa using hZero)]

theorem ne_point_of_isDigit {c : Char} (hDigit : c.isDigit) : c != '.' := by
  rw [bne_iff_ne]
  rintro rfl
  contradiction

/-- Digits alone denote their number. -/
theorem rational_digits {digits : List Char} (hDigits : ∀ c ∈ digits, c.isDigit) :
    rational digits = natural digits := by
  have hPlain : ∀ c ∈ digits, c != '.' := fun c hc => ne_point_of_isDigit (hDigits c hc)
  rw [rational, List.takeWhile_eq_self_iff.2 hPlain, List.dropWhile_eq_nil_iff.2 hPlain]
  simp [natural]

/-- What a whole part and a fraction denote with a point between them. -/
theorem rational_point {whole : List Char} (hWhole : ∀ c ∈ whole, c.isDigit)
    (fraction : List Char) :
    rational (whole ++ '.' :: fraction) =
      natural whole + natural fraction / 10 ^ fraction.length := by
  have hPlain : ∀ c ∈ whole, c != '.' := fun c hc => ne_point_of_isDigit (hWhole c hc)
  rw [rational, List.takeWhile_append_of_pos hPlain, List.dropWhile_append_of_pos hPlain]
  simp

theorem length_padLeft (width : Nat) (fill : Char) (text : List Char) :
    (padLeft width fill text).length = max width text.length := by
  rw [padLeft, List.length_append, List.length_replicate]
  omega

end Coll.Text

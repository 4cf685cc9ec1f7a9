import Coll.Lexeme.Number
import Coll.Proofs.Lexeme.Reading

/-!
Numbers as they are written, and that the scanners of numbers read the longest one.
-/

namespace Coll.Lexeme

/-- A number: digits, digits with a point and any digits behind it, or a point and digits. -/
inductive Numeral : List Char → List Char → Outcome → Prop where
  | integer {digits left : List Char} (nonempty : digits ≠ []) (whole : ∀ c ∈ digits, c.isDigit) :
      Numeral digits left (integer digits)
  | float {digits fraction left : List Char} (nonempty : digits ≠ [])
      (whole : ∀ c ∈ digits, c.isDigit) (part : ∀ c ∈ fraction, c.isDigit) :
      Numeral (digits ++ '.' :: fraction) left (float digits fraction)
  | dotFloat {fraction left : List Char} (nonempty : fraction ≠ [])
      (part : ∀ c ∈ fraction, c.isDigit) :
      Numeral ('.' :: fraction) left (float ['0'] fraction)

theorem point_stops (text : List Char) : ∀ c ∈ ('.' :: text).head?, c.isDigit = false := by
  intro c hc
  obtain rfl : '.' = c := by simpa using hc
  decide

theorem point_not_mem {digits : List Char} (whole : ∀ c ∈ digits, c.isDigit) : '.' ∉ digits := by
  intro hMem
  have hDigit := whole '.' hMem
  contradiction

/-- No text begins both with digits and with a point. -/
theorem digits_append_ne_point {digits text text' : List Char} (nonempty : digits ≠ [])
    (whole : ∀ c ∈ digits, c.isDigit) : digits ++ text ≠ '.' :: text' := by
  intro h
  obtain ⟨c, rest, rfl⟩ := List.exists_cons_of_ne_nil nonempty
  obtain ⟨rfl, -⟩ := List.cons.inj h
  exact point_not_mem whole List.mem_cons_self

/-- Digits before a point are all the digits there. -/
theorem digits_eq_of_point {digits digits' text text' : List Char} (whole : ∀ c ∈ digits, c.isDigit)
    (whole' : ∀ c ∈ digits', c.isDigit) (h : digits ++ '.' :: text = digits' ++ '.' :: text') :
    digits = digits' ∧ text = text' := by
  obtain ⟨hDigits, hText⟩ := run_unique whole whole' (point_stops text) (point_stops text') h
  exact ⟨hDigits, (List.cons.inj hText).2⟩

/-- A number begins with a digit, or with a point and a digit. -/
theorem Numeral.head {number left : List Char} {outcome : Outcome}
    (form : Numeral number left outcome) :
    (∃ c ∈ number.head?, c.isDigit) ∨
      ∃ c fraction, number = '.' :: c :: fraction ∧ c.isDigit := by
  cases form with
  | integer nonempty whole =>
      obtain ⟨c, rest, rfl⟩ := List.exists_cons_of_ne_nil nonempty
      exact .inl ⟨c, rfl, whole c List.mem_cons_self⟩
  | float nonempty whole =>
      obtain ⟨c, rest, rfl⟩ := List.exists_cons_of_ne_nil nonempty
      exact .inl ⟨c, rfl, whole c List.mem_cons_self⟩
  | dotFloat nonempty part =>
      obtain ⟨c, rest, rfl⟩ := List.exists_cons_of_ne_nil nonempty
      exact .inr ⟨c, rest, rfl, part c List.mem_cons_self⟩

/-- A number can be taken apart in one way only. -/
theorem Numeral.unique {number left : List Char} {outcome outcome' : Outcome}
    (form : Numeral number left outcome) (form' : Numeral number left outcome') :
    outcome = outcome' := by
  cases form with
  | integer nonempty whole =>
      generalize hNumber : number = text at form'
      cases form' with
      | integer => rfl
      | float => exact (point_not_mem whole (by simp [hNumber])).elim
      | dotFloat => exact (point_not_mem whole (by simp [hNumber])).elim
  | @float digits fraction _ nonempty whole =>
      generalize hNumber : digits ++ '.' :: fraction = text at form'
      cases form' with
      | integer _ whole' => exact (point_not_mem whole' (by simp [← hNumber])).elim
      | float _ whole' =>
          obtain ⟨rfl, rfl⟩ := digits_eq_of_point whole whole' hNumber
          rfl
      | dotFloat => exact (digits_append_ne_point nonempty whole hNumber).elim
  | @dotFloat fraction =>
      generalize hNumber : '.' :: fraction = text at form'
      cases form' with
      | integer _ whole' => exact (point_not_mem whole' (by simp [← hNumber])).elim
      | float nonempty' whole' =>
          exact (digits_append_ne_point nonempty' whole' hNumber.symm).elim
      | dotFloat =>
          obtain ⟨-, rfl⟩ := List.cons.inj hNumber
          rfl

variable {σ : Type} [FiniteStream σ]

/-- Digits and then a point: the point belongs to the number, and so do the digits behind it. -/
theorem scanNumber_reading_float {cursor : Cursor σ} {c : Char} (hHere : cursor.current = some c)
    (hDigit : c.isDigit) (hPoint : (cursor.takeWhile Char.isDigit).2.current = some '.') :
    ∃ number, Reading Numeral cursor number (scanNumber cursor) := by
  let digits := cursor.rest.takeWhile Char.isDigit
  let later := (cursor.takeWhile Char.isDigit).2
  let fraction := later.advance.rest.takeWhile Char.isDigit
  have hScan : scanNumber cursor =
      (float digits fraction, (later.advance.takeWhile Char.isDigit).2) := by
    simp only [scanNumber, hPoint, if_true, Cursor.takeWhile_fst]
    rfl
  have hMoved : cursor.Moved (digits ++ '.' :: fraction) (scanNumber cursor).2 := by
    rw [hScan]
    exact (cursor.moved_takeWhile _).trans
      ((Cursor.moved_advance hPoint).cons (later.advance.moved_takeWhile _))
  have hText : cursor.rest = digits ++ '.' :: later.advance.rest := by
    rw [(cursor.moved_takeWhile Char.isDigit).rest_eq, Cursor.rest_eq_cons hPoint]
  have hWhole : ∀ c ∈ digits, c.isDigit := fun _ => of_mem_takeWhile
  have hNonempty : digits ≠ [] := Cursor.takeWhile_rest_ne_nil hHere hDigit
  refine ⟨digits ++ '.' :: fraction, hMoved, ?_, ?_⟩
  · rw [hScan]
    exact .float hNonempty hWhole fun _ => of_mem_takeWhile
  · intro other behind outcome hSame form
    rw [hText] at hSame
    simp only [List.length_append, List.length_cons]
    cases form with
    | integer _ whole =>
        have hLe := length_le_takeWhile hSame whole
        rw [takeWhile_run hWhole (point_stops _)] at hLe
        omega
    | @float digits' fraction' _ _ whole part =>
        rw [List.append_assoc, List.cons_append] at hSame
        obtain ⟨rfl, hFraction⟩ := digits_eq_of_point whole hWhole hSame
        have hLe := length_le_takeWhile hFraction part
        rw [List.length_append, List.length_cons]
        change fraction'.length ≤ fraction.length at hLe
        omega
    | dotFloat => exact (digits_append_ne_point hNonempty hWhole hSame.symm).elim

/-- Digits and no point behind them: the number ends with the digits. -/
theorem scanNumber_reading_integer {cursor : Cursor σ} {c : Char} (hHere : cursor.current = some c)
    (hDigit : c.isDigit) (hPoint : (cursor.takeWhile Char.isDigit).2.current ≠ some '.') :
    ∃ number, Reading Numeral cursor number (scanNumber cursor) := by
  let digits := cursor.rest.takeWhile Char.isDigit
  have hScan : scanNumber cursor = (integer digits, (cursor.takeWhile Char.isDigit).2) := by
    simp only [scanNumber, hPoint, if_false, Cursor.takeWhile_fst]
    rfl
  have hNonempty : digits ≠ [] := Cursor.takeWhile_rest_ne_nil hHere hDigit
  refine ⟨digits, ?_, ?_, ?_⟩
  · rw [hScan]
    exact cursor.moved_takeWhile _
  · rw [hScan]
    exact .integer hNonempty fun _ => of_mem_takeWhile
  · intro other behind outcome hSame form
    cases form with
    | integer _ whole => exact length_le_takeWhile hSame whole
    | @float digits' fraction _ _ whole =>
        rw [List.append_assoc, List.cons_append] at hSame
        rw [← Cursor.head?_rest, Cursor.rest_takeWhile, ← hSame,
          dropWhile_run whole (point_stops _)] at hPoint
        exact absurd rfl hPoint
    | dotFloat =>
        rw [Cursor.rest_eq_cons hHere] at hSame
        obtain ⟨rfl, -⟩ := List.cons.inj hSame
        contradiction

/-- From a digit on, a number is read. -/
theorem scanNumber_reading {cursor : Cursor σ} {c : Char} (hHere : cursor.current = some c)
    (hDigit : c.isDigit) : ∃ number, Reading Numeral cursor number (scanNumber cursor) := by
  by_cases hPoint : (cursor.takeWhile Char.isDigit).2.current = some '.'
  · exact scanNumber_reading_float hHere hDigit hPoint
  · exact scanNumber_reading_integer hHere hDigit hPoint

/-- From a point with a digit behind it, a number is read. -/
theorem scanDotFloat_reading {cursor : Cursor σ} {d : Char} (hHere : cursor.current = some '.')
    (hNext : cursor.advance.current = some d) (hDigit : d.isDigit) :
    ∃ number, Reading Numeral cursor number (scanDotFloat cursor) := by
  let fraction := cursor.advance.rest.takeWhile Char.isDigit
  have hScan : scanDotFloat cursor =
      (float ['0'] fraction, (cursor.advance.takeWhile Char.isDigit).2) := by
    simp only [scanDotFloat, Cursor.takeWhile_fst]
    rfl
  refine ⟨'.' :: fraction, ?_, ?_, ?_⟩
  · rw [hScan]
    exact (Cursor.moved_advance hHere).cons (cursor.advance.moved_takeWhile _)
  · rw [hScan]
    exact .dotFloat (Cursor.takeWhile_rest_ne_nil hNext hDigit) fun _ => of_mem_takeWhile
  · intro other behind outcome hSame form
    rw [Cursor.rest_eq_cons hHere] at hSame
    cases form with
    | integer nonempty whole => exact (digits_append_ne_point nonempty whole hSame).elim
    | float nonempty whole =>
        rw [List.append_assoc] at hSame
        exact (digits_append_ne_point nonempty whole hSame).elim
    | dotFloat _ part =>
        obtain ⟨-, hFraction⟩ := List.cons.inj hSame
        exact Nat.succ_le_succ (length_le_takeWhile hFraction part)

end Coll.Lexeme

import Coll.Stream.Cursor

/-!
The characters that a cursor has before it, as a list. Each operation of a cursor is an operation
on this list, whether or not the cursor has looked ahead.
-/

namespace Coll

namespace Cursor

variable {σ : Type} [FiniteStream σ]

/-- The characters from the current one to the end of the input. -/
def rest (cursor : Cursor σ) : List Char :=
  match cursor.current, cursor.ahead with
  | none, _ => []
  | some c, none => c :: CharStream.toList cursor.source
  | some c, some none => [c]
  | some c, some (some d) => c :: d :: CharStream.toList cursor.source

@[simp] theorem rest_ofStream (s : σ) : (ofStream s).rest = CharStream.toList s := by
  cases drawn : CharStream.next s with
  | mk answer source =>
    cases answer with
    | none => simp [rest, ofStream, drawn, CharStream.toList_eq_nil drawn]
    | some c => simp [rest, ofStream, drawn, CharStream.toList_eq_cons drawn]

@[simp] theorem head?_rest (cursor : Cursor σ) : cursor.rest.head? = cursor.current := by
  rcases cursor with ⟨source, _ | _, _ | _ | _, position⟩ <;> rfl

theorem rest_eq_nil_iff {cursor : Cursor σ} : cursor.rest = [] ↔ cursor.current = none := by
  rw [← head?_rest, List.head?_eq_none_iff]

theorem atEnd_eq_isEmpty_rest (cursor : Cursor σ) : cursor.atEnd = cursor.rest.isEmpty := by
  rcases cursor with ⟨source, _ | _, _ | _ | _, position⟩ <;> rfl

theorem rest_advance (cursor : Cursor σ) : cursor.advance.rest = cursor.rest.tail := by
  rcases cursor with ⟨source, _ | c, _ | _ | d, position⟩
  case some.none =>
    change (ofStream source).rest = _
    rw [rest_ofStream]
    rfl
  all_goals rfl

theorem rest_eq_cons {cursor : Cursor σ} {c : Char} (here : cursor.current = some c) :
    cursor.rest = c :: cursor.advance.rest := by
  rw [rest_advance]
  rcases cursor with ⟨source, _ | _, _ | _ | _, position⟩ <;> simp_all [rest]

@[simp] theorem rest_peek (cursor : Cursor σ) : cursor.peek.2.rest = cursor.rest := by
  rcases cursor with ⟨source, _ | c, _ | _ | d, position⟩
  case some.none =>
    cases drawn : CharStream.next source with
    | mk answer source =>
      cases answer with
      | none => simp [rest, peek, drawn, CharStream.toList_eq_nil drawn]
      | some d => simp [rest, peek, drawn, CharStream.toList_eq_cons drawn]
  all_goals rfl

/-- Looking ahead tells the second of the characters to come. -/
theorem peek_eq_getD (cursor : Cursor σ) : cursor.peek.1 = cursor.rest.tail.head?.getD '\x00' := by
  rcases cursor with ⟨source, _ | c, _ | _ | d, position⟩
  case some.none =>
    cases drawn : CharStream.next source with
    | mk answer source =>
      cases answer with
      | none => simp [rest, peek, drawn, CharStream.toList_eq_nil drawn]
      | some d => simp [rest, peek, drawn, CharStream.toList_eq_cons drawn]
  all_goals rfl

@[simp] theorem position_peek (cursor : Cursor σ) : cursor.peek.2.position = cursor.position := by
  rcases cursor with ⟨source, _ | _, _ | _, position⟩ <;> rfl

theorem position_advance {cursor : Cursor σ} {c : Char} (here : cursor.current = some c) :
    cursor.advance.position = cursor.position.next c := by
  rcases cursor with ⟨source, _ | _, _ | _, position⟩ <;> simp_all [advance]

theorem takeOnto_eq (p : Char → Bool) (cursor : Cursor σ) (taken : List Char) :
    (cursor.takeOnto p taken).1 = (cursor.rest.takeWhile p).reverse ++ taken := by
  fun_induction takeOnto p cursor taken with
  | case1 cursor taken here => simp [rest_eq_nil_iff.2 here]
  | case2 cursor taken c here inClass ih => simp [rest_eq_cons here, inClass, ih]
  | case3 cursor taken c here outside => simp [rest_eq_cons here, outside]

/-- The run that is taken is the longest one of its class. -/
theorem takeWhile_fst (p : Char → Bool) (cursor : Cursor σ) :
    (cursor.takeWhile p).1 = cursor.rest.takeWhile p := by
  simp [takeWhile, takeOnto_eq]

/-- What is left behind a run is what is left of the list. -/
theorem rest_takeOnto (p : Char → Bool) (cursor : Cursor σ) (taken : List Char) :
    (cursor.takeOnto p taken).2.rest = cursor.rest.dropWhile p := by
  fun_induction takeOnto p cursor taken with
  | case1 cursor taken here => simp [rest_eq_nil_iff.2 here]
  | case2 cursor taken c here inClass ih => rw [ih, rest_eq_cons here]; simp [inClass]
  | case3 cursor taken c here outside => simp [rest_eq_cons here, outside]

@[simp] theorem rest_takeWhile (p : Char → Bool) (cursor : Cursor σ) :
    (cursor.takeWhile p).2.rest = cursor.rest.dropWhile p :=
  rest_takeOnto p cursor []

@[simp] theorem rest_dropWhile (p : Char → Bool) (cursor : Cursor σ) :
    (cursor.dropWhile p).rest = cursor.rest.dropWhile p := by
  fun_induction dropWhile p cursor with
  | case1 cursor here => simp [rest_eq_nil_iff.2 here]
  | case2 cursor c here inClass ih => rw [ih, rest_eq_cons here]; simp [inClass]
  | case3 cursor c here outside => simp [rest_eq_cons here, outside]

/-- Taking a run moves the position over the characters of the run. -/
theorem position_takeOnto (p : Char → Bool) (cursor : Cursor σ) (taken : List Char) :
    (cursor.takeOnto p taken).2.position = cursor.position.after (cursor.rest.takeWhile p) := by
  fun_induction takeOnto p cursor taken with
  | case1 cursor taken here => simp [rest_eq_nil_iff.2 here, Text.Position.after]
  | case2 cursor taken c here inClass ih =>
    simp [ih, rest_eq_cons here, inClass, position_advance here, Text.Position.after]
  | case3 cursor taken c here outside =>
    simp [rest_eq_cons here, outside, Text.Position.after]

theorem position_takeWhile (p : Char → Bool) (cursor : Cursor σ) :
    (cursor.takeWhile p).2.position = cursor.position.after (cursor.rest.takeWhile p) :=
  position_takeOnto p cursor []

theorem position_dropWhile (p : Char → Bool) (cursor : Cursor σ) :
    (cursor.dropWhile p).position = cursor.position.after (cursor.rest.takeWhile p) := by
  fun_induction dropWhile p cursor with
  | case1 cursor here => simp [rest_eq_nil_iff.2 here, Text.Position.after]
  | case2 cursor c here inClass ih =>
    simp [ih, rest_eq_cons here, inClass, position_advance here, Text.Position.after]
  | case3 cursor c here outside =>
    simp [rest_eq_cons here, outside, Text.Position.after]

end Cursor

end Coll

import Coll.Stream.Rest

/-!
Stretches of the input. A cursor that has moved over a stretch has lost the stretch from the
characters before it, and its position has moved over it. What a scanner does to a cursor is said
by the stretch alone, so nothing depends on how the stream supplies its characters.
-/

namespace Coll

namespace Text.Position

@[simp] theorem after_nil (p : Position) : p.after [] = p := rfl

@[simp] theorem after_cons (p : Position) (c : Char) (text : List Char) :
    p.after (c :: text) = (p.next c).after text := rfl

theorem after_append (p : Position) (first second : List Char) :
    p.after (first ++ second) = (p.after first).after second :=
  List.foldl_append

theorem offset_next (p : Position) (c : Char) : (p.next c).offset = p.offset + 1 := by
  unfold next
  split <;> rfl

theorem offset_after (p : Position) (text : List Char) :
    (p.after text).offset = p.offset + text.length := by
  induction text generalizing p with
  | nil => rfl
  | cons c rest ih =>
      rw [after_cons, ih, offset_next, List.length_cons]
      omega

theorem line_next (p : Position) (c : Char) :
    (p.next c).line = p.line + if c = '\n' then 1 else 0 := by
  unfold next
  split <;> rfl

/-- Every line feed begins a line. -/
theorem line_after (p : Position) (text : List Char) :
    (p.after text).line = p.line + text.count '\n' := by
  induction text generalizing p with
  | nil => rfl
  | cons c rest ih =>
      rw [after_cons, ih, line_next, List.count_cons, Nat.add_assoc, Nat.add_comm (rest.count _)]
      simp only [beq_iff_eq]

/-- A character leads one column on, or back to the first. -/
theorem column_after_le {p : Position} (hFirst : 1 ≤ p.column) (text : List Char) :
    (p.after text).column ≤ p.column + text.length := by
  induction text generalizing p with
  | nil => exact Nat.le_refl _
  | cons c rest ih =>
      have hNext : 1 ≤ (p.next c).column ∧ (p.next c).column ≤ p.column + 1 := by
        unfold next
        split <;> dsimp only <;> omega
      have hRest := ih hNext.1
      rw [after_cons, List.length_cons]
      omega

end Text.Position

section Runs

variable {p : Char → Bool} {run left : List Char}

/-- A run of the class `p` that nothing of the class follows is all that is taken. -/
theorem takeWhile_run (hRun : ∀ c ∈ run, p c) (hStop : ∀ c ∈ left.head?, p c = false) :
    (run ++ left).takeWhile p = run := by
  rw [List.takeWhile_append_of_pos hRun]
  cases left with
  | nil => simp
  | cons c rest => simp [hStop c rfl]

/-- What is not taken is what follows the run. -/
theorem dropWhile_run (hRun : ∀ c ∈ run, p c) (hStop : ∀ c ∈ left.head?, p c = false) :
    (run ++ left).dropWhile p = left := by
  rw [List.dropWhile_append_of_pos hRun]
  cases left with
  | nil => rfl
  | cons c rest => simp [hStop c rfl]

theorem run_unique {run' left' : List Char} (hRun : ∀ c ∈ run, p c) (hRun' : ∀ c ∈ run', p c)
    (hStop : ∀ c ∈ left.head?, p c = false) (hStop' : ∀ c ∈ left'.head?, p c = false)
    (h : run ++ left = run' ++ left') : run = run' ∧ left = left' := by
  have hSame : run = run' := by rw [← takeWhile_run hRun hStop, h, takeWhile_run hRun' hStop']
  subst hSame
  exact ⟨rfl, (List.append_right_inj run).1 h⟩

/-- No beginning of the class `p` is longer than what is taken. -/
theorem length_le_takeWhile {text : List Char} (h : run ++ left = text) (hRun : ∀ c ∈ run, p c) :
    run.length ≤ (text.takeWhile p).length := by
  rw [← h, List.takeWhile_append_of_pos hRun, List.length_append]
  exact Nat.le_add_right _ _

theorem of_mem_takeWhile {c : Char} {text : List Char} (h : c ∈ text.takeWhile p) : p c :=
  List.all_eq_true.1 List.all_takeWhile c h

/-- What follows the longest run begins with no character of the class. -/
theorem stop_dropWhile (p : Char → Bool) (text : List Char) :
    ∀ c ∈ (text.dropWhile p).head?, p c = false := by
  intro c hc
  have hStop := List.head?_dropWhile_not p text
  rw [Option.mem_def.1 hc] at hStop
  exact hStop

end Runs

namespace Cursor

variable {σ : Type} [FiniteStream σ]

/-- `later` is where `cursor` comes to by moving over the characters of `stretch`. -/
structure Moved (cursor : Cursor σ) (stretch : List Char) (later : Cursor σ) : Prop where
  rest_eq : cursor.rest = stretch ++ later.rest
  position_eq : later.position = cursor.position.after stretch

theorem Moved.refl (cursor : Cursor σ) : Moved cursor [] cursor := ⟨rfl, rfl⟩

theorem Moved.trans {cursor middle later : Cursor σ} {first second : List Char}
    (left : Moved cursor first middle) (right : Moved middle second later) :
    Moved cursor (first ++ second) later where
  rest_eq := by rw [left.rest_eq, right.rest_eq, List.append_assoc]
  position_eq := by rw [right.position_eq, left.position_eq, Text.Position.after_append]

/-- A move over one more character in front. -/
theorem Moved.cons {cursor middle later : Cursor σ} {c : Char} {stretch : List Char}
    (left : Moved cursor [c] middle) (right : Moved middle stretch later) :
    Moved cursor (c :: stretch) later := left.trans right

theorem moved_advance {cursor : Cursor σ} {c : Char} (hHere : cursor.current = some c) :
    Moved cursor [c] cursor.advance where
  rest_eq := rest_eq_cons hHere
  position_eq := position_advance hHere

/-- Looking ahead is no move. -/
theorem moved_peek (cursor : Cursor σ) : Moved cursor [] cursor.peek.2 where
  rest_eq := (rest_peek cursor).symm
  position_eq := position_peek cursor

theorem moved_takeWhile (p : Char → Bool) (cursor : Cursor σ) :
    Moved cursor (cursor.rest.takeWhile p) (cursor.takeWhile p).2 where
  rest_eq := by rw [rest_takeWhile, List.takeWhile_append_dropWhile]
  position_eq := position_takeWhile p cursor

theorem takeWhile_rest_ne_nil {p : Char → Bool} {cursor : Cursor σ} {c : Char}
    (hHere : cursor.current = some c) (hClass : p c) : cursor.rest.takeWhile p ≠ [] := by
  rw [rest_eq_cons hHere, List.takeWhile_cons_of_pos hClass]
  exact List.cons_ne_nil _ _

theorem moved_dropWhile (p : Char → Bool) (cursor : Cursor σ) :
    Moved cursor (cursor.rest.takeWhile p) (cursor.dropWhile p) where
  rest_eq := by rw [rest_dropWhile, List.takeWhile_append_dropWhile]
  position_eq := position_dropWhile p cursor

/-- Accepting a character moves over it if it comes next, and else does nothing. -/
theorem accept_eq (cursor : Cursor σ) (expected : Char) :
    cursor.accept expected =
      if cursor.rest.head? = some expected then (true, cursor.advance) else (false, cursor) := by
  rw [head?_rest]
  rfl

end Cursor

end Coll

import Coll.Proofs.Stream.Movement

/-!
How often a cursor asks its stream for a character. A stream that keeps its answers shows that a
cursor has asked for the characters it has moved over, for the one it stands on and at most for one
more, and for none behind the end.
-/

namespace Coll

/-- A stream that keeps the answers it has given, in order. -/
structure Metered (σ : Type) where
  source : σ
  answers : List (Option Char) := []

/-- A stream that is broken off behind as many answers as are `left`. Any stream can be. -/
structure Limited (σ : Type) where
  source : σ
  left : Nat

section Streams

variable {σ : Type}

instance [CharStream σ] : CharStream (Metered σ) where
  next s :=
    let (answer, source) := CharStream.next s.source
    (answer, { source, answers := s.answers ++ [answer] })

instance [FiniteStream σ] : FiniteStream (Metered σ) where
  bound s := FiniteStream.bound s.source
  bound_lt {s s' c} drawn := by
    obtain ⟨hAnswer, rfl⟩ := Prod.mk.inj drawn
    exact FiniteStream.bound_lt (Prod.ext hAnswer rfl)

instance [CharStream σ] : FiniteStream (Limited σ) where
  next
    | ⟨source, 0⟩ => (none, ⟨source, 0⟩)
    | ⟨source, left + 1⟩ => ((CharStream.next source).1, ⟨(CharStream.next source).2, left⟩)
  bound s := s.left
  bound_lt {s s' c} drawn := by
    obtain ⟨source, _ | left⟩ := s
    · exact nomatch (Prod.mk.inj drawn).1
    · obtain ⟨-, rfl⟩ := Prod.mk.inj drawn
      exact Nat.lt_succ_self left

/-- As far as it goes, a stream that is broken off answers as it would have without. -/
theorem Limited.take_draw [CharStream σ] (source : σ) (limit count : Nat) :
    (CharStream.draw (⟨source, limit⟩ : Limited σ) count).take limit =
      (CharStream.draw source count).take limit := by
  induction count generalizing source limit with
  | zero => rfl
  | succ count ih =>
      cases limit with
      | zero => rfl
      | succ limit =>
          exact congrArg ((CharStream.next source).1 :: ·) (ih (CharStream.next source).2 limit)

/-- What has been answered and what will be are the answers of `source`. -/
def Metered.Follows [CharStream σ] (s : Metered σ) (source : σ) : Prop :=
  ∀ count, CharStream.draw source (s.answers.length + count) =
    s.answers ++ CharStream.draw s.source count

theorem Metered.follows_source [CharStream σ] (source : σ) :
    ({ source } : Metered σ).Follows source := by
  intro count
  rw [List.length_nil, Nat.zero_add, List.nil_append]

theorem Metered.Follows.next [CharStream σ] {s : Metered σ} {source : σ}
    (follows : s.Follows source) : (CharStream.next s).2.Follows source := by
  intro count
  have hAnswers : (CharStream.next s).2.answers = s.answers ++ [(CharStream.next s.source).1] := rfl
  rw [hAnswers, List.length_append, List.length_singleton, Nat.add_assoc, Nat.add_comm 1, follows,
    List.append_assoc]
  rfl

end Streams

namespace Cursor

variable {σ : Type} [CharStream σ]

/-- What can be asked of a cursor. -/
inductive Operation where
  | advance
  | peek
  | accept (expected : Char)
  deriving DecidableEq, Repr

/-- The cursor after an operation. -/
def perform (cursor : Cursor σ) : Operation → Cursor σ
  | .advance => cursor.advance
  | .peek => cursor.peek.2
  | .accept expected => (cursor.accept expected).2

/-- The cursor after one operation after the other. -/
def performAll (cursor : Cursor σ) (operations : List Operation) : Cursor σ :=
  operations.foldl perform cursor

/-- What a cursor over `source` has been answered: the characters it has moved over, the answer for
the one it stands on, and the one ahead if it has looked. It does not look ahead from the end. -/
structure Polled (source : σ) (cursor : Cursor (Metered σ)) : Prop where
  follows : cursor.source.Follows source
  answers : ∃ taken : List Char, taken.length = cursor.position.offset ∧
    cursor.source.answers = taken.map some ++ cursor.current :: cursor.ahead.toList
  unseen : cursor.current = none → cursor.ahead = none

theorem polled_ofStream (source : σ) : (ofStream ({ source } : Metered σ)).Polled source where
  follows := (Metered.follows_source source).next
  answers := ⟨[], rfl, rfl⟩
  unseen _ := rfl

namespace Polled

variable {source : σ} {cursor : Cursor (Metered σ)}

/-- Advancing asks for an answer, unless it is there already or the end has been reached. -/
theorem advance (polled : cursor.Polled source) : cursor.advance.Polled source := by
  obtain ⟨follows, ⟨taken, hLength, hAnswers⟩, unseen⟩ := polled
  rcases cursor with ⟨s, _ | c, _ | answer, position⟩
  case none.none => exact ⟨follows, ⟨taken, hLength, hAnswers⟩, unseen⟩
  case none.some => exact nomatch unseen rfl
  all_goals
    have hTaken : (taken ++ [c]).length = (position.next c).offset := by
      rw [List.length_append, hLength, Text.Position.offset_next, List.length_singleton]
  case some.none =>
    refine ⟨follows.next, ⟨taken ++ [c], hTaken, ?_⟩, fun _ => rfl⟩
    change s.answers ++ [_] = _
    rw [hAnswers, List.map_append]
    rfl
  case some.some =>
    refine ⟨follows, ⟨taken ++ [c], hTaken, ?_⟩, fun _ => rfl⟩
    change s.answers = _
    rw [hAnswers, List.map_append, List.append_assoc]
    rfl

/-- Looking ahead asks for an answer, unless it is there already or the end has been reached. -/
theorem peek (polled : cursor.Polled source) : cursor.peek.2.Polled source := by
  obtain ⟨follows, ⟨taken, hLength, hAnswers⟩, unseen⟩ := polled
  rcases cursor with ⟨s, _ | c, _ | answer, position⟩
  case some.none =>
    refine ⟨follows.next, ⟨taken, hLength, ?_⟩, nofun⟩
    change s.answers ++ [_] = _
    rw [hAnswers, List.append_assoc]
    rfl
  all_goals exact ⟨follows, ⟨taken, hLength, hAnswers⟩, unseen⟩

theorem perform (polled : cursor.Polled source) (operation : Operation) :
    (cursor.perform operation).Polled source := by
  cases operation with
  | advance => exact polled.advance
  | peek => exact polled.peek
  | accept expected =>
      rw [Cursor.perform, accept]
      split
      · exact polled.advance
      · exact polled

theorem performAll (polled : cursor.Polled source) (operations : List Operation) :
    (cursor.performAll operations).Polled source := by
  induction operations generalizing cursor with
  | nil => exact polled
  | cons operation operations ih => exact ih (polled.perform operation)

/-- Behind an advance nothing is looked ahead to. -/
theorem ahead_advance (polled : cursor.Polled source) : cursor.advance.ahead = none := by
  have unseen := polled.unseen
  rcases cursor with ⟨s, _ | c, _ | answer, position⟩
  · rfl
  · exact nomatch unseen rfl
  · rfl
  · rfl

end Polled

/-- A cursor asks for nothing that it does not need: the stream has been asked for a character more
than the cursor has moved over, and for another one if the cursor has looked ahead; and where the
stream had no character, it was not asked again. -/
structure Frugal (source : σ) (cursor : Cursor (Metered σ)) : Prop where
  count : cursor.source.answers.length =
    cursor.position.offset + 1 + if cursor.ahead.isSome then 1 else 0
  ended : none ∉ cursor.source.answers.dropLast
  drawn : cursor.source.answers = CharStream.draw source cursor.source.answers.length

theorem Polled.frugal {source : σ} {cursor : Cursor (Metered σ)} (polled : cursor.Polled source) :
    cursor.Frugal source := by
  obtain ⟨follows, ⟨taken, hLength, hAnswers⟩, unseen⟩ := polled
  refine ⟨?_, ?_, ?_⟩
  · rw [hAnswers, ← hLength]
    cases cursor.ahead <;> simp
  · rw [hAnswers]
    cases hAhead : cursor.ahead with
    | none => simp
    | some answer =>
        have hHere : none ≠ cursor.current := fun hEnd => by simp [unseen hEnd.symm] at hAhead
        simp [List.dropLast_append_of_ne_nil, hHere]
  · have hDrawn := follows 0
    rw [Nat.add_zero, CharStream.draw, List.append_nil] at hDrawn
    exact hDrawn.symm

/-- Looked ahead to, moved onto and looked ahead from, the end is asked for once. -/
example : ((ofStream ({ source := ['a', 'b'] } : Metered (List Char))).performAll
      [.peek, .advance, .peek, .accept 'b', .advance, .peek]).source.answers =
    [some 'a', some 'b', none] := by
  decide

end Cursor

end Coll

/-!
Suppliers of characters. A stream is asked for one character at a time; what has been handed out
cannot be had again.
-/

namespace Coll

/-- A state `σ` from which characters can be drawn. After an answer `none` the input is over. The
class does not promise that a stream keeps answering `none` from then on: who reads it must not
ask again. -/
class CharStream (σ : Type) where
  next : σ → Option Char × σ

/-- A stream that hands out only finitely many characters before its first `none`. -/
class FiniteStream (σ : Type) extends CharStream σ where
  /-- An upper bound on the number of characters to come. -/
  bound : σ → Nat
  bound_lt {s s' : σ} {c : Char} (drawn : next s = (some c, s')) : bound s' < bound s

namespace CharStream

/-- The first `count` answers of a stream, asking on even after a `none`. -/
def draw {σ : Type} [CharStream σ] (s : σ) : Nat → List (Option Char)
  | 0 => []
  | count + 1 => (next s).1 :: draw (next s).2 count

/-- The characters of a stream up to its first `none`. -/
def toList {σ : Type} [FiniteStream σ] (s : σ) : List Char :=
  match _drawn : next s with
  | (none, _) => []
  | (some c, s') => c :: toList s'
termination_by FiniteStream.bound s
decreasing_by exact FiniteStream.bound_lt _drawn

theorem toList_eq_nil {σ : Type} [FiniteStream σ] {s s' : σ} (ended : next s = (none, s')) :
    toList s = [] := by
  rw [toList]
  split <;> simp_all

theorem toList_eq_cons {σ : Type} [FiniteStream σ] {s s' : σ} {c : Char}
    (drawn : next s = (some c, s')) : toList s = c :: toList s' := by
  rw [toList]
  split <;> simp_all

end CharStream

/-- A text held in memory. -/
instance : FiniteStream (List Char) where
  next
    | [] => (none, [])
    | c :: rest => (some c, rest)
  bound := List.length
  bound_lt {s _ _} drawn := by
    cases s with
    | nil => simp at drawn
    | cons c rest => simp_all

@[simp] theorem CharStream.next_nil : CharStream.next ([] : List Char) = (none, []) := rfl

@[simp] theorem CharStream.next_cons (c : Char) (rest : List Char) :
    CharStream.next (c :: rest) = (some c, rest) := rfl

/-- A text is the stream of its own characters. -/
@[simp] theorem CharStream.toList_list (text : List Char) : CharStream.toList text = text := by
  induction text with
  | nil => exact toList_eq_nil rfl
  | cons c rest ih => rw [toList_eq_cons (next_cons c rest), ih]

end Coll

/-!
Stretches of a source text, as reports refer to them.
-/

namespace Coll

abbrev DocumentId := Nat

/-- A stretch of a document: the offsets of its first character and of the one past its last, and
line and column of the first. Nothing forces `start ≤ stop`. -/
structure Span where
  start : Nat
  stop : Nat
  line : Nat
  column : Nat
  document : DocumentId := 0
  deriving DecidableEq, Repr

namespace Span

/-- The span of a report that is about no place at all. -/
def nowhere : Span := ⟨0, 0, 0, 0, 0⟩

/-- A place known by line and column only. -/
def point (line column : Nat) : Span := ⟨0, 0, line, column, 0⟩

/-- The number of characters, 0 if the ends are the wrong way round. -/
def length (span : Span) : Nat := span.stop - span.start

/-- Whether the ends coincide. -/
def isEmpty (span : Span) : Bool := span.start == span.stop

end Span

end Coll

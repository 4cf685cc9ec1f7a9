/-!
Sets of code points given by ranges, as the Unicode character database prints its properties.
-/

namespace Coll.Unicode

/-- A set of code points: closed ranges in ascending order, each ending before the next begins. -/
structure CodePointSet where
  ranges : Array (Nat × Nat)

namespace CodePointSet

/-- Looks for `code` among the ranges with an index in `[low, high)`. The ranges ascend, so the
middle one tells in which half `code` can be. -/
def search (set : CodePointSet) (code low high : Nat) : Bool :=
  if _nonempty : low < high then
    match set.ranges[(low + high) / 2]? with
    | none => false
    | some (first, last) =>
      if code < first then search set code low ((low + high) / 2)
      else if last < code then search set code ((low + high) / 2 + 1) high
      else true
  else false
termination_by high - low

/-- Membership of a character. -/
def contains (set : CodePointSet) (c : Char) : Bool :=
  set.search c.toNat 0 set.ranges.size

end CodePointSet

end Coll.Unicode

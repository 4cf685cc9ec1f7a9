import Coll.Logging.Directive

/-!
Which events are told. A filter is a list of directives separated by commas; for each event the
one that says most about it decides.
-/

namespace Coll.Logging

/-- Directives in the order in which they were given. -/
abbrev Filter := List Directive

namespace Filter

/-- The filter that tells everything up to one level. -/
def upTo (level : Level) : Filter := [{ threshold := level }]

def ofText? (text : String) : Option Filter :=
  ((text.splitOn ",").filter (· ≠ "")).mapM (Directive.ofText? ·.toList)

/-- The directive that decides on an event. Of two that say the same it is the later. -/
def directiveFor? (filter : Filter) (event : Event) : Option Directive :=
  (filter.filter (·.concerns event)).foldl (fun best directive =>
    match best with
    | none => some directive
    | some found => if found.precedes directive then some found else some directive) none

def admits (filter : Filter) (event : Event) : Bool :=
  (filter.directiveFor? event).any (·.passes event)

end Filter

end Coll.Logging

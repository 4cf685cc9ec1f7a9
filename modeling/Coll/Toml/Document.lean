import Coll.Toml.Statement

/-!
TOML documents as tables.
-/

namespace Coll.Toml

/-- What the statements so far have built, and the table that pairs are added to. -/
structure Building where
  root : Entries := []
  current : List String := []

/-- Takes in one statement. -/
def Building.add (building : Building) : Statement → Option Building
  | .pair path key value => do
    let add := fun _ entries => Entries.addPair path key value entries
    return { building with root := ← building.root.within .implied add building.current .declared }
  | .table path key => do
    return { root := ← building.root.declare path key, current := path ++ [key] }
  | .element path key => do
    return { root := ← building.root.addElement path key, current := path ++ [key] }

/-- The table that a document describes; none if it is malformed or contradicts itself. -/
def parse? (text : List Char) : Option (List (String × Value)) := do
  let building ← (← statements? text).foldlM Building.add {}
  return building.root.toValues

end Coll.Toml

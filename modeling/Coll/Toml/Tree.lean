/-!
The values that a TOML document holds, and how its statements build up a tree of tables. A table is
defined once: the rules below tell which of its mentions may meet.
-/

namespace Coll.Toml

/-- A value. Of a float, and of a date or a time, nothing is kept but that it is one. -/
inductive Value where
  | text (value : String)
  | integer (value : Int)
  | float
  | boolean (value : Bool)
  /-- A date, a time, or both. -/
  | moment
  | array (items : List Value)
  | table (entries : List (String × Value))
  deriving Repr

/-- How a table has come into being. -/
inductive Origin where
  /-- By a header of its own, or as a value. -/
  | declared
  /-- As a part of the path in the header of another table. -/
  | implied
  /-- As a part of a dotted key. -/
  | dotted
  deriving DecidableEq, Repr

/-- An entry of a table that is being built. -/
inductive Node where
  /-- A value, to which nothing can be added any more. -/
  | leaf (value : Value)
  | branch (origin : Origin) (entries : List (String × Node))
  /-- The tables of an array that grows header by header. -/
  | elements (tables : List (List (String × Node)))
  deriving Repr

/-- The entries of a table that is being built. -/
abbrev Entries := List (String × Node)

mutual

/-- A finished entry. -/
def Node.toValue : Node → Value
  | .leaf value => value
  | .branch _ entries => .table (valuesOfEntries entries)
  | .elements tables => .array (valuesOfTables tables)

def valuesOfEntries : List (String × Node) → List (String × Value)
  | [] => []
  | (key, node) :: rest => (key, node.toValue) :: valuesOfEntries rest

def valuesOfTables : List (List (String × Node)) → List Value
  | [] => []
  | entries :: rest => .table (valuesOfEntries entries) :: valuesOfTables rest

end

namespace Entries

/-- The entries of a finished table. -/
def toValues (entries : Entries) : List (String × Value) := valuesOfEntries entries

/-- Gives `key` the entry `node`, in the place of the old one if there is one. -/
def put (key : String) (node : Node) : Entries → Entries
  | [] => [(key, node)]
  | (old, oldNode) :: rest =>
    if old == key then (key, node) :: rest else (old, oldNode) :: put key node rest

/-- Changes the table that `path` leads to, starting from a table of the given origin. Tables
that are missing come into being with the origin `made`. The path leads through the last table of
an array. A dotted key leads through no declared table. -/
def within (made : Origin) (change : Origin → Entries → Option Entries) :
    List String → Origin → Entries → Option Entries
  | [], origin, entries => change origin entries
  | key :: path, _, entries =>
    match entries.lookup key with
    | none => do return put key (.branch made (← within made change path made [])) entries
    | some (.leaf _) => none
    | some (.branch origin inner) => do
      guard ¬(made = .dotted ∧ origin = .declared)
      return put key (.branch origin (← within made change path origin inner)) entries
    | some (.elements tables) => do
      let last ← within made change path .declared (← tables.getLast?)
      return put key (.elements (tables.dropLast ++ [last])) entries

/-- Adds `path.key = value` to a table. A dotted key adds to a table of dotted origin only, a
plain key to none such, and neither to a key that is taken. -/
def addPair (path : List String) (key : String) (value : Value) (entries : Entries) :
    Option Entries :=
  let add := fun origin entries =>
    if (origin == .dotted) == path.isEmpty || (entries.lookup key).isSome then none
    else some (entries ++ [(key, .leaf value)])
  within .dotted add path .declared entries

/-- Declares the table `path.key`. So far it may at most have been implied. -/
def declare (path : List String) (key : String) (entries : Entries) : Option Entries :=
  let add := fun _ entries =>
    match entries.lookup key with
    | none => some (put key (.branch .declared []) entries)
    | some (.branch .implied inner) => some (put key (.branch .declared inner) entries)
    | some _ => none
  within .implied add path .declared entries

/-- Adds an empty table to the array `path.key`, which may not be anything else. -/
def addElement (path : List String) (key : String) (entries : Entries) : Option Entries :=
  let add := fun _ entries =>
    match entries.lookup key with
    | none => some (put key (.elements [[]]) entries)
    | some (.elements tables) => some (put key (.elements (tables ++ [[]])) entries)
    | some _ => none
  within .implied add path .declared entries

end Entries

end Coll.Toml

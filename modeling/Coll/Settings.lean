import Coll.Toml.Document

/-!
The settings of the program, as its configuration file gives them. Whatever the file leaves out
has a default, and what it holds beyond the settings is ignored.
-/

namespace Coll

inductive DumpFormat where
  /-- Position, kind and text, with tabs between them. -/
  | text
  /-- A JSON object for each token. -/
  | json
  deriving DecidableEq, Repr

def DumpFormat.ofName? : String → Option DumpFormat
  | "text" => some text
  | "json" => some json
  | _ => none

structure Settings where
  format : DumpFormat := .text
  /-- Whether the end token is printed. -/
  includeEnd : Bool := false
  /-- How many diagnostics are printed, 0 for all. -/
  maxErrors : Nat := 0
  deriving DecidableEq, Repr

namespace Settings

open Toml (Value)

/-- The names of the fields of a group, in order. -/
abbrev Fields := List String

/-- The value of the field `name` in a group. The group is a table; or it is an array of values
in the order of `fields`. A date or time holds no field. Nothing else is a group. -/
def field? (fields : Fields) (name : String) : Value → Option (Option Value)
  | .table entries => some (entries.lookup name)
  | .array items => some (items[fields.idxOf name]?)
  | .moment => some none
  | _ => none

def readField {α : Type} (fields : Fields) (name : String) (group : Value) (default : α)
    (read? : Value → Option α) : Option α := do
  match ← field? fields name group with
  | none => return default
  | some value => read? value

/-- Whether a value holds nothing. -/
def isEmptyGroup : Value → Bool
  | .table [] => true
  | .array [] => true
  | _ => false

/-- A format by name. The name may also be the only key of a table, with nothing as its value. -/
def format? : Value → Option DumpFormat
  | .text name => DumpFormat.ofName? name
  | .table [(name, value)] => do
    guard (isEmptyGroup value)
    DumpFormat.ofName? name
  | _ => none

def boolean? : Value → Option Bool
  | .boolean value => some value
  | _ => none

/-- A number that is not negative. -/
def natural? : Value → Option Nat
  | .integer (.ofNat n) => some n
  | _ => none

def outputFields : Fields := ["format", "include_eof"]

def checkFields : Fields := ["max_errors"]

/-- The settings in the entries of a document. A group that is missing has no field. -/
def ofEntries? (entries : List (String × Value)) : Option Settings := do
  let output := (entries.lookup "output").getD (.table [])
  let check := (entries.lookup "check").getD (.table [])
  return {
    format := ← readField outputFields "format" output .text format?
    includeEnd := ← readField outputFields "include_eof" output false boolean?
    maxErrors := ← readField checkFields "max_errors" check 0 natural? }

/-- The settings that a configuration file gives; none if it is malformed. -/
def parse? (text : List Char) : Option Settings := do ofEntries? (← Toml.parse? text)

end Settings

end Coll

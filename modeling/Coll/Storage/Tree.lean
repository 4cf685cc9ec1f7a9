import Coll.Storage.Basic

/-!
Finite trees of files, in which paths are followed from a working directory.
-/

namespace Coll.Storage

/-- Files and directories by the parts of their paths from the root. Whatever lies on the way to
an entry is a directory. -/
structure Tree where
  entries : List (List String × Entry)
  workingDirectory : List String

namespace Tree

def at? (tree : Tree) (place : List String) : Option Entry :=
  match tree.entries.lookup place with
  | some entry => some entry
  | none =>
    if place.isEmpty || tree.entries.any (fun entry => place.isPrefixOf entry.1) then
      some .directory
    else none

/-- The bytes that a name may have. -/
def nameLimit : Nat := 255

/-- The bytes that a path may have. -/
def pathLimit : Nat := 4095

/-- Follows the parts of a path from `place`. Every part must begin in a directory, the idle ones
too. -/
def follow (tree : Tree) : List String → List String → Except Failure Entry
  | place, [] =>
    match tree.at? place with
    | some entry => .ok entry
    | none => .error .missing
  | place, part :: rest =>
    match tree.at? place with
    | none => .error .missing
    | some (.file _) => .error .notDirectory
    | some .directory =>
      if Path.isIdle part then tree.follow place rest
      else if part == ".." then tree.follow place.dropLast rest
      else if nameLimit < part.utf8ByteSize then .error .nameTooLong
      else tree.follow (place ++ [part]) rest

def lookup (tree : Tree) : Lookup := fun path =>
  if path.isEmpty then .error .missing
  else if pathLimit < path.utf8ByteSize then .error .nameTooLong
  else tree.follow (if Path.isAbsolute path then [] else tree.workingDirectory) (Path.parts path)

end Tree

end Coll.Storage

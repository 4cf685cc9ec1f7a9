/-!
Files as the program sees them: paths, names of files with `/` between their parts, and what a path
leads to, or why it leads nowhere.
-/

namespace Coll.Storage

namespace Path

/-- The parts of a path. A path that begins with `/` has an empty first part. -/
def parts (path : String) : List String := path.splitOn "/"

def isAbsolute (path : String) : Bool := path.toList.head? == some '/'

/-- Parts that lead nowhere. -/
def isIdle (part : String) : Bool := part == "" || part == "."

/-- Whether a path means standard input: the single part `-`, also with idle parts behind. -/
def isStandardInput (path : String) : Bool :=
  match parts path with
  | "-" :: rest => rest.all isIdle
  | _ => false

def join (directory name : String) : String :=
  if directory.toList.getLast? == some '/' then directory ++ name else directory ++ "/" ++ name

end Path

inductive Failure where
  | missing
  /-- A part of the path that should be a directory is none. -/
  | notDirectory
  | isDirectory
  /-- The path, or a name in it, is longer than a path or a name can be. -/
  | nameTooLong
  /-- A text was wanted and the bytes are not UTF-8. -/
  | notText
  | other (message : String)
  deriving DecidableEq, Repr

def Failure.message : Failure → String
  | missing => "No such file or directory (os error 2)"
  | notDirectory => "Not a directory (os error 20)"
  | isDirectory => "Is a directory (os error 21)"
  | nameTooLong => "File name too long (os error 36)"
  | notText => "stream did not contain valid UTF-8"
  | other message => message

inductive Entry where
  | file (bytes : ByteArray)
  | directory

abbrev Lookup := String → Except Failure Entry

namespace Lookup

def holds (lookup : Lookup) (path : String) : Bool := (lookup path).isOk

def bytes (lookup : Lookup) (path : String) : Except Failure ByteArray :=
  match lookup path with
  | .error failure => .error failure
  | .ok .directory => .error .isDirectory
  | .ok (.file bytes) => .ok bytes

def text (lookup : Lookup) (path : String) : Except Failure String := do
  match String.fromUTF8? (← lookup.bytes path) with
  | some text => return text
  | none => throw .notText

end Lookup

end Coll.Storage

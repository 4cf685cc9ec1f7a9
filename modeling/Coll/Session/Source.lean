import Coll.Session.Surroundings

/-!
The sources that a run reads: files, and standard input.
-/

namespace Coll.Session

open Logging (Event)
open Storage (Failure Lookup)

/-- The name that standard input has in reports. -/
def inputName : String := "<stdin>"

/-- All bytes up to the end of the input, unless a read fails before. -/
def allBytes : Reads → Except Failure ByteArray
  | [] => .ok .empty
  | .data [] :: _ => .ok .empty
  | .data bytes :: rest => do return ⟨bytes.toArray⟩ ++ (← allBytes rest)
  | .interrupted :: rest => allBytes rest
  | .failure message :: _ => .error (.other message)

/-- The reads of a file. A directory can be opened like a file, but not read. -/
def readsOf (storage : Lookup) (path : String) : Except Failure Reads :=
  match storage path with
  | .error failure => .error failure
  | .ok .directory => .ok [.failure Failure.isDirectory.message]
  | .ok (.file bytes) => .ok [.data bytes.data.toList]

/-- The source that the command `tokens` reads, and what is told of it. -/
def openSource (surroundings : Surroundings) (file : Option String) :
    Except RunFailure (Reads × Event) :=
  let told (message : String) (fields : List (String × String)) : Event :=
    { level := .debug, component := .dump, message, fields }
  match file.filter (!Storage.Path.isStandardInput ·) with
  | none => .ok (surroundings.input, told "lexing standard input" [])
  | some path =>
    match readsOf surroundings.storage path with
    | .error failure => .error (.unreadableSource path failure)
    | .ok reads => .ok (reads, told "lexing file" [("path", path)])

/-- The name and the bytes of a source to be checked. After standard input has been read once,
nothing is left of it. -/
def readSource (surroundings : Surroundings) (inputLeft : Bool) (path : String) :
    Except RunFailure (String × ByteArray) :=
  if Storage.Path.isStandardInput path then
    if inputLeft then
      match allBytes surroundings.input with
      | .error failure => .error (.unreadableInput failure)
      | .ok bytes => .ok (inputName, bytes)
    else .ok (inputName, .empty)
  else
    match surroundings.storage.bytes path with
    | .error failure => .error (.unreadableSource path failure)
    | .ok bytes => .ok (path, bytes)

end Coll.Session

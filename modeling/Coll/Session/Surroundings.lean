import Coll.CommandLine.Request
import Coll.Logging.Event
import Coll.Storage.Basic
import Coll.Stream.Reads

/-!
What a run of the program starts from, and what it comes to.
-/

namespace Coll.Session

open CommandLine (Environment)
open Logging (Event)
open Storage (Failure Lookup)

structure Surroundings where
  arguments : List String
  environment : Environment
  /-- Where each path leads. -/
  storage : Lookup
  /-- What reading standard input delivers. -/
  input : Reads
  /-- The directory of the user, if there is one. -/
  home : Option String
  /-- The directory for configuration, if it is set. -/
  configuration : Option String
  /-- The time as the log shows it. -/
  time : String

structure Outcome where
  exitCode : Nat
  output : String := ""
  errors : String := ""
  deriving DecidableEq, Repr

inductive Message where
  | event (event : Event)
  | text (text : String)
  deriving DecidableEq, Repr

inductive RunFailure where
  | noConfiguration (path : String)
  | malformedConfiguration
  | unreadableConfiguration (failure : Failure)
  | unreadableSource (path : String) (failure : Failure)
  | unreadableInput (failure : Failure)
  | lexicalErrors (count : Nat)
  deriving DecidableEq, Repr

def RunFailure.message : RunFailure → String
  | noConfiguration path => "Configuration error: Configuration file not found: " ++ path
  | malformedConfiguration =>
    "Configuration error: Failed to parse configuration: the file holds no valid settings"
  | unreadableConfiguration failure | unreadableInput failure => "IO error: " ++ failure.message
  | unreadableSource path failure => "cannot read `" ++ path ++ "`: " ++ failure.message
  | lexicalErrors count => "aborting due to " ++ Event.number count ++ " lexical error(s)"

/-- What a part of a run has written so far, and its result or why it failed. -/
structure Progress (α : Type) where
  output : String := ""
  messages : List Message := []
  result : Except RunFailure α

end Coll.Session

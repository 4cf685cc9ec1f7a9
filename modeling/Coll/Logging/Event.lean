import Coll.Text.Escaped

/-!
What the program tells about its own work, line by line.
-/

namespace Coll.Logging

inductive Level where
  | error
  | warn
  | info
  | debug
  | trace
  deriving DecidableEq, Repr

namespace Level

def name : Level → String
  | error => "ERROR"
  | warn => "WARN"
  | info => "INFO"
  | debug => "DEBUG"
  | trace => "TRACE"

/-- The less important, the greater. -/
def rank : Level → Nat
  | error => 1
  | warn => 2
  | info => 3
  | debug => 4
  | trace => 5

/-- The colour of a level, as terminals number colours. -/
def colour : Level → String
  | error => "31"
  | warn => "33"
  | info => "32"
  | debug => "34"
  | trace => "35"

end Level

/-- The part of the program that an event comes from. -/
inductive Component where
  /-- What settings are in force. -/
  | configuration
  /-- The command `tokens`. -/
  | dump
  /-- The command `check`. -/
  | check
  /-- What reading a source does. -/
  | reading
  /-- What scanning a source does. -/
  | scanning
  deriving DecidableEq, Repr

/-- The name under which a filter refers to a component. It leads from the whole to the part. -/
def Component.name : Component → String
  | configuration => "collc::config"
  | dump => "collc::commands::tokens"
  | check => "collc::commands::check"
  | reading => "collc_lex::source"
  | scanning => "collc_lex::lexer::core"

structure Event where
  level : Level
  component : Component
  message : String
  fields : List (String × String) := []
  deriving DecidableEq, Repr

namespace Event

/-- Whether an event has a field of the given name. The message counts as one. -/
def hasField (event : Event) (name : String) : Bool :=
  name == "message" || event.fields.any (·.1 == name)

def number (n : Nat) : String := String.ofList (Text.decimal n)

def quoted (text : String) : String := String.ofList (Text.quote text.toList)

/-- `text` as a terminal shows it after the control sequence with the given number. -/
def styled (style text : String) : String := "\x1b[" ++ style ++ "m" ++ text ++ "\x1b[0m"

def renderField (colours : Bool) (field : String × String) : String :=
  if colours then " " ++ styled "3" field.1 ++ styled "2" "=" ++ field.2
  else " " ++ field.1 ++ "=" ++ field.2

/-- The line for an event that happened at `time`, with its line feed. -/
def render (colours : Bool) (time : String) (event : Event) : String :=
  let level := String.ofList (Text.padLeft 5 ' ' event.level.name.toList)
  let head :=
    if colours then styled "2" time ++ " " ++ styled event.level.colour level
    else time ++ " " ++ level
  head ++ " " ++ event.message ++ String.join (event.fields.map (renderField colours)) ++ "\n"

end Event

end Coll.Logging

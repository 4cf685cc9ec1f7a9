import Coll.CommandLine.Options

/-!
What a command line asks for. Arguments are read from left to right, and the first that is wrong,
or that asks a question, decides. A value apart from its option, and the words that are no option,
are judged only when the next option follows or the place ends. What the environment gives is
looked at afterwards, and counts where the command line is silent.
-/

namespace Coll.CommandLine

inductive Task where
  | tokens (file : Option String) (format : Option DumpFormat) (includeEnd : Bool)
  | check (files : List String) (maxErrors : Option Nat)
  deriving DecidableEq, Repr

inductive Request where
  /-- The version of the program, or of one of its commands. -/
  | version (verb : Option Verb)
  | help
  | run (verbose noColour : Bool) (config : Option String) (task : Task)
  deriving DecidableEq, Repr

/-- Why reading the arguments came to an early end. -/
inductive Stop where
  | wrong (error : UsageError)
  | asked (question : Question) (place : Place)
  deriving DecidableEq, Repr

/-- Lets an error end the reading. -/
def orStop {α : Type} : Except UsageError α → Except Stop α
  | .ok value => .ok value
  | .error error => .error (.wrong error)

/-- Whether a word can be the value of the option before it: it does not look like an option. -/
def isValue (word : String) : Bool :=
  match word.toList with
  | ['-'] => true
  | '-' :: _ => false
  | _ => true

/-- What has been read last and is not judged yet: an option may still get its value, and words
may follow words. -/
inductive Pending where
  | setting (setting : Setting) (value : Option String)
  | operands (words : List String)
  deriving DecidableEq, Repr

structure Reading where
  given : Given := {}
  pending : Option Pending := none
  deriving DecidableEq, Repr

namespace Reading

/-- What the reading comes to, with what was pending. -/
def settled (reading : Reading) (place : Place) : Except UsageError Given :=
  match reading.pending with
  | none => .ok reading.given
  | some (.setting _ none) => .error .missingValue
  | some (.setting setting (some value)) => reading.given.put setting value
  | some (.operands words) => words.foldlM (·.addOperand place) reading.given

def raise (reading : Reading) (place : Place) (flag : Flag) : Except UsageError Reading := do
  return { given := ← (← reading.settled place).raise flag }

def put (reading : Reading) (place : Place) (setting : Setting) (value : String) :
    Except UsageError Reading := do
  return { given := ← (← reading.settled place).put setting value }

/-- Reads an option whose value is to come. -/
def await (reading : Reading) (place : Place) (setting : Setting) : Except UsageError Reading := do
  return { given := ← reading.settled place, pending := some (.setting setting none) }

/-- The option that has no value yet. -/
def awaiting? (reading : Reading) : Option Setting :=
  match reading.pending with
  | some (.setting setting none) => some setting
  | _ => none

/-- Reads a question. Whatever was pending has to be right before it is asked. -/
def ask (reading : Reading) (place : Place) (question : Question) : Stop :=
  match reading.settled place with
  | .ok _ => .asked question place
  | .error error => .wrong error

/-- Reads a word that is no option. Only the command `check` has more than one. -/
def addOperand (reading : Reading) (place : Place) (word : String) : Except UsageError Reading :=
  match place, reading.pending with
  | .start, _ => .error (.unexpectedOperand word)
  | .behind .check, some (.operands words) =>
    .ok { reading with pending := some (.operands (words ++ [word])) }
  | .behind _, _ => do
    return { given := ← reading.settled place, pending := some (.operands [word]) }

end Reading

/-- Reads short options written together. An option with a value takes the rest of them, without
an `=` in front; if there is none it awaits the next argument. -/
def readCluster (place : Place) : List Char → Reading → Except Stop Reading
  | [], reading => .ok reading
  | c :: rest, reading =>
    match Choice.ofShort? place c with
    | none => .error (.wrong (.unknownOption (String.singleton c)))
    | some (.question question) => .error (reading.ask place question)
    | some (.flag flag) => do readCluster place rest (← orStop (reading.raise place flag))
    | some (.setting setting) =>
      match rest with
      | [] => orStop (reading.await place setting)
      | '=' :: value => orStop (reading.put place setting (String.ofList value))
      | value => orStop (reading.put place setting (String.ofList value))

def readLong (place : Place) (text : List Char) (reading : Reading) : Except Stop Reading :=
  let (name, value) := text.span (· ≠ '=')
  let name := String.ofList name
  match Choice.ofLong? place name, value with
  | none, _ => .error (.wrong (.unknownOption name))
  | some (.question question), [] => .error (reading.ask place question)
  | some (.flag flag), [] => orStop (reading.raise place flag)
  | some (.setting setting), [] => orStop (reading.await place setting)
  | some (.setting setting), _ :: value =>
    orStop (reading.put place setting (String.ofList value))
  | some _, _ :: _ => .error (.wrong (.unwantedValue name))

/-- Whether these words may follow the word `help`: they name at most one thing that there is help
on. -/
def isTopic : List String → Bool
  | [] => true
  | [word] => word = "help" || (Verb.ofName? word).isSome
  | _ => false

/-- Reads the arguments of a place, and at the start ends before those of the command. -/
def readArguments (place : Place) :
    List String → Reading → Except Stop (Reading × Option (Verb × List String))
  | [], reading => .ok (reading, none)
  | word :: words, reading =>
    match isValue word, reading.awaiting? with
    | true, some setting =>
      readArguments place words { reading with pending := some (.setting setting (some word)) }
    | _, _ =>
      match word.toList with
      | ['-', '-'] => do
        return (← orStop (words.foldlM (·.addOperand place) reading), none)
      | '-' :: '-' :: text => do readArguments place words (← readLong place text reading)
      | '-' :: c :: text => do readArguments place words (← readCluster place (c :: text) reading)
      | _ =>
        match place, Verb.ofName? word with
        | .start, some verb => .ok (reading, some (verb, words))
        | .start, none =>
          if word = "help" && isTopic words then .error (.asked .help place)
          else .error (.wrong (.unexpectedOperand word))
        | .behind _, _ => do
          readArguments place words (← orStop (reading.addOperand place word))

def Task.ofGiven (verb : Verb) (given : Given) : Task :=
  match verb with
  | .tokens => .tokens given.operands.head? given.format given.includeEnd
  | .check => .check given.operands given.maxErrors

/-- The values of environment variables, `none` for those that are not set. -/
abbrev Environment := String → Option String

def truthOf (environment : Environment) (name : String) : Except UsageError Bool :=
  match environment name with
  | none => .ok false
  | some "true" => .ok true
  | some "false" => .ok false
  | some _ => .error (.invalidVariable name)

/-- A flag that may be given before the command, behind it, or by the environment. The
environment is not looked at if both places give it. -/
def settleFlag (before after : Bool) (environment : Environment) (name : String) :
    Except UsageError Bool := do
  if before && after then return true
  let byVariable ← truthOf environment name
  return before || after || byVariable

/-- The configuration file. Behind the command counts most, the environment least. -/
def settleConfig (before after : Option String) (environment : Environment) :
    Except UsageError (Option String) :=
  let name := "COLLC_CONFIG"
  match before, after with
  | some _, some path => .ok (some path)
  | _, _ =>
    match environment name with
    | some "" => .error (.invalidVariable name)
    | byVariable => .ok (after.or (before.or byVariable))

def settle (environment : Environment) (before : Given) (verb : Verb) (after : Given) :
    Except UsageError Request := do
  let verbose ← settleFlag before.verbose after.verbose environment "COLLC_VERBOSE"
  let config ← settleConfig before.config after.config environment
  let noColour ← settleFlag before.noColour after.noColour environment "COLLC_NO_COLOR"
  return .run verbose noColour config (.ofGiven verb after)

/-- Reads a command line to its end. What is still pending when the command comes is judged after
the arguments of the command. -/
def readAll (environment : Environment) (arguments : List String) : Except Stop Request := do
  let (before, command) ← readArguments .start arguments {}
  match command with
  | none => throw (.wrong .missingCommand)
  | some (verb, arguments) =>
    let (after, _) ← readArguments (.behind verb) arguments {}
    let after ← orStop (after.settled (.behind verb))
    let before ← orStop (before.settled .start)
    orStop (settle environment before verb after)

def request (environment : Environment) (arguments : List String) : Except UsageError Request :=
  match readAll environment arguments with
  | .ok request => .ok request
  | .error (.wrong error) => .error error
  | .error (.asked .help _) => .ok .help
  | .error (.asked .version .start) => .ok (.version none)
  | .error (.asked .version (.behind verb)) => .ok (.version (some verb))

end Coll.CommandLine

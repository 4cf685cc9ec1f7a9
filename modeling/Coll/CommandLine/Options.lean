import Coll.Settings
import Coll.Text.Numeral

/-!
The options of the command line, and where each of them may stand.
-/

namespace Coll.CommandLine

inductive Flag where
  | verbose
  | noColour
  | includeEnd
  deriving DecidableEq, Repr

inductive Setting where
  | config
  | format
  | maxErrors
  deriving DecidableEq, Repr

/-- Options that answer at once instead of running anything. -/
inductive Question where
  | version
  | help
  deriving DecidableEq, Repr

inductive Choice where
  | flag (flag : Flag)
  | setting (setting : Setting)
  | question (question : Question)
  deriving DecidableEq, Repr

inductive Verb where
  | tokens
  | check
  deriving DecidableEq, Repr

/-- The part of the command line before the command, or that of a command. -/
inductive Place where
  | start
  | behind (verb : Verb)
  deriving DecidableEq, Repr

namespace Verb

def name : Verb → String
  | tokens => "tokens"
  | check => "check"

def ofName? : String → Option Verb
  | "tokens" => some tokens
  | "check" => some check
  | _ => none

end Verb

namespace Choice

/-- The option with a long name, without the dashes, if it may stand in `place`. -/
def ofLong? (place : Place) (name : String) : Option Choice :=
  match name, place with
  | "verbose", _ => some (.flag .verbose)
  | "config", _ => some (.setting .config)
  | "no-color", _ => some (.flag .noColour)
  | "version", _ => some (.question .version)
  | "help", _ => some (.question .help)
  | "format", .behind .tokens => some (.setting .format)
  | "include-eof", .behind .tokens => some (.flag .includeEnd)
  | "max-errors", .behind .check => some (.setting .maxErrors)
  | _, _ => none

/-- The option with a short name, if it may stand in `place`. -/
def ofShort? (place : Place) (name : Char) : Option Choice :=
  match name, place with
  | 'v', _ => some (.flag .verbose)
  | 'c', _ => some (.setting .config)
  | 'V', _ => some (.question .version)
  | 'h', _ => some (.question .help)
  | 'F', .behind .tokens => some (.setting .format)
  | _, _ => none

end Choice

/-- What the options of one place, and the words among them, come to. -/
structure Given where
  verbose : Bool := false
  noColour : Bool := false
  includeEnd : Bool := false
  config : Option String := none
  format : Option DumpFormat := none
  maxErrors : Option Nat := none
  /-- The words that are no options. -/
  operands : List String := []
  deriving DecidableEq, Repr

inductive UsageError where
  | unknownOption (name : String)
  | repeatedOption
  | missingValue
  | unwantedValue (name : String)
  | invalidValue (value : String)
  | unexpectedOperand (operand : String)
  | missingCommand
  | invalidVariable (name : String)
  deriving DecidableEq, Repr

def UsageError.message : UsageError → String
  | unknownOption name => "unexpected option " ++ name
  | repeatedOption => "an option is given more than once"
  | missingValue => "an option lacks its value"
  | unwantedValue name => "no value is expected for " ++ name
  | invalidValue value => "invalid value " ++ value
  | unexpectedOperand operand => "unexpected argument " ++ operand
  | missingCommand => "a command is required: tokens or check"
  | invalidVariable name => "invalid value in the environment variable " ++ name

namespace Given

/-- Takes in a flag, which may not have been given before. -/
def raise (given : Given) (flag : Flag) : Except UsageError Given :=
  match flag with
  | .verbose =>
    if given.verbose then .error .repeatedOption else .ok { given with verbose := true }
  | .noColour =>
    if given.noColour then .error .repeatedOption else .ok { given with noColour := true }
  | .includeEnd =>
    if given.includeEnd then .error .repeatedOption else .ok { given with includeEnd := true }

/-- Takes in a value, if it is one for the option and the option has none yet. -/
def put (given : Given) (setting : Setting) (value : String) : Except UsageError Given :=
  match setting with
  | .config =>
    if given.config.isSome then .error .repeatedOption
    else if value.isEmpty then .error (.invalidValue value)
    else .ok { given with config := some value }
  | .format =>
    if given.format.isSome then .error .repeatedOption
    else
      match DumpFormat.ofName? value with
      | some format => .ok { given with format := some format }
      | none => .error (.invalidValue value)
  | .maxErrors =>
    if given.maxErrors.isSome then .error .repeatedOption
    else
      match Text.readDecimal? value.toList with
      | some n => .ok { given with maxErrors := some n }
      | none => .error (.invalidValue value)

/-- Takes in a word that is no option. The command `tokens` has at most one, and none is empty. -/
def addOperand (given : Given) (place : Place) (operand : String) : Except UsageError Given :=
  match place with
  | .start => .error (.unexpectedOperand operand)
  | .behind verb =>
    if verb == .tokens && !given.operands.isEmpty then .error (.unexpectedOperand operand)
    else if operand.isEmpty then .error (.invalidValue operand)
    else .ok { given with operands := given.operands ++ [operand] }

end Given

end Coll.CommandLine

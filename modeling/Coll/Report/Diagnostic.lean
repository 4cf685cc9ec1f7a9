import Coll.Report.Span
import Coll.Text.Numeral

/-!
Diagnostics: what is wrong, where, and what may help.
-/

namespace Coll

inductive Severity where
  | error
  | warning
  deriving DecidableEq, Repr

def Severity.name : Severity → String
  | error => "error"
  | warning => "warning"

/-- A number under which a diagnostic is documented, within a family such as `E`. -/
structure Code where
  family : String
  number : Nat
  deriving DecidableEq, Repr

namespace Code

/-- The family and at least four digits. -/
def display (code : Code) : String :=
  code.family ++ String.ofList (Text.padLeft 4 '0' (Text.decimal code.number))

/-- A character that begins no token. -/
def unexpectedCharacter : Code := ⟨"E", 1001⟩

/-- The input ends inside a string literal. -/
def unterminatedString : Code := ⟨"E", 1002⟩

/-- A backslash before a character that it gives no meaning. -/
def invalidEscape : Code := ⟨"E", 1003⟩

/-- The sign `=/` without the `=` that completes it. -/
def malformedNotEqual : Code := ⟨"E", 1004⟩

/-- A single `&` or `|`. -/
def unsupportedOperator : Code := ⟨"E", 1005⟩

end Code

structure Diagnostic where
  severity : Severity := .error
  message : String
  span : Span := .nowhere
  code : Option Code := none
  helps : List String := []
  deriving DecidableEq, Repr

namespace Diagnostic

/-- The first line of a report: severity, code and message. -/
def header (d : Diagnostic) : String :=
  match d.code with
  | some code => d.severity.name ++ "[" ++ code.display ++ "]: " ++ d.message
  | none => d.severity.name ++ ": " ++ d.message

/-- The diagnostic on one line, with its line and column. -/
def display (d : Diagnostic) : String :=
  d.header ++ " at " ++ String.ofList (Text.decimal d.span.line) ++ ":" ++
    String.ofList (Text.decimal d.span.column)

def isError (d : Diagnostic) : Bool := d.severity == .error

end Diagnostic

end Coll

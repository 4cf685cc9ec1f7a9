import Coll.Report.Diagnostic
import Coll.Text.Escaped

/-!
What can be wrong with a lexeme, and how it is reported.
-/

namespace Coll.Lexeme

/-- An operator whose doubled form alone is part of the language. -/
inductive SingleOperator where
  | ampersand
  | pipe
  deriving DecidableEq, Repr

/-- The ways in which a lexeme can be malformed. -/
inductive Fault where
  /-- `c` begins no lexeme. -/
  | unexpected (c : Char)
  /-- The input ends before the closing quote. -/
  | unterminated
  /-- A backslash stands before `c`. -/
  | invalidEscape (c : Char)
  /-- `=/` stands without the `=` after it. -/
  | brokenNotEqual
  /-- An operator is not doubled. -/
  | undoubled (operator : SingleOperator)
  deriving DecidableEq, Repr

def SingleOperator.spelling : SingleOperator → String
  | ampersand => "&"
  | pipe => "|"

def SingleOperator.meaning : SingleOperator → String
  | ampersand => "and"
  | pipe => "or"

namespace Fault

def code : Fault → Code
  | unexpected _ => .unexpectedCharacter
  | unterminated => .unterminatedString
  | invalidEscape _ => .invalidEscape
  | brokenNotEqual => .malformedNotEqual
  | undoubled _ => .unsupportedOperator

def message : Fault → String
  | unexpected c => "unexpected character '" ++ String.ofList (Text.escapeChar .alone c) ++ "'"
  | unterminated => "unterminated string literal"
  | invalidEscape c => "invalid escape sequence '\\" ++ String.singleton c ++ "'"
  | brokenNotEqual => "expected `=` to complete `=/=`"
  | undoubled op => "unsupported operator `" ++ op.spelling ++ "`"

/-- The text of the error token: the lexeme where it is a sign, else the message. -/
def text : Fault → String
  | unexpected c => String.singleton c
  | unterminated => message unterminated
  | invalidEscape c => message (invalidEscape c)
  | brokenNotEqual => "=/"
  | undoubled op => op.spelling

def help? : Fault → Option String
  | unexpected _ => none
  | unterminated => some "add a closing `\"`"
  | invalidEscape _ => some "valid escapes are `\\n`, `\\\\` and `\\\"`"
  | brokenNotEqual => some "the not-equal operator is written `=/=`"
  | undoubled op =>
    some ("use `" ++ op.spelling ++ op.spelling ++ "` for logical " ++ op.meaning)

/-- The report of a fault in the lexeme at `span`. -/
def diagnostic (fault : Fault) (span : Span) : Diagnostic where
  severity := .error
  message := fault.message
  span := span
  code := some fault.code
  helps := fault.help?.toList

end Fault

end Coll.Lexeme

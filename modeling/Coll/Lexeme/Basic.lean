import Coll.Lexeme.Fault
import Coll.Stream.Cursor
import Coll.Token.Kind

/-!
What scanning a lexeme finds.
-/

namespace Coll.Lexeme

inductive Outcome where
  | lexeme (kind : Kind) (text : String)
  | malformed (fault : Fault)
  deriving DecidableEq, Repr

namespace Outcome

def operator (op : Operator) : Outcome := lexeme (.operator op) op.spelling

def delimiter (d : Delimiter) : Outcome := lexeme (.delimiter d) d.spelling

/-- The kind of the token that reports the outcome. -/
def kind : Outcome → Kind
  | lexeme kind _ => kind
  | malformed _ => .error

/-- The text of the token that reports the outcome. -/
def text : Outcome → String
  | lexeme _ text => text
  | malformed fault => fault.text

def fault? : Outcome → Option Fault
  | lexeme _ _ => none
  | malformed fault => some fault

end Outcome

/-- What a scanner found, and the cursor after it. -/
abbrev Scan (σ : Type) := Outcome × Cursor σ

end Coll.Lexeme

import Coll.Text.Escaped
import Coll.Text.Position
import Coll.Token.Kind

/-!
Tokens, and the two ways of printing one.
-/

namespace Coll

/-- A classified lexeme and where its first character stands. The text is the lexeme, for a
number its normal form, for a string literal its content, and for an error what is wrong. -/
structure Token where
  kind : Kind
  text : String
  line : Nat
  column : Nat
  deriving DecidableEq, Repr

namespace Token

def isEnd (token : Token) : Bool := token.kind == .endOfInput

def isError (token : Token) : Bool := token.kind == .error

/-- Kind and text between angle brackets. -/
def display (token : Token) : String :=
  "<" ++ token.kind.name ++ "," ++ token.text ++ ">"

/-- The token as a JSON object on one line. -/
def toJson (token : Token) : List Char :=
  "\x7b\"kind\":\"".toList ++ token.kind.name.toList ++ "\",\"text\":".toList ++
    Text.JsonString.encode token.text.toList ++
    ",\"line\":".toList ++ Text.decimal token.line ++
    ",\"column\":".toList ++ Text.decimal token.column ++ "\x7d".toList

end Token

end Coll

/-!
The closed set of token kinds, grouped as the Coll language groups them. Every kind has a name in
upper case; the words and signs that the language fixes have a spelling as well.
-/

namespace Coll

inductive Literal where
  | integer
  | float
  | string
  | trueValue
  | falseValue
  deriving DecidableEq, Repr

/-- Reserved words other than truth values and the names of types. -/
inductive Keyword where
  | finalWord
  | collWord
  | defWord
  | forWord
  | whileWord
  | ifWord
  | elseWord
  | returnWord
  | notWord
  | arrayWord
  deriving DecidableEq, Repr

inductive TypeName where
  | int
  | float
  | bool
  | string
  deriving DecidableEq, Repr

inductive Operator where
  | plus
  | minus
  | star
  | slash
  | percent
  | equal
  | notEqual
  | less
  | greater
  | lessEqual
  | greaterEqual
  | and
  | or
  | assign
  deriving DecidableEq, Repr

/-- Brackets, separators, the member dot and the result arrow. -/
inductive Delimiter where
  | leftParenthesis
  | rightParenthesis
  | leftBrace
  | rightBrace
  | leftBracket
  | rightBracket
  | dot
  | semicolon
  | comma
  | arrow
  deriving DecidableEq, Repr

inductive Kind where
  | literal (literal : Literal)
  /-- A name that does not begin with an upper-case letter. -/
  | identifier
  /-- A name that begins with an upper-case letter: the name of a collection type. -/
  | collectionName
  | keyword (word : Keyword)
  | typeName (type : TypeName)
  | operator (operator : Operator)
  | delimiter (delimiter : Delimiter)
  | endOfInput
  /-- A malformed lexeme. -/
  | error
  deriving DecidableEq, Repr

namespace Literal

def all : List Literal := [integer, float, string, trueValue, falseValue]

def name : Literal → String
  | integer => "INTEGER_LITERAL"
  | float => "FLOAT_LITERAL"
  | string => "STRING_LITERAL"
  | trueValue => "TRUE"
  | falseValue => "FALSE"

end Literal

namespace Keyword

def all : List Keyword :=
  [finalWord, collWord, defWord, forWord, whileWord, ifWord, elseWord, returnWord, notWord,
    arrayWord]

def name : Keyword → String
  | finalWord => "FINAL"
  | collWord => "COLL"
  | defWord => "DEF"
  | forWord => "FOR"
  | whileWord => "WHILE"
  | ifWord => "IF"
  | elseWord => "ELSE"
  | returnWord => "RETURN"
  | notWord => "NOT"
  | arrayWord => "ARRAY"

def spelling : Keyword → String
  | finalWord => "final"
  | collWord => "coll"
  | defWord => "def"
  | forWord => "for"
  | whileWord => "while"
  | ifWord => "if"
  | elseWord => "else"
  | returnWord => "return"
  | notWord => "not"
  | arrayWord => "array"

end Keyword

namespace TypeName

def all : List TypeName := [int, float, bool, string]

def name : TypeName → String
  | int => "INT_TYPE"
  | float => "FLOAT_TYPE"
  | bool => "BOOL_TYPE"
  | string => "STRING_TYPE"

def spelling : TypeName → String
  | int => "int"
  | float => "float"
  | bool => "bool"
  | string => "string"

end TypeName

namespace Operator

def all : List Operator :=
  [plus, minus, star, slash, percent, equal, notEqual, less, greater, lessEqual, greaterEqual,
    and, or, assign]

def name : Operator → String
  | plus => "PLUS"
  | minus => "MINUS"
  | star => "STAR"
  | slash => "SLASH"
  | percent => "PERCENT"
  | equal => "EQUAL"
  | notEqual => "NOT_EQUAL"
  | less => "LESS"
  | greater => "GREATER"
  | lessEqual => "LESS_EQUAL"
  | greaterEqual => "GREATER_EQUAL"
  | and => "AND"
  | or => "OR"
  | assign => "ASSIGN"

def spelling : Operator → String
  | plus => "+"
  | minus => "-"
  | star => "*"
  | slash => "/"
  | percent => "%"
  | equal => "=="
  | notEqual => "=/="
  | less => "<"
  | greater => ">"
  | lessEqual => "<="
  | greaterEqual => ">="
  | and => "&&"
  | or => "||"
  | assign => "="

end Operator

namespace Delimiter

def all : List Delimiter :=
  [leftParenthesis, rightParenthesis, leftBrace, rightBrace, leftBracket, rightBracket, dot,
    semicolon, comma, arrow]

def name : Delimiter → String
  | leftParenthesis => "LPAREN"
  | rightParenthesis => "RPAREN"
  | leftBrace => "LBRACE"
  | rightBrace => "RBRACE"
  | leftBracket => "LBRACKET"
  | rightBracket => "RBRACKET"
  | dot => "DOT"
  | semicolon => "SEMICOLON"
  | comma => "COMMA"
  | arrow => "ARROW"

def spelling : Delimiter → String
  | leftParenthesis => "("
  | rightParenthesis => ")"
  | leftBrace => "\x7b"
  | rightBrace => "\x7d"
  | leftBracket => "["
  | rightBracket => "]"
  | dot => "."
  | semicolon => ";"
  | comma => ","
  | arrow => "->"

end Delimiter

namespace Kind

def all : List Kind :=
  Literal.all.map literal ++ [identifier, collectionName] ++ Keyword.all.map keyword ++
    TypeName.all.map typeName ++ Operator.all.map operator ++ Delimiter.all.map delimiter ++
    [endOfInput, error]

/-- The name of a kind in dumps and logs. -/
def name : Kind → String
  | literal l => l.name
  | identifier => "IDENTIFIER"
  | collectionName => "COLLECTION_NAME"
  | keyword word => word.name
  | typeName type => type.name
  | operator op => op.name
  | delimiter d => d.name
  | endOfInput => "EOF"
  | error => "ERROR"

def ofName? (name : String) : Option Kind := all.find? (·.name == name)

def isLiteral : Kind → Bool
  | literal _ => true
  | _ => false

def isKeyword : Kind → Bool
  | keyword _ => true
  | _ => false

def isTypeName : Kind → Bool
  | typeName _ => true
  | _ => false

def isOperator : Kind → Bool
  | operator _ => true
  | _ => false

/-- The words that are no names, with what they are instead. -/
def reserved : List (String × Kind) :=
  Keyword.all.map (fun word => (word.spelling, keyword word)) ++
    TypeName.all.map (fun type => (type.spelling, typeName type)) ++
    [("true", literal .trueValue), ("false", literal .falseValue)]

/-- What a reserved word is; `none` for every other word. -/
def ofReserved? (word : String) : Option Kind := reserved.lookup word

end Kind

end Coll

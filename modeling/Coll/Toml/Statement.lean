import Coll.Toml.Moment
import Coll.Toml.Tree

/-!
The statements of a TOML document, as they follow one another line by line.
-/

namespace Coll.Toml

/-- A line that says something. -/
inductive Statement where
  /-- `a.b = value`. -/
  | pair (path : List String) (key : String) (value : Value)
  /-- `[a.b]`. -/
  | table (path : List String) (key : String)
  /-- `[[a.b]]`. -/
  | element (path : List String) (key : String)
  deriving Repr

/-- No key has this many parts, and no value lies this many arrays and inline tables deep. -/
def nestingLimit : Nat := 80

/-- Characters of a key without quotes. -/
def isBareKey (c : Char) : Bool := c.isAlphanum || c == '-' || c == '_'

/-- Reads one part of a key. -/
def keyPart? (cs : List Char) : Option (String × List Char) :=
  match cs with
  | '"' :: rest => (basicString? rest []).map fun (text, rest) => (String.ofList text, rest)
  | '\'' :: rest => (literalString? rest []).map fun (text, rest) => (String.ofList text, rest)
  | _ =>
    match cs.span isBareKey with
    | ([], _) => none
    | (part, rest) => some (String.ofList part, rest)

/-- Reads the parts of a key, with blanks around each. Every part takes a character, so `fuel`
need not exceed the number of characters. -/
def keyParts? : Nat → List Char → Option (List String × List Char)
  | 0, _ => none
  | fuel + 1, cs => do
    let (part, rest) ← keyPart? (skipBlanks cs)
    match skipBlanks rest with
    | '.' :: rest =>
      let (parts, rest) ← keyParts? fuel rest
      return (part :: parts, rest)
    | rest => return ([part], rest)

/-- A key as the path to a table and the name of an entry in it. -/
def key? (cs : List Char) : Option ((List String × String) × List Char) := do
  let (parts, rest) ← keyParts? (cs.length + 1) cs
  guard (parts.length < nestingLimit)
  return ((parts.dropLast, ← parts.getLast?), rest)

/-- Characters of numbers, dates, times and truth values. -/
def isBareValue (c : Char) : Bool :=
  c.isAlphanum || c == '+' || c == '-' || c == '.' || c == '_' || c == ':'

/-- Takes the characters of a bare value. A date goes on after a blank if a digit follows. -/
def bareValue (cs : List Char) : List Char × List Char :=
  let (word, rest) := cs.span isBareValue
  match rest with
  | ' ' :: next :: more =>
    if date? word == some [] && next.isDigit then
      let (time, rest) := (next :: more).span isBareValue
      (word ++ ' ' :: time, rest)
    else (word, rest)
  | _ => (word, rest)

/-- What a bare value is. -/
def ofBare? (word : List Char) : Option Value :=
  if word == ['t', 'r', 'u', 'e'] then some (.boolean true)
  else if word == ['f', 'a', 'l', 's', 'e'] then some (.boolean false)
  else if isMoment word then some .moment
  else if isFloat word then some .float
  else (integer? word).map .integer

mutual

/-- Reads a value. Every step takes a character, so `fuel` need not exceed their number; `depth`
tells how many more arrays and inline tables may lie within one another. -/
def valueWith? : Nat → Nat → List Char → Option (Value × List Char)
  | 0, _, _ => none
  | fuel + 1, depth, cs =>
    match cs with
    | '[' :: rest =>
      match depth with
      | 0 => none
      | depth + 1 => itemsWith? fuel depth rest []
    | '\x7b' :: rest =>
      match depth with
      | 0 => none
      | depth + 1 =>
        match skipBlanks rest with
        | '\x7d' :: rest => some (.table [], rest)
        | rest => pairsWith? fuel depth rest []
    | '"' :: _ | '\'' :: _ =>
      (string? cs).map fun (text, rest) => (.text (String.ofList text), rest)
    | _ =>
      let (word, rest) := bareValue cs
      (ofBare? word).map (·, rest)

/-- Reads the items of an array, the first of which comes next, after `items` in reverse order. A
comma may follow the last one, and line breaks and comments may stand anywhere between. -/
def itemsWith? : Nat → Nat → List Char → List Value → Option (Value × List Char)
  | 0, _, _, _ => none
  | fuel + 1, depth, cs, items =>
    match skipGap cs with
    | ']' :: rest => some (.array items.reverse, rest)
    | cs => do
      let (item, rest) ← valueWith? fuel depth cs
      match skipGap rest with
      | ']' :: rest => some (.array (item :: items).reverse, rest)
      | ',' :: rest => itemsWith? fuel depth rest (item :: items)
      | _ => none

/-- Reads the pairs of an inline table, after those already in `entries`. There is one after
every comma, and none goes on to the next line. -/
def pairsWith? : Nat → Nat → List Char → Entries → Option (Value × List Char)
  | 0, _, _, _ => none
  | fuel + 1, depth, cs, entries => do
    let ((path, key), rest) ← key? cs
    let (value, rest) ← valueWith? fuel depth (skipBlanks (← expect? '=' rest))
    let entries ← entries.addPair path key value
    match skipBlanks rest with
    | '\x7d' :: rest => some (.table entries.toValues, rest)
    | ',' :: rest => pairsWith? fuel depth rest entries
    | _ => none

end

/-- Reads a value of any depth below the limit. -/
def value? (cs : List Char) : Option (Value × List Char) :=
  valueWith? (2 * cs.length + 2) (nestingLimit - 1) cs

/-- Reads a statement with the end of its line. -/
def statement? (cs : List Char) : Option (Statement × List Char) :=
  match cs with
  | '[' :: '[' :: rest => do
    let ((path, key), rest) ← key? rest
    return (.element path key, ← lineEnd? (← expect? ']' (← expect? ']' rest)))
  | '[' :: rest => do
    let ((path, key), rest) ← key? rest
    return (.table path key, ← lineEnd? (← expect? ']' rest))
  | _ => do
    let ((path, key), rest) ← key? cs
    let (value, rest) ← value? (skipBlanks (← expect? '=' rest))
    return (.pair path key value, ← lineEnd? rest)

/-- Reads statements to the end of the document, after `statements` in reverse order. -/
def statementsWith? : Nat → List Char → List Statement → Option (List Statement)
  | 0, _, _ => none
  | fuel + 1, cs, statements =>
    match skipGap cs with
    | [] => some statements.reverse
    | cs => do
      let (statement, rest) ← statement? cs
      statementsWith? fuel rest (statement :: statements)

/-- A document may begin with a byte order mark. -/
def skipByteOrderMark : List Char → List Char
  | '\uFEFF' :: rest => rest
  | cs => cs

/-- The statements of a document; none if it is malformed. -/
def statements? (text : List Char) : Option (List Statement) :=
  statementsWith? (text.length + 1) (skipByteOrderMark text) []

end Coll.Toml

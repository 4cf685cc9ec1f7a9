import Coll.Unicode.Property

/-!
Regular expressions, as a filter may give them for the value of a field. Only spans have values to
be compared and the program opens no spans, so nothing is ever matched: all that counts is which
expressions are well formed. A repetition with a count needs braces, and a brace cannot stand in a
filter, so an opening brace is a fault unless it stands for itself.
-/

namespace Coll.Logging.Pattern

/-- Switches that change how an expression is read. -/
structure Switches where
  /-- Blanks and comments between the parts are skipped. -/
  spaced : Bool := false
  /-- Classes of characters go by Unicode. Boundaries of words can then not be looked for. -/
  unicode : Bool := true
  deriving DecidableEq, Repr

/-- Drops blanks and comments where they are skipped. -/
def skip (switches : Switches) : List Char → List Char
  | [] => []
  | c :: rest =>
    if !switches.spaced then c :: rest
    else if Unicode.isWhiteSpace c then skip switches rest
    else if c = '#' then skipComment rest
    else c :: rest
where
  /-- Drops what is left of a comment and what may be skipped after it. -/
  skipComment : List Char → List Char
    | [] => []
    | c :: rest => if c = '\n' then skip switches rest else skipComment rest

/-- What is meant by a backslash and the characters after it. -/
inductive Escaped where
  | literal (c : Char)
  /-- Any character of a class. -/
  | member
  /-- A place between characters. -/
  | place
  deriving DecidableEq, Repr

/-- A hexadecimal digit. -/
def digit? (c : Char) : Option Nat :=
  if c.isDigit then some (c.toNat - '0'.toNat)
  else if 'a' ≤ c && c ≤ 'f' then some (c.toNat - 'a'.toNat + 10)
  else if 'A' ≤ c && c ≤ 'F' then some (c.toNat - 'A'.toNat + 10)
  else none

/-- Reads a code point of `count` hexadecimal digits. -/
def codePoint? (count : Nat) (cs : List Char) : Option (Escaped × List Char) := do
  guard (count ≤ cs.length)
  let code ← (cs.take count).foldlM (fun n c => do return 16 * n + (← digit? c)) 0
  guard code.isValidChar
  return (.literal (Char.ofNat code), cs.drop count)

/-- The letters of the general categories of Unicode. -/
def isCategory (c : Char) : Bool := ['C', 'L', 'M', 'N', 'P', 'S', 'Z'].contains c.toUpper

/-- Reads what follows a backslash. -/
def escape? (switches : Switches) (cs : List Char) : Option (Escaped × List Char) :=
  match cs with
  | [] => none
  | 'x' :: rest => codePoint? 2 rest
  | 'u' :: rest => codePoint? 4 rest
  | 'U' :: rest => codePoint? 8 rest
  | 'p' :: c :: rest | 'P' :: c :: rest =>
    if switches.unicode && isCategory c then some (.member, rest) else none
  | c :: rest =>
    if ['d', 'D', 's', 'S', 'w', 'W'].contains c then some (.member, rest)
    else if ['a', 'f', 'n', 'r', 't', 'v'].contains c then some (.literal c, rest)
    else if ['A', 'z'].contains c then some (.place, rest)
    else if ['b', 'B', '<', '>'].contains c then
      if switches.unicode then none else some (.place, rest)
    else if Unicode.isAscii c && !c.isAlphanum then some (.literal c, rest)
    else none

/-- The names that a class can have inside brackets. -/
def classNames : List String :=
  ["alnum", "alpha", "ascii", "blank", "cntrl", "digit", "graph", "lower", "print", "punct",
    "space", "upper", "word", "xdigit"]

/-- Reads the rest of a named class such as `[:alpha:]`, whose bracket has been read. -/
def namedClass? (cs : List Char) : Option (List Char) :=
  match cs with
  | ':' :: '^' :: rest => named rest
  | ':' :: rest => named rest
  | _ => none
where
  /-- Reads the name and the end. -/
  named (cs : List Char) : Option (List Char) :=
    match cs.span (· != ':') with
    | (name, ':' :: ']' :: rest) =>
      if classNames.contains (String.ofList name) then some rest else none
    | _ => none

/-- Drops what may stand for itself only directly after an opening bracket, and a sign of
negation before it. -/
def afterBracket (switches : Switches) (cs : List Char) : List Char :=
  let cs :=
    match skip switches cs with
    | '^' :: rest => skip switches rest
    | cs => cs
  match cs with
  | ']' :: rest => rest
  | cs => cs.dropWhile (· == '-')

/-- Reads an item of a class. -/
def item? (switches : Switches) (cs : List Char) : Option (Escaped × List Char) :=
  match cs with
  | [] => none
  | '\\' :: rest => escape? switches rest
  | c :: rest => some (.literal c, rest)

/-- Reads an item or a range of items. A hyphen before another one or before the end of the class
makes no range. -/
def range? (switches : Switches) (cs : List Char) : Option (List Char) := do
  let (first, rest) ← item? switches cs
  let alone : Option (List Char) := if first = .place then none else some rest
  match skip switches rest with
  | '-' :: more =>
    match skip switches more with
    | ']' :: _ | '-' :: _ => alone
    | more =>
      match first, ← item? switches more with
      | .literal low, (.literal high, rest) => if low ≤ high then some rest else none
      | _, _ => none
  | _ => alone

/-- Reads up to the bracket that closes a class, with `depth` classes open around it. Every step
takes a character, so `fuel` need not exceed their number by more than one. -/
def closeClass? (switches : Switches) : Nat → Nat → List Char → Option (List Char)
  | 0, _, _ => none
  | fuel + 1, depth, cs =>
    match skip switches cs with
    | [] => none
    | '[' :: rest =>
      match namedClass? rest with
      | some rest => closeClass? switches fuel depth rest
      | none => closeClass? switches fuel (depth + 1) (afterBracket switches rest)
    | ']' :: rest =>
      match depth with
      | 0 => some rest
      | depth + 1 => closeClass? switches fuel depth rest
    | '&' :: '&' :: rest | '-' :: '-' :: rest | '~' :: '~' :: rest =>
      closeClass? switches fuel depth rest
    | cs => do closeClass? switches fuel depth (← range? switches cs)

/-- How far an expression has been read. -/
structure Progress where
  switches : Switches := {}
  /-- The switches outside of the groups that are open, innermost first. -/
  outer : List Switches := []
  /-- Whether there is something that can be repeated. -/
  repeatable : Bool := false
  /-- The names of the groups so far. -/
  names : List (List Char) := []

namespace Progress

/-- Something has been read that can be repeated. -/
def operand (progress : Progress) : Progress := { progress with repeatable := true }

/-- A group has been opened, in which `switches` hold. -/
def group (progress : Progress) (switches : Switches) : Progress :=
  { progress with switches, outer := progress.switches :: progress.outer, repeatable := false }

end Progress

/-- Characters of the name of a group. -/
def isNameCharacter (first : Bool) (c : Char) : Bool :=
  c == '_' || Unicode.isAlphabetic c ||
    (!first && (Unicode.isNumeric c || c == '.' || c == '[' || c == ']'))

/-- Whether each letter is a switch, none is there twice and no sign of negation comes last. -/
def areSwitches (letters : List Char) : Bool :=
  letters.all (['i', 'm', 's', 'U', 'u', 'R', 'x', '-'].contains ·) &&
    letters.all (letters.count · == 1) && letters.getLast? != some '-'

/-- The switches after some letters. Those behind a sign of negation are turned off. -/
def Switches.set (switches : Switches) (letters : List Char) : Switches :=
  let (on, off) := letters.span (· != '-')
  { spaced := on.contains 'x' || (switches.spaced && !off.contains 'x')
    unicode := on.contains 'u' || (switches.unicode && !off.contains 'u') }

/-- Reads the name of a group, which no other group has. -/
def named? (progress : Progress) (cs : List Char) : Option (Progress × List Char) :=
  match cs.span (· != '>') with
  | (first :: others, '>' :: rest) =>
    if isNameCharacter true first && others.all (isNameCharacter false) &&
        !progress.names.contains (first :: others) then
      some ({ progress.group progress.switches with
        names := (first :: others) :: progress.names }, rest)
    else none
  | _ => none

/-- Reads what follows an opening parenthesis. A look at what comes next or came before is not
possible. -/
def opening? (progress : Progress) (cs : List Char) : Option (Progress × List Char) :=
  match skip progress.switches cs with
  | '?' :: '<' :: '!' :: _ | '?' :: '<' :: '=' :: _ => none
  | '?' :: 'P' :: '<' :: rest | '?' :: '<' :: rest => named? progress rest
  | '?' :: rest =>
    let (letters, rest) := rest.span fun c => c != ':' && c != ')'
    if !areSwitches letters then none
    else
      match rest with
      | ':' :: rest => some (progress.group (progress.switches.set letters), rest)
      | ')' :: rest =>
        if letters.isEmpty then none
        else
          let switches := progress.switches.set letters
          some ({ progress with switches, repeatable := false }, rest)
      | _ => none
  | cs => some (progress.group progress.switches, cs)

/-- Whether an expression is well formed from here on. Every step takes a character, so `fuel`
need not exceed their number by more than one. -/
def isWellFormedFrom : Nat → Progress → List Char → Bool
  | 0, _, _ => false
  | fuel + 1, progress, cs =>
    match skip progress.switches cs with
    | [] => progress.outer.isEmpty
    | '(' :: rest =>
      match opening? progress rest with
      | some (progress, rest) => isWellFormedFrom fuel progress rest
      | none => false
    | ')' :: rest =>
      match progress.outer with
      | [] => false
      | switches :: outer =>
        isWellFormedFrom fuel { progress with switches, outer, repeatable := true } rest
    | '|' :: rest => isWellFormedFrom fuel { progress with repeatable := false } rest
    | '\x7b' :: _ => false
    | '[' :: rest =>
      let inside := afterBracket progress.switches rest
      match closeClass? progress.switches (rest.length + 1) 0 inside with
      | some rest => isWellFormedFrom fuel progress.operand rest
      | none => false
    | '\\' :: rest =>
      match escape? progress.switches rest with
      | some (_, rest) => isWellFormedFrom fuel progress.operand rest
      | none => false
    | c :: rest =>
      if ['?', '*', '+'].contains c then
        let rest :=
          match rest with
          | '?' :: rest => rest
          | rest => rest
        progress.repeatable && isWellFormedFrom fuel progress rest
      else isWellFormedFrom fuel progress.operand rest

/-- Whether a text is a regular expression. -/
def isWellFormed (text : List Char) : Bool := isWellFormedFrom (text.length + 1) {} text

end Coll.Logging.Pattern

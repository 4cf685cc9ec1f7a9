import Coll.Toml.Blank

/-!
The four ways of quoting a string. Each reader begins behind the opening quotes and ends behind
the closing ones.
-/

namespace Coll.Toml

/-- The value of a hexadecimal digit of either case. -/
def hexDigit? (c : Char) : Option Nat :=
  if c.isDigit then some (c.toNat - '0'.toNat)
  else if 'a' ≤ c ∧ c ≤ 'f' then some (c.toNat - 'a'.toNat + 10)
  else if 'A' ≤ c ∧ c ≤ 'F' then some (c.toNat - 'A'.toNat + 10)
  else none

/-- The value of digits in the given radix. -/
def ofDigits (radix : Nat) (digits : List Nat) : Nat := digits.foldl (radix * · + ·) 0

/-- The character whose code point is written in exactly `count` hexadecimal digits. -/
def codePoint? (count : Nat) (cs : List Char) : Option (Char × List Char) :=
  match (cs.take count).mapM hexDigit? with
  | none => none
  | some digits =>
    if digits.length = count ∧ (ofDigits 16 digits).isValidChar then
      some (Char.ofNat (ofDigits 16 digits), cs.drop count)
    else none

/-- What a backslash and the characters after it stand for. -/
def escape? : List Char → Option (Char × List Char)
  | 'b' :: rest => some ('\x08', rest)
  | 't' :: rest => some ('\t', rest)
  | 'n' :: rest => some ('\n', rest)
  | 'f' :: rest => some ('\x0c', rest)
  | 'r' :: rest => some ('\r', rest)
  | '"' :: rest => some ('"', rest)
  | '\\' :: rest => some ('\\', rest)
  | 'u' :: rest => codePoint? 4 rest
  | 'U' :: rest => codePoint? 8 rest
  | _ => none

theorem length_le_of_codePoint? {count : Nat} {cs rest : List Char} {c : Char}
    (read : codePoint? count cs = some (c, rest)) : rest.length ≤ cs.length := by
  unfold codePoint? at read
  split at read
  · cases read
  · split at read
    · cases read
      exact (List.drop_suffix _ _).length_le
    · cases read

theorem length_lt_of_escape? {cs rest : List Char} {c : Char}
    (read : escape? cs = some (c, rest)) : rest.length < cs.length := by
  have one (d : Char) {more : List Char} (same : some (d, more) = some (c, rest)) (e : Char) :
      rest.length < (e :: more).length := by
    cases same
    exact Nat.lt_succ_self _
  unfold escape? at read
  split at read
  iterate 7 exact one _ read _
  · exact Nat.lt_succ_of_le (length_le_of_codePoint? read)
  · exact Nat.lt_succ_of_le (length_le_of_codePoint? read)
  · cases read

/-- Reads a string between double quotes. `text` is what has been read, last character first. -/
def basicString? (cs text : List Char) : Option (List Char × List Char) :=
  match cs with
  | [] => none
  | '"' :: rest => some (text.reverse, rest)
  | '\\' :: rest =>
    match _escaped : escape? rest with
    | none => none
    | some (c, more) => basicString? more (c :: text)
  | c :: rest => if isPlain c then basicString? rest (c :: text) else none
termination_by cs.length
decreasing_by
  · exact Nat.lt_succ_of_lt (length_lt_of_escape? _escaped)
  · exact Nat.lt_succ_self _

/-- Reads a string between single quotes, in which a backslash means itself. -/
def literalString? : List Char → List Char → Option (List Char × List Char)
  | [], _ => none
  | '\'' :: rest, text => some (text.reverse, rest)
  | c :: rest, text => if isPlain c then literalString? rest (c :: text) else none

/-- Up to two quotes that stand before the closing ones belong to the string. -/
def closeMultiline (quote : Char) (rest text : List Char) : List Char × List Char :=
  let more := (rest.takeWhile (· == quote)).take 2
  (text.reverse ++ more, rest.drop more.length)

/-- Reads a string between three double quotes. A backslash at the end of a line takes away the
line break and all blanks and line breaks after it. -/
def multilineBasic? (cs text : List Char) : Option (List Char × List Char) :=
  match cs with
  | [] => none
  | '"' :: '"' :: '"' :: rest => some (closeMultiline '"' rest text)
  | '\r' :: '\n' :: rest => multilineBasic? rest ('\n' :: text)
  | '\\' :: rest =>
    match lineBreak? (skipBlanks rest) with
    | some _ => multilineBasic? (skipBlankLines rest) text
    | none =>
      match _escaped : escape? rest with
      | none => none
      | some (c, more) => multilineBasic? more (c :: text)
  | c :: rest => if isPlain c || c == '\n' then multilineBasic? rest (c :: text) else none
termination_by cs.length
decreasing_by
  · exact Nat.lt_succ_of_lt (Nat.lt_succ_self _)
  · exact Nat.lt_succ_of_le (length_skipBlankLines_le rest)
  · exact Nat.lt_succ_of_lt (length_lt_of_escape? _escaped)
  · exact Nat.lt_succ_self _

/-- Reads a string between three single quotes. -/
def multilineLiteral? : List Char → List Char → Option (List Char × List Char)
  | [], _ => none
  | '\'' :: '\'' :: '\'' :: rest, text => some (closeMultiline '\'' rest text)
  | '\r' :: '\n' :: rest, text => multilineLiteral? rest ('\n' :: text)
  | c :: rest, text =>
    if isPlain c || c == '\n' then multilineLiteral? rest (c :: text) else none

/-- A string over several lines leaves out a line break right behind the opening quotes. -/
def skipFirstBreak (cs : List Char) : List Char := (lineBreak? cs).getD cs

/-- Reads a string of any kind, with its quotes. -/
def string? : List Char → Option (List Char × List Char)
  | '"' :: '"' :: '"' :: rest => multilineBasic? (skipFirstBreak rest) []
  | '\'' :: '\'' :: '\'' :: rest => multilineLiteral? (skipFirstBreak rest) []
  | '"' :: rest => basicString? rest []
  | '\'' :: rest => literalString? rest []
  | _ => none

end Coll.Toml

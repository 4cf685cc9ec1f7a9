import Coll.Text.Numeral
import Coll.Unicode.Property

/-!
Text in which characters are escaped. In one form every character can be seen: one that has no
visible form is written as `\0`, `\t`, `\r`, `\n` or as `\u` with its code point in braces, and a
backslash as two. In a JSON string the quote, the backslash and the control characters are escaped,
and all other characters stand for themselves.
-/

namespace Coll.Text

/-- Which characters with a visible form are escaped all the same. -/
structure EscapeRule where
  doubleQuote : Bool
  singleQuote : Bool
  /-- Characters that join the one before them. -/
  combining : Bool

namespace EscapeRule

/-- For a character that stands alone, and for the first one of a text. -/
def alone : EscapeRule := ⟨true, true, true⟩

/-- For a character inside a text, where a combining one has something to join. -/
def inside : EscapeRule := ⟨true, true, false⟩

/-- For a text that is shown between double quotes. -/
def quoted : EscapeRule := ⟨true, false, true⟩

end EscapeRule

/-- The code point of `c` in braces after `\u`, in hexadecimal. -/
def escapeCode (c : Char) : List Char :=
  ['\\', 'u', '\x7b'] ++ hexadecimal c.toNat ++ ['\x7d']

def escapeChar (rule : EscapeRule) (c : Char) : List Char :=
  if c = '\x00' then ['\\', '0']
  else if c = '\t' then ['\\', 't']
  else if c = '\r' then ['\\', 'r']
  else if c = '\n' then ['\\', 'n']
  else if c = '\\' then ['\\', '\\']
  else if c = '"' && rule.doubleQuote then ['\\', '"']
  else if c = '\'' && rule.singleQuote then ['\\', '\'']
  else if rule.combining && Unicode.isCombining c then escapeCode c
  else if Unicode.isPrintable c then [c]
  else escapeCode c

def escape : List Char → List Char
  | [] => []
  | first :: rest => escapeChar .alone first ++ rest.flatMap (escapeChar .inside)

def quote (text : List Char) : List Char :=
  '"' :: text.flatMap (escapeChar .quoted) ++ ['"']

namespace JsonString

def encodeChar (c : Char) : List Char :=
  if c = '"' then ['\\', '"']
  else if c = '\\' then ['\\', '\\']
  else if c = '\x08' then ['\\', 'b']
  else if c = '\t' then ['\\', 't']
  else if c = '\n' then ['\\', 'n']
  else if c = '\x0c' then ['\\', 'f']
  else if c = '\r' then ['\\', 'r']
  else if c.toNat < 0x20 then ['\\', 'u'] ++ padLeft 4 '0' (hexadecimal c.toNat)
  else [c]

/-- A text as a JSON string, with its quotes. -/
def encode (text : List Char) : List Char :=
  '"' :: text.flatMap encodeChar ++ ['"']

end JsonString

end Coll.Text

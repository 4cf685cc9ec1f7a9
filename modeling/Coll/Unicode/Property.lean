import Coll.Unicode.Alphabetic
import Coll.Unicode.GraphemeExtend
import Coll.Unicode.Numeric
import Coll.Unicode.Unprintable
import Coll.Unicode.Uppercase

/-!
The character properties that lexing and escaping ask for. Each one answers for ASCII by
comparison and for the rest by its table, so facts about ASCII need no table.
-/

namespace Coll.Unicode

/-- The characters below U+0080. -/
def isAscii (c : Char) : Bool := c.toNat < 0x80

/-- The property Alphabetic. -/
def isAlphabetic (c : Char) : Bool :=
  if isAscii c then c.isAlpha else alphabeticRanges.contains c

/-- The categories Nd, Nl and No: digits, letter numerals such as `Ⅷ`, and other numerals such
as `½`. -/
def isNumeric (c : Char) : Bool :=
  if isAscii c then c.isDigit else numericRanges.contains c

/-- The property White_Space. -/
def isWhiteSpace (c : Char) : Bool :=
  (0x09 ≤ c.toNat && c.toNat ≤ 0x0D) || (0x2000 ≤ c.toNat && c.toNat ≤ 0x200A) ||
    [0x20, 0x85, 0xA0, 0x1680, 0x2028, 0x2029, 0x202F, 0x205F, 0x3000].contains c.toNat

/-- The property Uppercase. -/
def isUppercase (c : Char) : Bool :=
  if isAscii c then c.isUpper else uppercaseRanges.contains c

/-- The property Grapheme_Extend: the character joins the one before it. -/
def extendsGrapheme (c : Char) : Bool :=
  if isAscii c then false else graphemeExtendRanges.contains c

/-- The voicing marks of half-width kana. They extend a grapheme, but stand in a cell of their
own. -/
def isHalfwidthMark (c : Char) : Bool := c == '\uFF9E' || c == '\uFF9F'

/-- Characters that are drawn onto the one before them. -/
def isCombining (c : Char) : Bool := extendsGrapheme c && !isHalfwidthMark c

/-- Characters that a reader can see, and the space. -/
def isPrintable (c : Char) : Bool :=
  if isAscii c then 0x20 ≤ c.toNat && c.toNat != 0x7F else !unprintableRanges.contains c

end Coll.Unicode

/-!
Numerals as lists of digits, and padding to a width.
-/

namespace Coll.Text

def decimal (n : Nat) : List Char := Nat.toDigits 10 n

/-- The hexadecimal numeral of `n`, with lower-case letters and without leading zeros. -/
def hexadecimal (n : Nat) : List Char := Nat.toDigits 16 n

/-- The number below 2^64 that a run of digits stands for, leading zeros and a plus sign in front
allowed. -/
def readDecimal? (text : List Char) : Option Nat :=
  let digits :=
    match text with
    | '+' :: rest => rest
    | cs => cs
  if digits.isEmpty || !digits.all Char.isDigit then none
  else
    let n := digits.foldl (fun n d => 10 * n + (d.toNat - '0'.toNat)) 0
    if n ≤ 0xFFFFFFFFFFFFFFFF then some n else none

/-- `text` with `fill` written in front until it is at least `width` characters long. -/
def padLeft (width : Nat) (fill : Char) (text : List Char) : List Char :=
  List.replicate (width - text.length) fill ++ text

end Coll.Text

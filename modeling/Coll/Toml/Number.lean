import Coll.Toml.Quoted

/-!
Numbers. Integers have 64 bits and a sign; of floats it is only decided whether they are written
correctly and do not exceed the range of double precision.
-/

namespace Coll.Toml

/-- Digits of one radix, without the underscores that may stand between any two of them. -/
def digits? (digit? : Char → Option Nat) : List Char → Option (List Nat)
  | [] => none
  | [c] => do return [← digit? c]
  | c :: '_' :: rest => do return (← digit? c) :: (← digits? digit? rest)
  | c :: rest => do return (← digit? c) :: (← digits? digit? rest)

/-- The value of a digit below `radix`. -/
def digitBelow? (radix : Nat) (c : Char) : Option Nat := (hexDigit? c).filter (· < radix)

/-- Decimal digits that do not begin with a zero, or a zero alone. -/
def wholeDigits? (cs : List Char) : Option (List Nat) :=
  match digits? (digitBelow? 10) cs with
  | some (0 :: _ :: _) => none
  | digits => digits

/-- The sign that a number begins with, as whether it is negative, and the rest. -/
def splitSign : List Char → Bool × List Char
  | '+' :: rest => (false, rest)
  | '-' :: rest => (true, rest)
  | cs => (false, cs)

/-- The integers that can be held. -/
def fits (n : Int) : Bool := -0x8000000000000000 ≤ n && n < 0x8000000000000000

/-- An integer: decimal with or without a sign, or hexadecimal, octal or binary without one. -/
def integer? (cs : List Char) : Option Int :=
  let value : Option Int :=
    match cs with
    | '0' :: 'x' :: rest => (digits? (digitBelow? 16) rest).map fun ds => ofDigits 16 ds
    | '0' :: 'o' :: rest => (digits? (digitBelow? 8) rest).map fun ds => ofDigits 8 ds
    | '0' :: 'b' :: rest => (digits? (digitBelow? 2) rest).map fun ds => ofDigits 2 ds
    | _ =>
      let (negative, rest) := splitSign cs
      (wholeDigits? rest).map fun ds =>
        if negative then -(ofDigits 10 ds : Int) else ofDigits 10 ds
  value.filter fits

/-- Whether the number with the given decimal digits, times ten to the power `exponent`, rounds to
a double. From half a step above the greatest double on, it does not. -/
def isFinite (digits : List Nat) (exponent : Int) : Bool :=
  let significant := digits.dropWhile (· == 0)
  let magnitude := significant.length + exponent
  if significant.isEmpty || magnitude < 309 then true
  else if 309 < magnitude then false
  else
    let value := ofDigits 10 significant
    let limit := Nat.pow 2 1024 - Nat.pow 2 970
    if 0 ≤ exponent then value * Nat.pow 10 exponent.toNat < limit
    else value < limit * Nat.pow 10 (-exponent).toNat

/-- The exponent of a float, 0 if there is none. -/
def exponent? : List Char → Option Int
  | [] => some 0
  | e :: rest => do
    guard (e == 'e' || e == 'E')
    let (negative, rest) := splitSign rest
    let value := ofDigits 10 (← digits? (digitBelow? 10) rest)
    return if negative then -(value : Int) else value

/-- Whether `cs` is a float: with a fraction, an exponent or both, infinite, or not a number. Only
an unsigned or positive float is held to the range. -/
def isFloat (cs : List Char) : Bool :=
  let (negative, body) := splitSign cs
  let isExponent := fun c => c == 'e' || c == 'E'
  if body == ['i', 'n', 'f'] || body == ['n', 'a', 'n'] then true
  else
    let (whole, rest) := body.span fun c => !(c == '.' || isExponent c)
    let parts : Option (List Nat × List Nat × Int) :=
      match rest with
      | [] => none
      | '.' :: rest => do
        let (fraction, rest) := rest.span fun c => !isExponent c
        return (← wholeDigits? whole, ← digits? (digitBelow? 10) fraction, ← exponent? rest)
      | rest => do return (← wholeDigits? whole, [], ← exponent? rest)
    match parts with
    | none => false
    | some (whole, fraction, exponent) =>
      negative || isFinite (whole ++ fraction) (exponent - fraction.length)

end Coll.Toml

import Coll.Toml.Number

/-!
Dates and times. Each function takes what it reads off the front of the rest.
-/

namespace Coll.Toml

/-- A number of exactly `count` decimal digits. -/
def fixedDigits? (count : Nat) (cs : List Char) : Option (Nat × List Char) := do
  let digits ← (cs.take count).mapM (digitBelow? 10)
  guard (digits.length = count)
  return (ofDigits 10 digits, cs.drop count)

/-- A number of two digits that is at most `greatest`. -/
def twoDigits? (greatest : Nat) (cs : List Char) : Option (Nat × List Char) := do
  let (n, rest) ← fixedDigits? 2 cs
  guard (n ≤ greatest)
  return (n, rest)

/-- Takes the character `c`. -/
def expect? (c : Char) : List Char → Option (List Char)
  | [] => none
  | d :: rest => if d == c then some rest else none

/-- The number of days of a month, with February longer in leap years. -/
def daysIn (year month : Nat) : Nat :=
  if month = 2 then
    if year % 4 = 0 ∧ (year % 100 ≠ 0 ∨ year % 400 = 0) then 29 else 28
  else if month = 4 ∨ month = 6 ∨ month = 9 ∨ month = 11 then 30
  else 31

/-- Takes a date: year, month and day. -/
def date? (cs : List Char) : Option (List Char) := do
  let (year, rest) ← fixedDigits? 4 cs
  let (month, rest) ← twoDigits? 12 (← expect? '-' rest)
  guard (1 ≤ month)
  let (day, rest) ← twoDigits? (daysIn year month) (← expect? '-' rest)
  guard (1 ≤ day)
  return rest

/-- Takes a time: hour, minute and second, and a fraction of the second if there is one. A second
60 is admitted for leap seconds. -/
def time? (cs : List Char) : Option (List Char) := do
  let (_, rest) ← twoDigits? 23 cs
  let (_, rest) ← twoDigits? 59 (← expect? ':' rest)
  let (_, rest) ← twoDigits? 60 (← expect? ':' rest)
  match rest with
  | '.' :: rest =>
    guard (rest.head?.any Char.isDigit)
    return rest.dropWhile Char.isDigit
  | rest => return rest

/-- Takes the difference to universal time. -/
def offset? : List Char → Option (List Char)
  | [] => none
  | sign :: rest =>
    if sign == 'Z' || sign == 'z' then some rest
    else do
      guard (sign == '+' || sign == '-')
      let (_, rest) ← twoDigits? 23 rest
      let (_, rest) ← twoDigits? 59 (← expect? ':' rest)
      return rest

/-- Whether `cs` is a date, a time of day, or both with or without an offset. -/
def isMoment (cs : List Char) : Bool :=
  match date? cs with
  | none => time? cs == some []
  | some [] => true
  | some (delimiter :: rest) =>
    (delimiter == 'T' || delimiter == 't' || delimiter == ' ') &&
      match time? rest with
      | none => false
      | some [] => true
      | some rest => offset? rest == some []

end Coll.Toml

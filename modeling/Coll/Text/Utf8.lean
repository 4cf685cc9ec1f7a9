/-!
UTF-8, one sequence at a time and a whole buffer at once.
-/

namespace Coll.Text.Utf8

/-- How many bytes the sequence that begins with `lead` has. The bytes `80` to `C1` and `F5` to
`FF` begin no sequence. -/
def width? (lead : UInt8) : Option Nat :=
  if lead ≤ 0x7F then some 1
  else if 0xC2 ≤ lead ∧ lead ≤ 0xDF then some 2
  else if 0xE0 ≤ lead ∧ lead ≤ 0xEF then some 3
  else if 0xF0 ≤ lead ∧ lead ≤ 0xF4 then some 4
  else none

/-- The character that `bytes` begins with, if they begin with a well-formed sequence: none that
is longer than needed, none for a surrogate and none above `10FFFF`. -/
def first? (bytes : List UInt8) : Option Char :=
  ByteArray.utf8DecodeChar? ⟨bytes.toArray⟩ 0

structure Beginning where
  text : String
  /-- How many bytes of the buffer `text` is. -/
  size : Nat

/-- Reads on at byte `i`, after the characters of `text`, up to the first byte that no
well-formed sequence begins at. -/
def decodeFrom (bytes : ByteArray) (i : Nat) (text : String) : Beginning :=
  match _found : bytes.utf8DecodeChar? i with
  | none => ⟨text, i⟩
  | some c => decodeFrom bytes (i + c.utf8Size) (text.push c)
termination_by bytes.size - i
decreasing_by
  have := ByteArray.le_size_of_utf8DecodeChar?_eq_some _found
  have := c.utf8Size_pos
  omega

/-- The longest well-formed beginning of `bytes`. -/
def decode (bytes : ByteArray) : Beginning := decodeFrom bytes 0 ""

end Coll.Text.Utf8

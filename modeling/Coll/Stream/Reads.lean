/-!
Bytes that arrive through reads. Each read delivers some bytes, nothing, or a failure, and bytes
are taken from the deliveries one at a time.
-/

namespace Coll

inductive Read where
  /-- Some bytes. A read that delivers none is the end of the input. -/
  | data (bytes : List UInt8)
  /-- The read was cut short and is to be tried again. -/
  | interrupted
  /-- The read failed, for the reason that `message` gives. -/
  | failure (message : String)
  deriving DecidableEq, Repr

/-- The reads still to come. After the last one every read delivers nothing. -/
abbrev Reads := List Read

inductive ByteAnswer where
  | byte (value : UInt8)
  | ended
  | failed (message : String)
  deriving DecidableEq, Repr

namespace Reads

/-- Takes one byte, and reads again as long as reads are interrupted. -/
def nextByte : Reads → ByteAnswer × Reads
  | [] => (.ended, [])
  | .data [] :: rest => (.ended, rest)
  | .data [b] :: rest => (.byte b, rest)
  | .data (b :: next :: more) :: rest => (.byte b, .data (next :: more) :: rest)
  | .interrupted :: rest => nextByte rest
  | .failure message :: rest => (.failed message, rest)

/-- The bytes that arrive before the end of the input or the first failure. -/
def delivered : Reads → List UInt8
  | [] => []
  | .data [] :: _ => []
  | .data (b :: more) :: rest => b :: more ++ delivered rest
  | .interrupted :: rest => delivered rest
  | .failure _ :: _ => []

/-- However the bytes were cut into reads, they are taken in the order in which they arrive. -/
theorem delivered_eq_cons {reads rest : Reads} {b : UInt8}
    (taken : reads.nextByte = (.byte b, rest)) : reads.delivered = b :: rest.delivered := by
  fun_induction nextByte reads with
  | case1 | case2 | case6 => cases taken
  | case3 | case4 =>
    cases taken
    rfl
  | case5 _ ih => exact ih taken

theorem delivered_eq_nil {reads : Reads} (none : ∀ b, reads.nextByte.1 ≠ .byte b) :
    reads.delivered = [] := by
  fun_induction nextByte reads with
  | case1 | case2 | case6 => rfl
  | case3 b | case4 b => exact absurd rfl (none b)
  | case5 _ ih => exact ih none

/-- Reads and their bytes, counted together: a bound on the bytes that can be taken. -/
def size : Reads → Nat
  | [] => 0
  | .data bytes :: rest => bytes.length + 1 + size rest
  | .interrupted :: rest => 1 + size rest
  | .failure _ :: rest => 1 + size rest

theorem size_nextByte_le (reads : Reads) : reads.nextByte.2.size ≤ reads.size := by
  fun_induction nextByte reads with
  | case1 => exact Nat.le_refl _
  | case2 | case3 | case6 =>
    simp only [size]
    omega
  | case4 =>
    simp only [size, List.length_cons]
    omega
  | case5 _ ih =>
    rw [size]
    omega

theorem size_lt_of_nextByte {reads rest : Reads} {b : UInt8}
    (taken : reads.nextByte = (.byte b, rest)) : rest.size < reads.size := by
  fun_induction nextByte reads with
  | case1 | case2 | case6 => cases taken
  | case3 | case4 =>
    cases taken
    simp only [size, List.length_cons]
    omega
  | case5 _ ih =>
    have := ih taken
    rw [size]
    omega

end Reads

end Coll

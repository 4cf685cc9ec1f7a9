import Coll.Stream.Basic
import Coll.Stream.Reads
import Coll.Text.Numeral
import Coll.Text.Utf8

/-!
The characters of a byte stream, decoded from UTF-8 while it is read. A failed read or a
malformed sequence ends the characters like the end of the bytes does, and for good: what more the
reads hold is never looked at.
-/

namespace Coll

/-- Why a stream of characters ended before its bytes did. -/
inductive DecodingFailure where
  /-- No well-formed sequence begins with `lead` and the bytes after it. -/
  | malformed (lead : UInt8)
  /-- The bytes ended inside a sequence. -/
  | truncated
  | unreadable (message : String)
  deriving DecidableEq, Repr

/-- The failure in words. -/
def DecodingFailure.message : DecodingFailure → String
  | malformed lead =>
    "invalid UTF-8 sequence starting with byte 0x" ++ String.ofList
      ((Text.padLeft 2 '0' (Text.hexadecimal lead.toNat)).map Char.toUpper)
  | truncated => "truncated UTF-8 sequence"
  | unreadable message => message

/-- How a stream of characters ended. -/
inductive Ending where
  | complete
  | broken (failure : DecodingFailure)
  deriving DecidableEq, Repr

/-- What comes of asking for one character. -/
inductive CharAnswer where
  | char (value : Char)
  | over (ending : Ending)
  deriving DecidableEq, Repr

namespace Reads

/-- Takes `count` bytes of a sequence that has begun. -/
def nextBytes : Nat → Reads → Except DecodingFailure (List UInt8) × Reads
  | 0, reads => (.ok [], reads)
  | count + 1, reads =>
    match reads.nextByte with
    | (.ended, rest) => (.error .truncated, rest)
    | (.failed message, rest) => (.error (.unreadable message), rest)
    | (.byte b, rest) =>
      match nextBytes count rest with
      | (.ok bytes, rest) => (.ok (b :: bytes), rest)
      | (.error failure, rest) => (.error failure, rest)

/-- Takes one character. All bytes of its sequence are taken before any but the first is judged,
so a sequence that is both malformed and cut off counts as cut off. -/
def nextChar (reads : Reads) : CharAnswer × Reads :=
  match reads.nextByte with
  | (.ended, rest) => (.over .complete, rest)
  | (.failed message, rest) => (.over (.broken (.unreadable message)), rest)
  | (.byte lead, rest) =>
    match Text.Utf8.width? lead with
    | none => (.over (.broken (.malformed lead)), rest)
    | some width =>
      match nextBytes (width - 1) rest with
      | (.error failure, rest) => (.over (.broken failure), rest)
      | (.ok more, rest) =>
        match Text.Utf8.first? (lead :: more) with
        | some c => (.char c, rest)
        | none => (.over (.broken (.malformed lead)), rest)

theorem size_nextBytes_le (count : Nat) (reads : Reads) :
    (nextBytes count reads).2.size ≤ reads.size := by
  fun_induction nextBytes count reads with
  | case1 => exact Nat.le_refl _
  | case2 _ reads rest taken => simpa [taken] using size_nextByte_le reads
  | case3 _ reads _ rest taken => simpa [taken] using size_nextByte_le reads
  | case4 _ reads _ rest taken _ _ more ih | case5 _ reads _ rest taken _ _ more ih =>
    have := size_lt_of_nextByte taken
    simp only [more] at ih ⊢
    omega

theorem size_lt_of_nextChar {reads rest : Reads} {c : Char}
    (taken : reads.nextChar = (.char c, rest)) : rest.size < reads.size := by
  unfold nextChar at taken
  split at taken
  · simp at taken
  · simp at taken
  · next lead afterLead first =>
    have := size_lt_of_nextByte first
    split at taken
    · simp at taken
    · next width _ =>
      have := size_nextBytes_le (width - 1) afterLead
      split at taken
      · simp at taken
      · next more afterMore following =>
        simp only [following] at this
        split at taken <;> simp at taken
        obtain ⟨-, rfl⟩ := taken
        omega

end Reads

/-- A stream of characters behind the reads that its bytes come from. Once it has ended it keeps
how, and draws no further byte. -/
structure Decoding where
  reads : Reads
  ending : Option Ending := none
  deriving DecidableEq, Repr

namespace Decoding

/-- The next character, unless the stream has ended or ends now. -/
def next (s : Decoding) : Option Char × Decoding :=
  match s.ending with
  | some _ => (none, s)
  | none =>
    match s.reads.nextChar with
    | (.char c, rest) => (some c, { reads := rest })
    | (.over ending, rest) => (none, { reads := rest, ending })

/-- What broke the stream off, if something did. -/
def failure? (s : Decoding) : Option DecodingFailure :=
  match s.ending with
  | some (.broken failure) => some failure
  | _ => none

instance : FiniteStream Decoding where
  next := next
  bound s := s.reads.size
  bound_lt {s s' c} drawn := by
    unfold next at drawn
    split at drawn
    · simp at drawn
    · split at drawn
      · next rest taken =>
        simp at drawn
        obtain ⟨rfl, rfl⟩ := drawn
        exact Reads.size_lt_of_nextChar taken
      · simp at drawn

end Decoding

end Coll

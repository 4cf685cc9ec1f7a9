import Coll.Proofs.Text.Utf8
import Coll.Stream.Decoding

/-!
What a decoded stream hands out depends only on the bytes that its reads deliver. It is the longest
text that these bytes begin with, which is also what decoding them as one buffer gives.
-/

namespace Coll

open Text.Utf8 (LongestText first? first?_eq_some_iff width?_of_first?)

namespace Read

/-- Whether a byte stream goes on behind this read: it brought bytes, or is to be tried again. -/
def goesOn : Read → Bool
  | data bytes => !bytes.isEmpty
  | interrupted => true
  | failure _ => false

/-- The bytes that a read brought. -/
def bytes : Read → List UInt8
  | data bytes => bytes
  | _ => []

end Read

namespace Reads

/-- What is delivered are the bytes of all reads before the first one that brought none or failed,
one after the other. -/
theorem delivered_eq_flatMap (reads : Reads) :
    reads.delivered = (reads.takeWhile Read.goesOn).flatMap Read.bytes := by
  fun_induction delivered reads with
  | case1 | case2 | case5 => rfl
  | case3 b more rest ih =>
      rw [ih, List.takeWhile_cons_of_pos rfl, List.flatMap_cons]
      rfl
  | case4 rest ih =>
      rw [ih, List.takeWhile_cons_of_pos rfl, List.flatMap_cons]
      rfl

theorem delivered_data (bytes : List UInt8) : delivered [.data bytes] = bytes := by
  cases bytes with
  | nil => rfl
  | cons b more => exact List.append_nil (b :: more)

theorem delivered_of_nextBytes {count : Nat} {reads rest : Reads} {bytes : List UInt8}
    (taken : nextBytes count reads = (.ok bytes, rest)) :
    bytes.length = count ∧ reads.delivered = bytes ++ rest.delivered := by
  fun_induction nextBytes count reads generalizing bytes rest with
  | case1 reads =>
      cases taken
      exact ⟨rfl, rfl⟩
  | case2 | case3 | case5 => cases taken
  | case4 count reads b afterByte hByte more afterMore hMore ih =>
      cases taken
      obtain ⟨hLength, hDelivered⟩ := ih hMore
      refine ⟨congrArg (· + 1) hLength, ?_⟩
      rw [delivered_eq_cons hByte, hDelivered]
      rfl

theorem length_delivered_lt {count : Nat} {reads rest : Reads} {failure : DecodingFailure}
    (taken : nextBytes count reads = (.error failure, rest)) : reads.delivered.length < count := by
  fun_induction nextBytes count reads generalizing failure rest with
  | case1 => cases taken
  | case2 count reads afterByte hByte | case3 count reads message afterByte hByte =>
      have hNil : reads.delivered = [] := delivered_eq_nil (by simp [hByte])
      rw [hNil]
      exact Nat.succ_pos count
  | case4 => cases taken
  | case5 count reads b afterByte hByte cause afterMore hMore ih =>
      rw [delivered_eq_cons hByte]
      exact Nat.succ_lt_succ (ih hMore)

/-- Either the delivered bytes begin with the character that is taken, or they begin with none. -/
theorem nextChar_cases (reads : Reads) :
    (∃ c rest, reads.nextChar = (.char c, rest) ∧
      reads.delivered = String.utf8EncodeChar c ++ rest.delivered) ∨
    ∃ ending rest, reads.nextChar = (.over ending, rest) ∧ first? reads.delivered = none := by
  fun_cases nextChar reads with
  | case1 rest hByte | case2 _ rest hByte =>
      refine .inr ⟨_, _, rfl, ?_⟩
      have hNil : reads.delivered = [] := delivered_eq_nil (by simp [hByte])
      rw [hNil]
      rfl
  | case3 lead rest hByte hWidth =>
      refine .inr ⟨_, _, rfl, Option.eq_none_iff_forall_ne_some.2 fun c hFirst => ?_⟩
      rw [delivered_eq_cons hByte] at hFirst
      cases hWidth.symm.trans (width?_of_first? hFirst)
  | case4 lead afterLead hByte width hWidth failure rest hMore =>
      refine .inr ⟨_, _, rfl, Option.eq_none_iff_forall_ne_some.2 fun c hFirst => ?_⟩
      have hShort := length_delivered_lt hMore
      have hLong := (first?_eq_some_iff.1 hFirst).length_le
      rw [delivered_eq_cons hByte] at hFirst hLong
      have hSize := Option.some.inj (hWidth.symm.trans (width?_of_first? hFirst))
      rw [String.length_utf8EncodeChar, List.length_cons] at hLong
      omega
  | case5 lead afterLead hByte width hWidth more rest hMore c hFirst =>
      refine .inl ⟨_, _, rfl, ?_⟩
      obtain ⟨hLength, hDelivered⟩ := delivered_of_nextBytes hMore
      have hSize := Option.some.inj (hWidth.symm.trans (width?_of_first? hFirst))
      have hEncoded : String.utf8EncodeChar c = lead :: more := by
        refine (first?_eq_some_iff.1 hFirst).eq_of_length ?_
        have hPos := c.utf8Size_pos
        rw [String.length_utf8EncodeChar, List.length_cons]
        omega
      rw [delivered_eq_cons hByte, hDelivered, hEncoded]
      rfl
  | case6 lead afterLead hByte width hWidth more rest hMore hNone =>
      refine .inr ⟨_, _, rfl, Option.eq_none_iff_forall_ne_some.2 fun c hFirst => ?_⟩
      obtain ⟨hLength, hDelivered⟩ := delivered_of_nextBytes hMore
      rw [delivered_eq_cons hByte, hDelivered] at hFirst
      have hSize := Option.some.inj (hWidth.symm.trans (width?_of_first? hFirst))
      have hTaken : lead :: more <+: lead :: (more ++ rest.delivered) :=
        List.prefix_append (lead :: more) _
      have hFits : (String.utf8EncodeChar c).length ≤ (lead :: more).length := by
        rw [String.length_utf8EncodeChar, List.length_cons]
        omega
      have hWhole : String.utf8EncodeChar c <+: lead :: more :=
        List.prefix_of_prefix_length_le (first?_eq_some_iff.1 hFirst) hTaken hFits
      cases hNone.symm.trans (first?_eq_some_iff.2 hWhole)

end Reads

namespace CharStream

/-- What the first `count` characters asked for are, if a stream hands out `text`, and nothing from
then on. -/
def answers (text : List Char) (count : Nat) : List (Option Char) :=
  (List.range count).map (text[·]?)

theorem answers_succ (text : List Char) (count : Nat) :
    answers text (count + 1) = text.head? :: answers text.tail count := by
  rw [answers, List.range_succ_eq_map, List.map_cons, List.map_map, ← List.head?_eq_getElem?]
  congr 1
  apply List.map_congr_left
  intro i _
  exact List.getElem?_tail.symm

theorem draw_text (text : List Char) (count : Nat) : draw text count = answers text count := by
  induction count generalizing text with
  | zero => rfl
  | succ count ih =>
      have hNext : next text = (text.head?, text.tail) := by cases text <;> rfl
      rw [draw, hNext, ih, answers_succ]

end CharStream

namespace Decoding

/-- What a stream has still to hand out: the longest text of the bytes to come, and nothing once it
has ended. -/
inductive Left : Decoding → List Char → Prop where
  | running {reads : Reads} {text : List Char} (longest : LongestText text reads.delivered) :
      Left { reads } text
  | ended {reads : Reads} {ending : Ending} : Left { reads, ending } []

/-- One answer hands out the first character of what is left, if there is one. -/
theorem Left.next {s : Decoding} {text : List Char} (left : s.Left text) :
    s.next.1 = text.head? ∧ s.next.2.Left text.tail := by
  cases left with
  | ended => exact ⟨rfl, .ended⟩
  | @running reads _ longest =>
      rcases reads.nextChar_cases with ⟨c, rest, hTaken, hDelivered⟩ | ⟨ending, rest, hTaken, hNone⟩
      · have hRest := Text.Utf8.decode_longestText rest.delivered.toByteArray
        rw [List.toList_data_toByteArray] at hRest
        rw [hDelivered] at longest
        obtain rfl := longest.unique (hRest.cons c)
        simp only [Decoding.next, hTaken]
        exact ⟨rfl, .running hRest⟩
      · obtain rfl := longest.unique (.nil hNone)
        simp only [Decoding.next, hTaken]
        exact ⟨rfl, .ended⟩

theorem Left.draw_eq {s : Decoding} {text : List Char} (left : s.Left text) (count : Nat) :
    CharStream.draw s count = CharStream.answers text count := by
  induction count generalizing s text with
  | zero => rfl
  | succ count ih =>
      obtain ⟨hFirst, hRest⟩ := left.next
      rw [CharStream.answers_succ, ← hFirst, ← ih hRest]
      rfl

theorem Left.toList_eq {s : Decoding} {text : List Char} (left : s.Left text) :
    CharStream.toList s = text := by
  induction text generalizing s with
  | nil => exact CharStream.toList_eq_nil (Prod.ext left.next.1 rfl : s.next = (none, s.next.2))
  | cons c rest ih =>
      obtain ⟨hFirst, hRest⟩ := left.next
      rw [CharStream.toList_eq_cons (Prod.ext hFirst rfl : s.next = (some c, s.next.2)), ih hRest]

theorem left_ofReads (reads : Reads) :
    Left { reads } (Text.Utf8.decode reads.delivered.toByteArray).text.toList := by
  have hLongest := Text.Utf8.decode_longestText reads.delivered.toByteArray
  rw [List.toList_data_toByteArray] at hLongest
  exact .running hLongest

/-- Decoding while reading is decoding as a whole. A stream hands out the longest text that the
bytes begin with which arrive before the first read that fails or brings nothing, and then nothing
for ever: just like the decoded buffer held in memory, and as if the bytes had come in one read. -/
theorem draw_eq_draw_decode (reads : Reads) (count : Nat) :
    let bytes := (reads.takeWhile Read.goesOn).flatMap Read.bytes
    let text := (Text.Utf8.decode bytes.toByteArray).text.toList
    LongestText text bytes ∧
      CharStream.draw ({ reads } : Decoding) count = (List.range count).map (text[·]?) ∧
      CharStream.draw ({ reads } : Decoding) count = CharStream.draw text count ∧
      CharStream.draw ({ reads } : Decoding) count =
        CharStream.draw ({ reads := [.data bytes] } : Decoding) count := by
  intro bytes text
  have hLeft : Left { reads } text := by
    have h := left_ofReads reads
    rwa [reads.delivered_eq_flatMap] at h
  have hWhole : Left { reads := [.data bytes] } text := by
    have h := left_ofReads [.data bytes]
    rwa [Reads.delivered_data] at h
  have hDraw := hLeft.draw_eq count
  refine ⟨?_, hDraw, hDraw.trans (CharStream.draw_text text count).symm,
    hDraw.trans (hWhole.draw_eq count).symm⟩
  have hLongest := Text.Utf8.decode_longestText bytes.toByteArray
  rwa [List.toList_data_toByteArray] at hLongest

/-- A character that arrives in two reads, then a byte that begins none. -/
example : CharStream.draw ({ reads := [.data [0xC3], .interrupted, .data [0xA9, 0xFF], .data [0x41]]
    } : Decoding) 3 = [some 'é', none, none] := by
  decide +kernel

end Decoding

end Coll

import Coll.Proofs.Lexeme.Boundary
import Coll.Proofs.Stream.Decoding
import Coll.Proofs.Tokenization

/-!
Two texts that begin alike have the same tokens as far as these end before the common beginning
does. So a stream that breaks off loses no token but the one that touches the break and those behind
it, whether a read failed or the bytes stopped being text.
-/

namespace Coll

open Lexeme (Longest Separated Trivia)

namespace Piece.Leads

variable {piece : Piece} {left : List Char}

/-- The gap before a piece ends where its lexeme begins, whatever stands behind the lexeme. -/
theorem longest_gap (leads : piece.Leads left) (left' : List Char) :
    Longest Trivia piece.gap (piece.lexeme ++ left') := by
  have hHead : (piece.lexeme ++ left').head? = (piece.lexeme ++ left).head? := by
    obtain ⟨c, more, hMore⟩ := List.exists_cons_of_ne_nil leads.nonempty
    rw [hMore]
    rfl
  exact leads.gap.trivia_of_head? hHead

/-- A piece leads whatever goes on with the same character as what it leads. -/
theorem of_head? {left' : List Char} (leads : piece.Leads left)
    (hHead : left'.head? = left.head?) : piece.Leads left' := by
  obtain ⟨form, longest⟩ := leads.form.longest_of_head? leads.lexeme hHead
  exact ⟨leads.longest_gap left', leads.nonempty, longest, form⟩

/-- A piece that is closed leads whatever trivia begins. -/
theorem of_separated {left' : List Char} (leads : piece.Leads left)
    (hClosed : piece.outcome ≠ .malformed .unterminated) (hLeft : Separated left') :
    piece.Leads left' := by
  have form := leads.form.of_closed hClosed left'
  exact ⟨leads.longest_gap left', leads.nonempty, form.longest_of_separated hLeft, form⟩

end Piece.Leads

/-- No token of the list is the end token, and the lexemes of all of them end before `limit`. -/
def EndBefore (limit : Nat) (tokens : List Scanned) : Prop :=
  ∀ scanned ∈ tokens, ¬ scanned.token.isEnd ∧ scanned.span.stop < limit

instance (limit : Nat) (tokens : List Scanned) : Decidable (EndBefore limit tokens) :=
  inferInstanceAs (Decidable (∀ scanned ∈ tokens, _))

theorem Piece.stop_scanned (piece : Piece) (document : DocumentId) (p : Text.Position) :
    (piece.scanned document p).span.stop = p.offset + piece.stretch.length := by
  simp only [scanned, stretch, Text.Position.offset_after, List.length_append, Nat.add_assoc]

/-- The first tokens of two texts are the same, if they end before the common beginning does. -/
theorem Cut.take_scannedFrom_eq {before ahead ahead' last last' : List Char}
    {pieces pieces' : List Piece} (cut : Cut (before ++ ahead) pieces last)
    (cut' : Cut (before ++ ahead') pieces' last') (document : DocumentId) (p : Text.Position)
    (count : Nat) (hBefore : EndBefore (p.offset + before.length)
      ((scannedFrom document p pieces last).take count)) :
    (scannedFrom document p pieces' last').take count =
      (scannedFrom document p pieces last).take count := by
  generalize hText : before ++ ahead = text at cut
  induction cut generalizing before p count pieces' with
  | @last gap =>
      cases count with
      | zero => rfl
      | succ count => exact absurd rfl (hBefore _ List.mem_cons_self).1
  | @piece piece left last pieces leads more ih =>
      cases count with
      | zero => rfl
      | succ count =>
          have hStop := (hBefore _ List.mem_cons_self).2
          rw [piece.stop_scanned] at hStop
          obtain ⟨rest, rfl, rfl⟩ :
              ∃ rest, before = piece.stretch ++ rest ∧ left = rest ++ ahead := by
            rcases List.append_eq_append_iff.1 hText with ⟨rest, hStretch, -⟩ | ⟨rest, h⟩
            · rw [hStretch, List.length_append] at hStop
              omega
            · exact ⟨rest, h⟩
          rw [List.length_append] at hStop
          obtain ⟨c, rest, rfl⟩ := List.exists_cons_of_length_pos (by omega : 0 < rest.length)
          have leads' : piece.Leads (c :: rest ++ ahead') := leads.of_head? rfl
          obtain ⟨pieces'', last'', more'⟩ := exists_cut (c :: rest ++ ahead')
          rw [List.append_assoc] at cut'
          obtain ⟨rfl, rfl⟩ := cut'.unique (.piece leads' more')
          have hMore := ih more' (p.after piece.stretch) count (fun scanned hScanned => ?_) rfl
          · rw [scannedFrom, scannedFrom, List.take_succ_cons, List.take_succ_cons, hMore]
          · rw [Text.Position.offset_after, Nat.add_assoc, ← List.length_append]
            exact hBefore scanned (List.mem_cons_of_mem _ hScanned)

/-- The same for streams, whatever they are made of. -/
theorem Lexer.take_drain_eq {σ τ : Type} [FiniteStream σ] [FiniteStream τ] {s : σ} {t : τ}
    {text : List Char} (hs : text <+: CharStream.toList s) (ht : text <+: CharStream.toList t)
    (document : DocumentId) (count : Nat)
    (hBefore : EndBefore text.length ((ofStream s document).drain.1.toList.take count)) :
    (ofStream t document).drain.1.toList.take count =
      (ofStream s document).drain.1.toList.take count := by
  obtain ⟨ahead, hAhead⟩ := hs
  obtain ⟨ahead', hAhead'⟩ := ht
  obtain ⟨pieces, last, cut⟩ := exists_cut (CharStream.toList s)
  obtain ⟨pieces', last', cut'⟩ := exists_cut (CharStream.toList t)
  rw [cut.toList_drain_ofStream document] at hBefore ⊢
  rw [cut'.toList_drain_ofStream document]
  rw [← hAhead] at cut
  rw [← hAhead'] at cut'
  refine cut.take_scannedFrom_eq cut' document .start count ?_
  rwa [show Text.Position.start.offset = 0 from rfl, Nat.zero_add]

/-- What is decoded from the first bytes that arrive is what the whole stream begins with. -/
theorem Decoding.decode_prefix_toList {reads : Reads} {bytes : List UInt8}
    (hBytes : bytes <+: reads.delivered) :
    (Text.Utf8.decode bytes.toByteArray).text.toList <+:
      CharStream.toList ({ reads } : Decoding) := by
  have longest := Text.Utf8.decode_longestText bytes.toByteArray
  have longest' := Text.Utf8.decode_longestText reads.delivered.toByteArray
  rw [List.toList_data_toByteArray] at longest longest'
  rw [(left_ofReads reads).toList_eq]
  exact longest'.le _ (longest.isPrefix.trans hBytes)

/-- One character behind a lexeme settles its token. The tokens that end before a place in a text,
together with their spans and what is reported of them, stay the same whatever stands behind that
place. So two streams that deliver the same bytes first have the same tokens as long as these end
before the text of those bytes does, however each stream goes on or breaks off. -/
theorem tokens_before_cut (document : DocumentId) (count : Nat) :
    (∀ before ahead other : List Char,
      EndBefore before.length ((tokenize (before ++ ahead) document).toList.take count) →
      (tokenize (before ++ other) document).toList.take count =
        (tokenize (before ++ ahead) document).toList.take count) ∧
    ∀ (whole broken : Reads) (bytes : List UInt8),
      bytes <+: whole.delivered → bytes <+: broken.delivered →
      EndBefore (Text.Utf8.decode bytes.toByteArray).text.toList.length
        ((Lexer.ofStream ({ reads := whole } : Decoding) document).drain.1.toList.take count) →
      (Lexer.ofStream ({ reads := broken } : Decoding) document).drain.1.toList.take count =
        (Lexer.ofStream ({ reads := whole } : Decoding) document).drain.1.toList.take count := by
  constructor
  · intro before ahead other hBefore
    have hPrefix (rest : List Char) : before <+: CharStream.toList (before ++ rest) := by
      rw [CharStream.toList_list]
      exact List.prefix_append before rest
    exact Lexer.take_drain_eq (hPrefix ahead) (hPrefix other) document count hBefore
  · intro whole broken bytes hWhole hBroken hBefore
    exact Lexer.take_drain_eq (Decoding.decode_prefix_toList hWhole)
      (Decoding.decode_prefix_toList hBroken) document count hBefore

/-- A name and a broken sign before a point that a digit or a quote follows, or behind which a read
fails: the point is cut into, the name and the sign are not. -/
theorem tokens_before_cut_point :
    EndBefore 6 ((tokenize "x =/ .5".toList).toList.take 2) ∧
    (tokenize "x =/ .\"z".toList).toList.take 2 = (tokenize "x =/ .5".toList).toList.take 2 ∧
    (Lexer.ofStream ({ reads := [.data [0x78, 0x20, 0x3D], .interrupted, .data [0x2F, 0x20, 0x2E],
        .failure "gone"] } : Decoding)).drain.1.toList.take 2 =
      (Lexer.ofStream ({ reads := [.data [0x78, 0x20, 0x3D, 0x2F, 0x20, 0x2E, 0x35]] } :
        Decoding)).drain.1.toList.take 2 := by
  have hText : EndBefore 6 ((tokenize "x =/ .5".toList).toList.take 2) := by decide +kernel
  have hReads : EndBefore
      (Text.Utf8.decode [0x78, 0x20, 0x3D, 0x2F, 0x20, 0x2E].toByteArray).text.toList.length
      ((Lexer.ofStream ({ reads := [.data [0x78, 0x20, 0x3D, 0x2F, 0x20, 0x2E, 0x35]] } :
        Decoding)).drain.1.toList.take 2) := by decide +kernel
  obtain ⟨hTexts, hStreams⟩ := tokens_before_cut 0 2
  exact ⟨hText, hTexts "x =/ .".toList ['5'] ['"', 'z'] hText,
    hStreams _ _ _ (by decide) (by decide) hReads⟩

end Coll

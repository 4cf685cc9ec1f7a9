import Coll.Proofs.Tokenization

/-!
Scanners at any place. A scanner does not look whether the lexeme that it is for begins under the
cursor, and it may be run at the end of the input. It still moves forward only, and what it finds is
an error just when it has a fault to report.
-/

namespace Coll

namespace Cursor

variable {σ : Type} [FiniteStream σ]

/-- `later` is where `cursor` comes to by moving over some characters, or none. -/
def Reaches (cursor later : Cursor σ) : Prop := ∃ stretch, cursor.Moved stretch later

theorem Moved.reaches {cursor later : Cursor σ} {stretch : List Char}
    (moved : cursor.Moved stretch later) : cursor.Reaches later := ⟨stretch, moved⟩

theorem Reaches.trans {cursor middle later : Cursor σ} (left : cursor.Reaches middle)
    (right : middle.Reaches later) : cursor.Reaches later := by
  obtain ⟨first, hFirst⟩ := left
  obtain ⟨second, hSecond⟩ := right
  exact ⟨_, hFirst.trans hSecond⟩

/-- At the end of the input, advancing is no move. -/
theorem reaches_advance (cursor : Cursor σ) : cursor.Reaches cursor.advance := by
  cases hHere : cursor.current with
  | none =>
      have hSame : cursor.advance = cursor := by simp [advance, hHere]
      rw [hSame]
      exact (Moved.refl cursor).reaches
  | some c => exact (moved_advance hHere).reaches

theorem reaches_takeWhile (p : Char → Bool) (cursor : Cursor σ) :
    cursor.Reaches (cursor.takeWhile p).2 := (cursor.moved_takeWhile p).reaches

theorem reaches_accept (cursor : Cursor σ) (expected : Char) :
    cursor.Reaches (cursor.accept expected).2 := by
  unfold accept
  split
  · exact cursor.reaches_advance
  · exact (Moved.refl cursor).reaches

theorem Reaches.offset_le {cursor later : Cursor σ} (reaches : cursor.Reaches later) :
    cursor.position.offset ≤ later.position.offset := by
  obtain ⟨stretch, moved⟩ := reaches
  rw [moved.position_eq, Text.Position.offset_after]
  exact Nat.le_add_right _ _

end Cursor

namespace Lexeme

/-- The outcome is not the end of the input, and it is an error just when it has a fault. -/
def Outcome.Ordinary (outcome : Outcome) : Prop :=
  outcome.kind ≠ .endOfInput ∧ (outcome.kind = .error ↔ outcome.fault?.isSome)

instance (outcome : Outcome) : Decidable outcome.Ordinary :=
  inferInstanceAs (Decidable (_ ∧ _))

theorem Outcome.ordinary_malformed (fault : Fault) : (malformed fault).Ordinary :=
  ⟨nofun, iff_of_true rfl rfl⟩

theorem Closing.ordinary {content tail left : List Char} {outcome : Outcome}
    (closing : Closing content tail left outcome) : outcome.Ordinary := by
  cases closing with
  | quote => exact ⟨nofun, iff_of_false nofun nofun⟩
  | invalid => exact Outcome.ordinary_malformed _
  | textEnd => exact Outcome.ordinary_malformed _
  | endAfterBackslash => exact Outcome.ordinary_malformed _

variable {σ : Type} [FiniteStream σ]

/-- What holds of a scan wherever it begins: it moves forward, and its outcome is ordinary. -/
structure Sound (cursor : Cursor σ) (scan : Scan σ) : Prop where
  reaches : cursor.Reaches scan.2
  ordinary : scan.1.Ordinary

theorem sound_scanName (cursor : Cursor σ) : Sound cursor (scanName cursor) where
  reaches := cursor.reaches_takeWhile continuesName
  ordinary := by
    obtain ⟨hEnd, hError⟩ := wordKind_ordinary (cursor.takeWhile continuesName).1
    exact ⟨hEnd, iff_of_false hError nofun⟩

theorem sound_scanNumber (cursor : Cursor σ) : Sound cursor (scanNumber cursor) := by
  have hDigits := cursor.reaches_takeWhile Char.isDigit
  unfold scanNumber
  dsimp only
  split
  · refine ⟨hDigits.trans ?_, nofun, iff_of_false nofun nofun⟩
    exact (Cursor.reaches_advance _).trans (Cursor.reaches_takeWhile _ _)
  · exact ⟨hDigits, nofun, iff_of_false nofun nofun⟩

theorem sound_scanDotFloat (cursor : Cursor σ) : Sound cursor (scanDotFloat cursor) where
  reaches := cursor.reaches_advance.trans (Cursor.reaches_takeWhile _ _)
  ordinary := ⟨nofun, iff_of_false nofun nofun⟩

theorem sound_scanString (cursor : Cursor σ) : Sound cursor (scanString cursor) := by
  obtain ⟨_, _, _, -, hMoved, closing⟩ := scanContent_closing cursor.advance []
  exact ⟨cursor.reaches_advance.trans hMoved.reaches, closing.ordinary⟩

theorem sound_scanPair {second : Char} {joined single : Outcome} (hJoined : joined.Ordinary)
    (hSingle : single.Ordinary) (cursor : Cursor σ) :
    Sound cursor (scanPair second joined single cursor) where
  reaches := cursor.reaches_advance.trans (cursor.advance.reaches_accept second)
  ordinary := by
    unfold scanPair
    dsimp only
    split
    · exact hJoined
    · exact hSingle

theorem sound_scanEquals (cursor : Cursor σ) : Sound cursor (scanEquals cursor) := by
  have hFirst := cursor.reaches_advance.trans (cursor.advance.reaches_accept '=')
  unfold scanEquals
  split
  · next taken =>
      rw [taken] at hFirst
      exact ⟨hFirst, (by decide : (Outcome.operator .equal).Ordinary)⟩
  · next rest taken =>
      rw [taken] at hFirst
      split
      · have hRest : Sound rest
            (scanPair '=' (.operator .notEqual) (.malformed .brokenNotEqual) rest) :=
          sound_scanPair (by decide) (by decide) rest
        exact ⟨hFirst.trans hRest.reaches, hRest.ordinary⟩
      · exact ⟨hFirst, (by decide : (Outcome.operator .assign).Ordinary)⟩

theorem ordinary_singleSign (c : Char) :
    ((singleSign? c).getD (.malformed (.unexpected c))).Ordinary := by
  cases hSign : singleSign? c with
  | none => exact Outcome.ordinary_malformed _
  | some outcome => exact ordinary_of_mem_signs _ (singleSign?_eq_some hSign).1

theorem sound_scanSign (cursor : Cursor σ) : Sound cursor (scanSign cursor) := by
  unfold scanSign
  split
  · exact sound_scanPair (by decide) (by decide) cursor
  · exact sound_scanEquals cursor
  · exact sound_scanPair (by decide) (by decide) cursor
  · exact sound_scanPair (by decide) (by decide) cursor
  · exact sound_scanPair (by decide) (by decide) cursor
  · exact sound_scanPair (by decide) (by decide) cursor
  · exact ⟨cursor.reaches_advance, ordinary_singleSign _⟩

/-- Every scanner is sound wherever it is run, also at the end of the input. -/
theorem Scanner.sound (scanner : Scanner) (cursor : Cursor σ) :
    Sound cursor (scanner.scan cursor) := by
  cases scanner with
  | name => exact sound_scanName cursor
  | number => exact sound_scanNumber cursor
  | dotFloat => exact sound_scanDotFloat cursor
  | string => exact sound_scanString cursor
  | sign => exact sound_scanSign cursor
  | minus => exact sound_scanPair (by decide) (by decide) cursor
  | equals => exact sound_scanEquals cursor
  | less => exact sound_scanPair (by decide) (by decide) cursor
  | greater => exact sound_scanPair (by decide) (by decide) cursor
  | ampersand => exact sound_scanPair (by decide) (by decide) cursor
  | pipe => exact sound_scanPair (by decide) (by decide) cursor

/-- A lexer's choice among the scanners is one of them, after a look ahead perhaps. -/
theorem sound_scan (cursor : Cursor σ) : Sound cursor (scan cursor) := by
  have hPeek : cursor.Reaches cursor.peek.2 := (cursor.moved_peek).reaches
  have hDotFloat := sound_scanDotFloat cursor.peek.2
  have hDot := sound_scanSign cursor.peek.2
  unfold scan
  split
  · exact sound_scanName cursor
  split
  · exact sound_scanNumber cursor
  split
  · dsimp only
    split
    · exact ⟨hPeek.trans hDotFloat.reaches, hDotFloat.ordinary⟩
    · exact ⟨hPeek.trans hDot.reaches, hDot.ordinary⟩
  split
  · exact sound_scanString cursor
  · exact sound_scanSign cursor

theorem reaches_skipTrivia (cursor : Cursor σ) : cursor.Reaches (skipTrivia cursor) := by
  obtain ⟨_, moved, -⟩ := longest_skipTrivia cursor
  exact moved.reaches

end Lexeme

end Coll

import Coll.Lexeme.Name
import Coll.Proofs.Stream.Movement

/-!
What it means that a scanner reads the longest lexeme of a form, and that the scanner of names does.
A form relates a lexeme and the text left behind it to the outcome that the lexeme stands for.
-/

namespace Coll.Lexeme

variable {σ : Type} [FiniteStream σ]

/-- Scanning moves over `lexeme`, which is of the form `F` with the outcome that is found, and the
text ahead has no longer beginning of that form. -/
structure Reading (F : List Char → List Char → Outcome → Prop) (cursor : Cursor σ)
    (lexeme : List Char) (scan : Scan σ) : Prop where
  moved : cursor.Moved lexeme scan.2
  form : F lexeme scan.2.rest scan.1
  length_le : ∀ {other behind : List Char} {outcome : Outcome}, other ++ behind = cursor.rest →
    F other behind outcome → other.length ≤ lexeme.length

/-- A reading of one form is a reading of a wider one, where the other forms in it are no longer. -/
theorem Reading.widen {F G : List Char → List Char → Outcome → Prop} {cursor : Cursor σ}
    {lexeme : List Char} {scan : Scan σ} (reading : Reading F cursor lexeme scan)
    (hForm : G lexeme scan.2.rest scan.1)
    (hOther : ∀ {other behind outcome}, other ++ behind = cursor.rest → G other behind outcome →
      F other behind outcome ∨ other.length ≤ lexeme.length) :
    Reading G cursor lexeme scan where
  moved := reading.moved
  form := hForm
  length_le h hG := (hOther h hG).elim (reading.length_le h) id

/-- Looking ahead first does not change what is read. -/
theorem Reading.of_peek {F : List Char → List Char → Outcome → Prop} {cursor : Cursor σ}
    {lexeme : List Char} {scan : Scan σ} (reading : Reading F cursor.peek.2 lexeme scan) :
    Reading F cursor lexeme scan where
  moved := cursor.moved_peek.trans reading.moved
  form := reading.form
  length_le h := reading.length_le (h.trans (Cursor.rest_peek cursor).symm)

/-- A word: a character that a name may begin with, and any number that it may go on with. Whether
it is reserved and what its first character is decide what it stands for. -/
inductive Word : List Char → List Char → Outcome → Prop where
  | intro {first : Char} {more left : List Char} (starts : startsName first)
      (continues : ∀ c ∈ more, continuesName c) :
      Word (first :: more) left
        (.lexeme (wordKind (first :: more)) (String.ofList (first :: more)))

/-- A word is a name or one of the reserved words. -/
theorem wordKind_mem (word : List Char) :
    wordKind word ∈ .identifier :: .collectionName :: Kind.reserved.map (·.2) := by
  unfold wordKind
  cases hWord : Kind.ofReserved? (String.ofList word) with
  | none =>
      rw [Option.getD_none]
      unfold nameKind
      split
      · decide
      · split <;> decide
  | some kind =>
      obtain ⟨before, behind, hTable, -⟩ := List.lookup_eq_some_iff.1 hWord
      have hMem : (String.ofList word, kind) ∈ Kind.reserved := by simp [hTable]
      exact .tail _ (.tail _ (List.mem_map.2 ⟨_, hMem, rfl⟩))

theorem Word.continues {word left : List Char} {outcome : Outcome} (form : Word word left outcome) :
    ∀ c ∈ word, continuesName c := by
  cases form with
  | intro starts continues =>
      exact List.forall_mem_cons.2 ⟨continuesName_of_startsName starts, continues⟩

theorem Word.unique {word left : List Char} {outcome outcome' : Outcome}
    (form : Word word left outcome) (form' : Word word left outcome') : outcome = outcome' := by
  cases form
  cases form'
  rfl

/-- A word begins with a letter or `_`. -/
theorem Word.startsName {word left : List Char} {outcome : Outcome}
    (form : Word word left outcome) : ∃ c ∈ word.head?, startsName c := by
  cases form with
  | intro starts => exact ⟨_, rfl, starts⟩

theorem scanName_reading {cursor : Cursor σ} {c : Char} (hHere : cursor.current = some c)
    (hStarts : startsName c) :
    Reading Word cursor (cursor.rest.takeWhile continuesName) (scanName cursor) where
  moved := cursor.moved_takeWhile continuesName
  form := by
    have hWord : cursor.rest.takeWhile continuesName =
        c :: cursor.advance.rest.takeWhile continuesName := by
      rw [Cursor.rest_eq_cons hHere,
        List.takeWhile_cons_of_pos (continuesName_of_startsName hStarts)]
    simp only [scanName, Cursor.takeWhile_fst, hWord]
    exact .intro hStarts fun _ => of_mem_takeWhile
  length_le h form := length_le_takeWhile h form.continues

end Coll.Lexeme

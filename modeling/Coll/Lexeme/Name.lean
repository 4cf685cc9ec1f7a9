import Coll.Lexeme.Basic
import Coll.Unicode.Property

/-!
Names and reserved words.
-/

namespace Coll.Lexeme

/-- What a name may begin with: a letter or `_`. -/
def startsName (c : Char) : Bool := c == '_' || Unicode.isAlphabetic c

/-- What a name may go on with: a letter, a numeral or `_`. -/
def continuesName (c : Char) : Bool :=
  c == '_' || Unicode.isAlphabetic c || Unicode.isNumeric c

theorem continuesName_of_startsName {c : Char} (starts : startsName c) : continuesName c := by
  simp_all [startsName, continuesName]

/-- The kind of a word that is not reserved. The first character decides. -/
def nameKind : List Char → Kind
  | [] => .identifier
  | first :: _ => if Unicode.isUppercase first then .collectionName else .identifier

def wordKind (word : List Char) : Kind :=
  (Kind.ofReserved? (String.ofList word)).getD (nameKind word)

variable {σ : Type} [FiniteStream σ]

/-- Takes the longest word, which is empty where no word begins. -/
def scanName (cursor : Cursor σ) : Scan σ :=
  let (word, rest) := cursor.takeWhile continuesName
  (.lexeme (wordKind word) (String.ofList word), rest)

theorem bound_scanName_lt {cursor : Cursor σ} {c : Char} (here : cursor.current = some c)
    (starts : startsName c) : (scanName cursor).2.bound < cursor.bound :=
  Cursor.bound_takeWhile_lt here (continuesName_of_startsName starts)

end Coll.Lexeme

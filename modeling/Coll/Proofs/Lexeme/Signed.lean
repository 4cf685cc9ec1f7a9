import Coll.Lexeme.Sign
import Coll.Proofs.Lexeme.Reading

/-!
Signs as they are spelled, the broken ones included, and that the scanners of signs read the longest
one. What is said of single signs is read off their table.
-/

namespace Coll.Lexeme

/-- Every spelling that is fixed by the language, with what it stands for: the operators, the
delimiters, and the beginnings of operators that are none themselves. -/
def signs : List (List Char × Outcome) :=
  Operator.all.map (fun op => (op.spelling.toList, .operator op)) ++
    Delimiter.all.map (fun d => (d.spelling.toList, .delimiter d)) ++
    [(['=', '/'], .malformed .brokenNotEqual), (['&'], .malformed (.undoubled .ampersand)),
      (['|'], .malformed (.undoubled .pipe))]

/-- `c` begins no token: no name, no number, no string and no sign. -/
def BeginsNothing (c : Char) : Prop :=
  startsName c = false ∧ c.isDigit = false ∧ c ≠ '"' ∧ ∀ sign ∈ signs, sign.1.head? ≠ some c

/-- A sign, or a character that begins no token. -/
inductive Signed : List Char → List Char → Outcome → Prop where
  | listed {sign left : List Char} {outcome : Outcome} (mem : (sign, outcome) ∈ signs) :
      Signed sign left outcome
  | strange {c : Char} {left : List Char} (begins : BeginsNothing c) :
      Signed [c] left (.malformed (.unexpected c))

theorem ne_nil_of_mem_signs : ∀ sign ∈ signs, sign.1 ≠ [] := by decide

/-- A spelling stands for one thing. -/
theorem outcome_unique_of_mem_signs : ∀ sign ∈ signs, ∀ other ∈ signs, sign.1 = other.1 →
    sign.2 = other.2 := by decide

/-- The characters that the signs of the table begin with. -/
def heads : List Char := signs.filterMap (·.1.head?)

theorem mem_heads {sign : List Char} {outcome : Outcome} {c : Char}
    (hMem : (sign, outcome) ∈ signs) (hHead : sign.head? = some c) : c ∈ heads :=
  List.mem_filterMap.2 ⟨_, hMem, hHead⟩

/-- No sign begins where a name, a number or a string does. -/
theorem plain_of_mem_heads {c : Char} (hMem : c ∈ heads) :
    startsName c = false ∧ c.isDigit = false ∧ c ≠ '"' := by
  have hAll : heads.all fun c => !startsName c && !c.isDigit && c != '"' := by decide
  simpa [and_assoc] using List.all_eq_true.1 hAll c hMem

theorem Signed.ne_nil {sign left : List Char} {outcome : Outcome}
    (form : Signed sign left outcome) : sign ≠ [] := by
  cases form with
  | listed mem => exact ne_nil_of_mem_signs _ mem
  | strange => exact List.cons_ne_nil _ _

theorem Signed.head {sign left : List Char} {outcome : Outcome} (form : Signed sign left outcome) :
    ∀ c ∈ sign.head?, startsName c = false ∧ c.isDigit = false ∧ c ≠ '"' := by
  cases form with
  | listed mem =>
      intro c hc
      exact plain_of_mem_heads (mem_heads mem hc)
  | strange begins =>
      intro c hc
      obtain rfl := Option.some.inj hc
      exact ⟨begins.1, begins.2.1, begins.2.2.1⟩

theorem Signed.unique {sign left : List Char} {outcome outcome' : Outcome}
    (form : Signed sign left outcome) (form' : Signed sign left outcome') : outcome = outcome' := by
  cases form with
  | listed mem =>
      cases form' with
      | listed mem' => exact outcome_unique_of_mem_signs _ mem _ mem' rfl
      | strange begins => exact (begins.2.2.2 _ mem rfl).elim
  | strange begins =>
      cases form' with
      | listed mem => exact (begins.2.2.2 _ mem rfl).elim
      | strange => rfl

theorem head?_of_cons_begins {c : Char} {more text : List Char} (h : c :: more <+: text) :
    text.head? = some c := by
  obtain ⟨behind, rfl⟩ := h
  rfl

variable {σ : Type} [FiniteStream σ]

/-- A sign of the table is read, if the table has no longer one that the text begins with. -/
theorem reading_of_mem_signs {cursor later : Cursor σ} {c : Char} {sign : List Char}
    {outcome : Outcome} (hHere : cursor.current = some c) (hMoved : cursor.Moved sign later)
    (hMem : (sign, outcome) ∈ signs) (hLonger : ∀ other ∈ signs, other.1.head? = some c →
      other.1.tail <+: cursor.advance.rest → other.1.tail.length < sign.length) :
    Reading Signed cursor sign (outcome, later) := by
  refine ⟨hMoved, .listed hMem, ?_⟩
  intro other behind outcome' hSame form
  rw [Cursor.rest_eq_cons hHere] at hSame
  cases form with
  | listed mem =>
      obtain ⟨d, rest, rfl⟩ := List.exists_cons_of_ne_nil (ne_nil_of_mem_signs _ mem)
      obtain ⟨rfl, hRest⟩ := List.cons.inj hSame
      exact hLonger _ mem rfl ⟨behind, hRest⟩
  | strange => exact List.length_pos_iff.2 (ne_nil_of_mem_signs _ hMem)

/-- A sign of two characters, or of the first alone where the second does not follow. -/
theorem scanPair_reading {cursor : Cursor σ} {first second : Char} {joined single : Outcome}
    (hHere : cursor.current = some first) (hJoined : ([first, second], joined) ∈ signs)
    (hSingle : ([first], single) ∈ signs) (hOnly : ∀ sign ∈ signs, sign.1.head? = some first →
      sign.1.tail = [second] ∨ sign.1.tail = []) :
    ∃ sign, Reading Signed cursor sign (scanPair second joined single cursor) := by
  have hFirst := Cursor.moved_advance hHere
  unfold scanPair
  rw [Cursor.accept_eq]
  by_cases hNext : cursor.advance.rest.head? = some second
  · rw [if_pos hNext]
    have hSecond := Cursor.moved_advance ((Cursor.head?_rest cursor.advance).symm.trans hNext)
    refine ⟨_, reading_of_mem_signs hHere (hFirst.cons hSecond) hJoined ?_⟩
    intro other hMem hHead _
    rcases hOnly other hMem hHead with h | h <;> simp [h]
  · rw [if_neg hNext]
    refine ⟨_, reading_of_mem_signs hHere hFirst hSingle ?_⟩
    intro other hMem hHead hPrefix
    rcases hOnly other hMem hHead with h | h
    · rw [h] at hPrefix
      exact (hNext (head?_of_cons_begins hPrefix)).elim
    · simp [h]

/-- A sign that begins with `=` goes on with `=`, or with `/` and perhaps `=`. -/
theorem tail_of_equals : ∀ sign ∈ signs, sign.1.head? = some '=' → sign.1.tail = ['='] ∨
    sign.1.tail = ['/', '='] ∨ sign.1.tail = ['/'] ∨ sign.1.tail = [] := by decide

theorem scanEquals_reading {cursor : Cursor σ} (hHere : cursor.current = some '=') :
    ∃ sign, Reading Signed cursor sign (scanEquals cursor) := by
  have hFirst := Cursor.moved_advance hHere
  unfold scanEquals
  rw [Cursor.accept_eq]
  by_cases hEqual : cursor.advance.rest.head? = some '='
  · rw [if_pos hEqual]
    have hSecond := Cursor.moved_advance ((Cursor.head?_rest cursor.advance).symm.trans hEqual)
    refine ⟨_, reading_of_mem_signs hHere (hFirst.cons hSecond) (by decide) ?_⟩
    intro other hMem hHead hPrefix
    rcases tail_of_equals other hMem hHead with h | h | h | h <;> rw [h] at hPrefix ⊢
    · decide
    · simp [head?_of_cons_begins hPrefix] at hEqual
    · decide
    · decide
  rw [if_neg hEqual]
  dsimp only
  by_cases hSlash : cursor.advance.current = some '/'
  · rw [if_pos hSlash, scanPair, Cursor.accept_eq]
    have hSecond := Cursor.moved_advance hSlash
    by_cases hThird : cursor.advance.advance.rest.head? = some '='
    · rw [if_pos hThird]
      have hLast := Cursor.moved_advance
        ((Cursor.head?_rest cursor.advance.advance).symm.trans hThird)
      refine ⟨_, reading_of_mem_signs hHere (hFirst.cons (hSecond.cons hLast)) (by decide) ?_⟩
      intro other hMem hHead _
      rcases tail_of_equals other hMem hHead with h | h | h | h <;> rw [h] <;> decide
    · rw [if_neg hThird]
      refine ⟨_, reading_of_mem_signs hHere (hFirst.cons hSecond) (by decide) ?_⟩
      intro other hMem hHead hPrefix
      rcases tail_of_equals other hMem hHead with h | h | h | h <;> rw [h] at hPrefix ⊢
      · decide
      · rw [Cursor.rest_eq_cons hSlash, List.cons_prefix_cons] at hPrefix
        exact (hThird (head?_of_cons_begins hPrefix.2)).elim
      · decide
      · decide
  · rw [if_neg hSlash]
    rw [← Cursor.head?_rest] at hSlash
    refine ⟨_, reading_of_mem_signs hHere hFirst (by decide) ?_⟩
    intro other hMem hHead hPrefix
    rcases tail_of_equals other hMem hHead with h | h | h | h <;> rw [h] at hPrefix ⊢
    · exact (hEqual (head?_of_cons_begins hPrefix)).elim
    · exact (hSlash (head?_of_cons_begins hPrefix)).elim
    · exact (hSlash (head?_of_cons_begins hPrefix)).elim
    · decide

/-- The signs of one character that begin no longer sign. -/
theorem singleSign?_eq_some {c : Char} {outcome : Outcome} (h : singleSign? c = some outcome) :
    ([c], outcome) ∈ signs ∧ ∀ sign ∈ signs, sign.1.head? = some c → sign.1.tail = [] := by
  unfold singleSign? at h
  split at h <;> cases h <;> decide

/-- Every other sign begins with one of six characters. -/
theorem beginsNothing_of_singleSign?_eq_none {c : Char} (hName : startsName c = false)
    (hDigit : c.isDigit = false) (hQuote : c ≠ '"') (hSingle : singleSign? c = none)
    (hLonger : c ∉ ['-', '=', '<', '>', '&', '|']) : BeginsNothing c := by
  have hAll : heads.all fun d =>
      ['-', '=', '<', '>', '&', '|'].contains d || (singleSign? d).isSome := by decide
  refine ⟨hName, hDigit, hQuote, fun sign hMem hFirst => ?_⟩
  have hHead := List.all_eq_true.1 hAll c (mem_heads hMem hFirst)
  rw [hSingle, Option.isSome_none, Bool.or_false, List.contains_iff_mem] at hHead
  exact hLonger hHead

/-- A character that no longer sign begins with is a sign of its own, or begins nothing. -/
theorem singleSign_reading {cursor : Cursor σ} {c : Char} (hHere : cursor.current = some c)
    (hName : startsName c = false) (hDigit : c.isDigit = false) (hQuote : c ≠ '"')
    (hLonger : c ∉ ['-', '=', '<', '>', '&', '|']) :
    Reading Signed cursor [c]
      ((singleSign? c).getD (.malformed (.unexpected c)), cursor.advance) := by
  have hMoved := Cursor.moved_advance hHere
  cases hSingle : singleSign? c with
  | some outcome =>
      obtain ⟨hMem, hOnly⟩ := singleSign?_eq_some hSingle
      refine reading_of_mem_signs hHere hMoved hMem ?_
      intro other hOther hHead _
      simp [hOnly other hOther hHead]
  | none =>
      have hBegins := beginsNothing_of_singleSign?_eq_none hName hDigit hQuote hSingle hLonger
      refine ⟨hMoved, .strange hBegins, ?_⟩
      intro other behind outcome hSame form
      rw [Cursor.rest_eq_cons hHere] at hSame
      cases form with
      | listed mem =>
          obtain ⟨d, rest, rfl⟩ := List.exists_cons_of_ne_nil (ne_nil_of_mem_signs _ mem)
          obtain ⟨rfl, -⟩ := List.cons.inj hSame
          exact (hBegins.2.2.2 _ mem rfl).elim
      | strange => exact Nat.le_refl _

/-- Where no name, number or string begins, a sign is read, or one character that begins nothing. -/
theorem scanSign_reading {cursor : Cursor σ} {c : Char} (hHere : cursor.current = some c)
    (hName : startsName c = false) (hDigit : c.isDigit = false) (hQuote : c ≠ '"') :
    ∃ sign, Reading Signed cursor sign (scanSign cursor) := by
  have hChar : cursor.char = c := by simp [Cursor.char, hHere]
  unfold scanSign
  rw [hChar]
  split
  · exact scanPair_reading hHere (by decide) (by decide) (by decide)
  · exact scanEquals_reading hHere
  · exact scanPair_reading hHere (by decide) (by decide) (by decide)
  · exact scanPair_reading hHere (by decide) (by decide) (by decide)
  · exact scanPair_reading hHere (by decide) (by decide) (by decide)
  · exact scanPair_reading hHere (by decide) (by decide) (by decide)
  · exact ⟨_, singleSign_reading hHere hName hDigit hQuote (by simp_all)⟩

end Coll.Lexeme

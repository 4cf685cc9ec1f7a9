import Coll.Proofs.Text.Numeral
import Coll.Text.Escaped
import Mathlib.Tactic.SplitIfs

/-!
Reading escaped text. A reader takes what it understands off the front of a text and leaves the
rest. Both ways of escaping are read back one character at a time: behind a backslash stands a
letter or a code point, and every other character stands for itself.
-/

namespace Coll.Text

section Readers

variable {α : Type} {read : List Char → Option (α × List Char)}

/-- The text up to the first `stop`, and what stands behind that. -/
def field (stop : Char) (text : List Char) : Option (List Char × List Char) :=
  match text.dropWhile (· != stop) with
  | [] => none
  | _ :: rest => some (text.takeWhile (· != stop), rest)

theorem field_append {stop : Char} {front : List Char} (hPlain : stop ∉ front)
    (rest : List Char) : field stop (front ++ stop :: rest) = some (front, rest) := by
  have hFront : ∀ c ∈ front, c != stop := by
    intro c hc
    rw [bne_iff_ne]
    rintro rfl
    exact hPlain hc
  rw [field, List.takeWhile_append_of_pos hFront, List.dropWhile_append_of_pos hFront]
  simp

/-- Reads one thing behind the other for as long as there is something to read. -/
def many (read : List Char → Option (α × List Char)) (text : List Char) :
    List α × List Char :=
  match read text with
  | none => ([], text)
  | some (a, rest) =>
    if rest.length < text.length then
      let (more, left) := many read rest
      (a :: more, left)
    else ([], text)
termination_by text.length

theorem many_of_none {text : List Char} (hNone : read text = none) :
    many read text = ([], text) := by
  rw [many, hNone]

theorem many_append {front rest left : List Char} {a : α} {more : List α}
    (hRead : read (front ++ rest) = some (a, rest)) (hNonempty : front ≠ [])
    (hMore : many read rest = (more, left)) : many read (front ++ rest) = (a :: more, left) := by
  have hShorter : rest.length < (front ++ rest).length := by
    have hFront := List.length_pos_iff.2 hNonempty
    rw [List.length_append]
    omega
  rw [many, hRead]
  simp only [if_pos hShorter, hMore]

/-- What is read back one by one is read back as a whole. -/
theorem many_flatMap {write : α → List Char} {rest : List Char}
    (hRead : ∀ a rest, read (write a ++ rest) = some (a, rest)) (hNonempty : ∀ a, write a ≠ [])
    (hNone : read rest = none) (written : List α) :
    many read (written.flatMap write ++ rest) = (written, rest) := by
  induction written with
  | nil => exact many_of_none hNone
  | cons a written ih =>
      rw [List.flatMap_cons, List.append_assoc]
      exact many_append (hRead a _) (hNonempty a) ih

end Readers

section Hexadecimal

def hexDigits : List Char := "0123456789abcdef".toList

/-- The number that hexadecimal digits denote. -/
def hexValue (digits : List Char) : Nat :=
  digits.foldl (fun value digit => 16 * value + hexDigits.idxOf digit) 0

theorem hexValue_concat (digits : List Char) (digit : Char) :
    hexValue (digits ++ [digit]) = 16 * hexValue digits + hexDigits.idxOf digit := by
  rw [hexValue, List.foldl_append]
  rfl

theorem idxOf_digitChar : ∀ d < 16, hexDigits.idxOf d.digitChar = d := by decide

theorem digitChar_mem_hexDigits : ∀ d < 16, d.digitChar ∈ hexDigits := by decide

theorem hexadecimal_of_lt {n : Nat} (hLess : n < 16) : hexadecimal n = [n.digitChar] :=
  Nat.toDigits_of_lt_base hLess

theorem hexadecimal_of_le {n : Nat} (hLe : 16 ≤ n) :
    hexadecimal n = hexadecimal (n / 16) ++ [(n % 16).digitChar] :=
  Nat.toDigits_of_base_le (by decide) hLe

@[simp] theorem hexValue_hexadecimal (n : Nat) : hexValue (hexadecimal n) = n := by
  induction n using Nat.strongRecOn with
  | ind n ih =>
      by_cases hLess : n < 16
      · rw [hexadecimal_of_lt hLess, ← List.nil_append [_], hexValue_concat, idxOf_digitChar n hLess]
        exact Nat.zero_add n
      · rw [hexadecimal_of_le (by omega), hexValue_concat, ih (n / 16) (by omega),
          idxOf_digitChar _ (by omega)]
        omega

/-- Zeros in front do not count. -/
theorem hexValue_padLeft (width : Nat) (digits : List Char) :
    hexValue (padLeft width '0' digits) = hexValue digits := by
  have hZeros (n : Nat) : hexValue (List.replicate n '0') = 0 := by
    induction n with
    | zero => rfl
    | succ n ih => rw [List.replicate_succ', hexValue_concat, ih]; rfl
  have hNone := hZeros (width - digits.length)
  rw [hexValue] at hNone
  rw [padLeft, hexValue, List.foldl_append, hNone, hexValue]

theorem mem_hexDigits_of_mem_hexadecimal {n : Nat} : ∀ c ∈ hexadecimal n, c ∈ hexDigits := by
  intro c hc
  obtain ⟨d, hLess, rfl⟩ := exists_digitChar_of_mem_toDigits (by decide) c hc
  exact digitChar_mem_hexDigits d hLess

end Hexadecimal

/-- The characters that a letter or a sign behind a backslash stands for. -/
def named : List (Char × Char) :=
  [('0', '\x00'), ('b', '\x08'), ('t', '\t'), ('n', '\n'), ('f', '\x0c'), ('r', '\r'),
    ('\\', '\\'), ('"', '"'), ('\'', '\'')]

theorem lookup_named : ∀ pair ∈ named, pair.1 ≠ 'u' ∧ named.lookup pair.1 = some pair.2 := by
  decide

/-- What sets the ways of escaping apart when they are read. -/
structure Escaping where
  /-- Reads the digits of a code point, behind `\u`. -/
  readCode : List Char → Option (List Char × List Char)
  /-- The characters that end a text. -/
  stops : List Char

namespace Escaping

/-- Code points stand in braces. -/
def visible : Escaping := ⟨fun text => field '\x7d' text.tail, []⟩

/-- Code points have four digits, and a quote ends the text. -/
def json : Escaping := ⟨fun text => some (text.take 4, text.drop 4), ['"']⟩

variable {escaping : Escaping} {c : Char} {written : List Char}

/-- Reads on behind a backslash. -/
def readBehind (escaping : Escaping) : List Char → Option (Char × List Char)
  | [] => none
  | name :: text =>
    if name = 'u' then do
      let (digits, rest) ← escaping.readCode text
      return (Char.ofNat (hexValue digits), rest)
    else do return (← named.lookup name, text)

def readChar (escaping : Escaping) : List Char → Option (Char × List Char)
  | [] => none
  | c :: text =>
    if c = '\\' then escaping.readBehind text
    else if c ∈ escaping.stops then none
    else some (c, text)

/-- How a character may be written: by a name, by its code point, or as itself. -/
inductive Writes (escaping : Escaping) (c : Char) : List Char → Prop where
  | name {name : Char} (mem : (name, c) ∈ named) : Writes escaping c ['\\', name]
  | code {code digits : List Char} (hValue : hexValue digits = c.toNat)
      (hRead : ∀ rest, escaping.readCode (code ++ rest) = some (digits, rest)) :
      Writes escaping c ('\\' :: 'u' :: code)
  | plain (hPlain : c ∉ '\\' :: escaping.stops) : Writes escaping c [c]

theorem Writes.of_name {name meaning : Char} (hMeaning : c = meaning)
    (mem : (name, meaning) ∈ named) : escaping.Writes c ['\\', name] :=
  .name (hMeaning ▸ mem)

theorem Writes.ne_nil (writes : escaping.Writes c written) : written ≠ [] := by
  cases writes <;> exact List.cons_ne_nil _ _

/-- However a character is written, it is read back. -/
theorem Writes.readChar_append (writes : escaping.Writes c written) (rest : List Char) :
    escaping.readChar (written ++ rest) = some (c, rest) := by
  cases writes with
  | name mem =>
      obtain ⟨hLetter, hMeaning⟩ := lookup_named _ mem
      simp [readChar, readBehind, hLetter, hMeaning]
  | code hValue hRead => simp [readChar, readBehind, hRead, hValue]
  | plain hPlain =>
      obtain ⟨hBackslash, hStops⟩ := List.ne_and_not_mem_of_not_mem_cons hPlain
      simp [readChar, hBackslash, hStops]

/-- Reads characters up to the end of a text. -/
def readText (escaping : Escaping) (text : List Char) : List Char × List Char :=
  many escaping.readChar text

theorem Writes.readText_append {left rest more : List Char} (writes : escaping.Writes c written)
    (hMore : escaping.readText rest = (more, left)) :
    escaping.readText (written ++ rest) = (c :: more, left) :=
  many_append (writes.readChar_append rest) writes.ne_nil hMore

/-- A text is read back if each of its characters is. -/
theorem readText_flatMap {write : Char → List Char} {rest : List Char}
    (hWrites : ∀ c, escaping.Writes c (write c)) (hNone : escaping.readChar rest = none)
    (text : List Char) : escaping.readText (text.flatMap write ++ rest) = (text, rest) :=
  many_flatMap (fun c => (hWrites c).readChar_append) (fun c => (hWrites c).ne_nil) hNone text

end Escaping

theorem writes_escapeCode (c : Char) : Escaping.visible.Writes c (escapeCode c) := by
  have hClosing : '\x7d' ∉ hexadecimal c.toNat := fun hMem =>
    absurd (mem_hexDigits_of_mem_hexadecimal _ hMem) (by decide)
  refine .code (hexValue_hexadecimal c.toNat) fun rest => ?_
  have hDigits := field_append hClosing rest
  rwa [← List.singleton_append, ← List.append_assoc] at hDigits

theorem writes_escapeChar (rule : EscapeRule) (c : Char) :
    Escaping.visible.Writes c (escapeChar rule c) := by
  have hCode := writes_escapeCode c
  unfold escapeChar
  split_ifs with hNull hTab hReturn hFeed hBackslash hDouble hSingle
  · exact .of_name hNull (by decide)
  · exact .of_name hTab (by decide)
  · exact .of_name hReturn (by decide)
  · exact .of_name hFeed (by decide)
  · exact .of_name hBackslash (by decide)
  · rw [Bool.and_eq_true, decide_eq_true_iff] at hDouble
    exact .of_name hDouble.1 (by decide)
  · rw [Bool.and_eq_true, decide_eq_true_iff] at hSingle
    exact .of_name hSingle.1 (by decide)
  · exact hCode
  · exact .plain (by simpa [Escaping.visible] using hBackslash)
  · exact hCode

/-- An escaped text is read back. The first character may be written otherwise than it would be
further on, but it is read in the same way. -/
theorem readText_escape (text : List Char) : Escaping.visible.readText (escape text) = (text, []) := by
  have hMore (more : List Char) :
      Escaping.visible.readText (more.flatMap (escapeChar .inside)) = (more, []) := by
    have hNone : Escaping.visible.readChar [] = none := rfl
    have hRead := Escaping.readText_flatMap (writes_escapeChar .inside) hNone more
    rwa [List.append_nil] at hRead
  cases text with
  | nil => exact hMore []
  | cons first more => exact (writes_escapeChar .alone first).readText_append (hMore more)

namespace JsonString

theorem writes_encodeChar (c : Char) : Escaping.json.Writes c (encodeChar c) := by
  unfold encodeChar
  split_ifs with hQuote hBackslash hBack hTab hFeed hForm hReturn hControl
  · exact .of_name hQuote (by decide)
  · exact .of_name hBackslash (by decide)
  · exact .of_name hBack (by decide)
  · exact .of_name hTab (by decide)
  · exact .of_name hFeed (by decide)
  · exact .of_name hForm (by decide)
  · exact .of_name hReturn (by decide)
  · have hFour : ∀ n < 0x20, (padLeft 4 '0' (hexadecimal n)).length = 4 := by decide
    refine .code ((hexValue_padLeft 4 _).trans (hexValue_hexadecimal c.toNat)) ?_
    intro rest
    simp [Escaping.json, hFour c.toNat hControl]
  · exact .plain (by simpa [Escaping.json] using ⟨hBackslash, hQuote⟩)

/-- Reads a JSON string with its quotes. -/
def read : List Char → Option (List Char × List Char)
  | [] => none
  | quote :: text =>
    match Escaping.json.readText text with
    | (content, closing :: rest) =>
      if quote = '"' ∧ closing = '"' then some (content, rest) else none
    | (_, []) => none

/-- A JSON string is read back, whatever comes behind it. -/
theorem read_encode_append (text rest : List Char) :
    read (encode text ++ rest) = some (text, rest) := by
  have hQuote : Escaping.json.readChar ('"' :: rest) = none := rfl
  have hContent := Escaping.readText_flatMap writes_encodeChar hQuote text
  rw [encode, List.append_assoc, List.cons_append, read]
  simp [hContent]

end JsonString

end Coll.Text

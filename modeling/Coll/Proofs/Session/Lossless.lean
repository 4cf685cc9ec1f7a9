import Coll.Proofs.Report.Rows
import Coll.Proofs.Session.Agreement
import Coll.Proofs.Text.ReadBack
import Mathlib

/-!
A token dump is read back. In either format a token stands on a line of its own, and from the line
its kind, its text and its place are regained; so different tokens never make the same dump.
-/

namespace Coll

open Text (field field_append many many_flatMap)

namespace Text

/-- What is no digit is not in a numeral. -/
theorem not_mem_decimal {c : Char} (hOther : c.isDigit = false) (n : Nat) : c ∉ decimal n := by
  intro hMem
  rw [isDigit_of_mem_decimal c hMem] at hOther
  contradiction

theorem feed_not_mem_escape (text : List Char) : '\n' ∉ escape text := by
  cases text with
  | nil => exact List.not_mem_nil
  | cons first more => simp [escape, feed_not_mem_escapeChar]

theorem JsonString.feed_not_mem_encodeChar (c : Char) : '\n' ∉ encodeChar c := by
  have hDigits : '\n' ∉ hexadecimal c.toNat := feed_not_mem_toDigits (by decide) _
  have hPadded := feed_not_mem_padLeft (by decide : '0' ≠ '\n') hDigits 4
  by_cases hFeed : c = '\n'
  · subst hFeed
    decide
  · unfold encodeChar
    simp only [apply_ite ('\n' ∈ ·), List.mem_append, hPadded]
    simp [Ne.symm hFeed]

theorem JsonString.feed_not_mem_encode (text : List Char) : '\n' ∉ encode text := by
  simp [encode, feed_not_mem_encodeChar]

end Text

namespace Kind

theorem mem_all (kind : Kind) : kind ∈ all := by
  cases kind with
  | literal literal => cases literal <;> decide
  | keyword word => cases word <;> decide
  | typeName type => cases type <;> decide
  | operator op => cases op <;> decide
  | delimiter delimiter => cases delimiter <;> decide
  | identifier | collectionName | endOfInput | error => decide

/-- No two kinds have the same name. -/
theorem ofName?_name (kind : Kind) : ofName? kind.name = some kind := by
  have hAll : ∀ kind ∈ all, ofName? kind.name = some kind := by decide
  exact hAll kind kind.mem_all

/-- What the names are made of. -/
def capitals : List Char := "ABCDEFGHIJKLMNOPQRSTUVWXYZ_".toList

theorem name_subset (kind : Kind) : kind.name.toList ⊆ capitals := by
  have hAll : ∀ kind ∈ all, kind.name.toList ⊆ capitals := by decide
  exact hAll kind kind.mem_all

theorem not_mem_name {c : Char} (hOther : c ∉ capitals) (kind : Kind) : c ∉ kind.name.toList :=
  fun hMem => hOther (kind.name_subset hMem)

end Kind

namespace Token

/-- A token as it is dumped, without the line feed. -/
def row (token : Token) : DumpFormat → List Char
  | .text =>
    Text.decimal token.line ++ ':' :: (Text.decimal token.column ++ '\t' ::
      (token.kind.name.toList ++ '\t' :: Text.escape token.text.toList))
  | .json => token.toJson

/-- The JSON object, mark by mark. -/
theorem row_json (token : Token) : token.row .json =
    "\x7b\"kind\":\"".toList ++ (token.kind.name.toList ++ '"' ::
      (",\"text\":".toList ++ (Text.JsonString.encode token.text.toList ++
        (",\"line\":".toList ++ (Text.decimal token.line ++ ',' ::
          ("\"column\":".toList ++ (Text.decimal token.column ++ ['\x7d']))))))) := by
  -- not by its equation, which would evaluate the marks before it is stated
  rw [row]
  delta toJson
  simp

/-- Reads a row of the text format. -/
def readText (row : List Char) : Option Token := do
  let (line, rest) ← field ':' row
  let (column, rest) ← field '\t' rest
  let (name, rest) ← field '\t' rest
  let kind ← Kind.ofName? (String.ofList name)
  let (text, []) := Text.Escaping.visible.readText rest | none
  return ⟨kind, String.ofList text, Text.natural line, Text.natural column⟩

/-- Reads a row of the JSON format. -/
def readJson (row : List Char) : Option Token := do
  let rest ← row.dropPrefix? "\x7b\"kind\":\"".toList
  let (name, rest) ← field '"' rest
  let kind ← Kind.ofName? (String.ofList name)
  let rest ← rest.dropPrefix? ",\"text\":".toList
  let (text, rest) ← Text.JsonString.read rest
  let rest ← rest.dropPrefix? ",\"line\":".toList
  let (line, rest) ← field ',' rest
  let rest ← rest.dropPrefix? "\"column\":".toList
  let (column, []) ← field '\x7d' rest | none
  return ⟨kind, String.ofList text, Text.natural line, Text.natural column⟩

def readRow : DumpFormat → List Char → Option Token
  | .text => readText
  | .json => readJson

theorem feed_not_mem_row (token : Token) (format : DumpFormat) : '\n' ∉ token.row format := by
  have hLine := Text.feed_not_mem_decimal token.line
  have hColumn := Text.feed_not_mem_decimal token.column
  have hName : '\n' ∉ token.kind.name.toList := Kind.not_mem_name (by decide) token.kind
  cases format with
  | text =>
      have hText := Text.feed_not_mem_escape token.text.toList
      simp [row, hLine, hColumn, hName, hText]
  | json =>
      have hText := Text.JsonString.feed_not_mem_encode token.text.toList
      simp [row_json, hLine, hColumn, hName, hText]

theorem readText_row (token : Token) : readText (token.row .text) = some token := by
  have hLine : ':' ∉ Text.decimal token.line := Text.not_mem_decimal (by decide) _
  have hColumn : '\t' ∉ Text.decimal token.column := Text.not_mem_decimal (by decide) _
  have hName : '\t' ∉ token.kind.name.toList := Kind.not_mem_name (by decide) token.kind
  simp [readText, row, field_append hLine, field_append hColumn, field_append hName,
    Kind.ofName?_name, Text.readText_escape]

theorem readJson_row (token : Token) : readJson (token.row .json) = some token := by
  have hName : '"' ∉ token.kind.name.toList := Kind.not_mem_name (by decide) token.kind
  have hLine : ',' ∉ Text.decimal token.line := Text.not_mem_decimal (by decide) _
  have hColumn : '\x7d' ∉ Text.decimal token.column := Text.not_mem_decimal (by decide) _
  have hDrop (mark rest : List Char) : (mark ++ rest).dropPrefix? mark = some rest :=
    List.dropPrefix?_append_of_beq rest (by simp)
  rw [row_json, readJson]
  simp only [hDrop, Option.bind_eq_bind, Option.bind_some, field_append hName, field_append hLine,
    field_append hColumn, Text.JsonString.read_encode_append, String.ofList_toList,
    Kind.ofName?_name, Text.natural_decimal]
  rfl

/-- Every token is read back from its row. -/
theorem readRow_row (token : Token) (format : DumpFormat) :
    readRow format (token.row format) = some token := by
  cases format with
  | text => exact readText_row token
  | json => exact readJson_row token

end Token

namespace Session

theorem tokenLine_eq (format : DumpFormat) (token : Token) :
    tokenLine format token = token.row format ++ ['\n'] := by
  cases format <;> simp [tokenLine, Token.row]

/-- Reads a line with its line feed. -/
def readLine (format : DumpFormat) (text : List Char) : Option (Token × List Char) := do
  let (row, rest) ← field '\n' text
  return (← Token.readRow format row, rest)

/-- Reads a whole dump. -/
def readDump (format : DumpFormat) (text : List Char) : Option (List Token) :=
  let (tokens, rest) := many (readLine format) text
  if rest = [] then some tokens else none

theorem readLine_tokenLine_append (format : DumpFormat) (token : Token) (rest : List Char) :
    readLine format (tokenLine format token ++ rest) = some (token, rest) := by
  have hRow := field_append (token.feed_not_mem_row format) rest
  rw [tokenLine_eq, List.append_assoc, List.singleton_append, readLine, hRow]
  simp [Token.readRow_row]

theorem readDump_tokenLines (format : DumpFormat) (tokens : List Token) :
    readDump format (tokenLines format tokens) = some tokens := by
  have hNonempty (token : Token) : tokenLine format token ≠ [] := by simp [tokenLine_eq]
  have hRead := many_flatMap (readLine_tokenLine_append format) hNonempty
    (rfl : readLine format [] = none) tokens
  rw [List.append_nil] at hRead
  rw [readDump, tokenLines, hRead]
  rfl

theorem count_feed_tokenLine (format : DumpFormat) (token : Token) :
    (tokenLine format token).count '\n' = 1 := by
  rw [tokenLine_eq, List.count_append, List.count_eq_zero.2 (token.feed_not_mem_row format)]
  rfl

theorem count_feed_tokenLines (format : DumpFormat) (tokens : List Token) :
    (tokenLines format tokens).count '\n' = tokens.length := by
  simp [tokenLines, List.count_flatMap, Function.comp_def, count_feed_tokenLine]

/-- What the command `tokens` prints for standard input or a file. -/
theorem output_runTokens_getD (surroundings : Surroundings) (file : Option String)
    (format : DumpFormat) (includeEnd : Bool) :
    (runTokens surroundings file format includeEnd).output =
      String.ofList (tokenLines format
        (printedTokens surroundings includeEnd (file.getD "-"))) := by
  cases file with
  | none =>
      have hInput : Storage.Path.isStandardInput "-" = true := by cbv
      have hSame : openSource surroundings none = openSource surroundings (some "-") := by
        simp [openSource, Option.filter, hInput]
      rw [runTokens, hSame, ← runTokens]
      exact output_runTokens surroundings "-" format includeEnd
  | some path => exact output_runTokens surroundings path format includeEnd

end Session

open Session

/-- A dump loses nothing. Each token is on a line of its own, whatever its text is, and from the
lines the tokens are read back; so no other tokens have the same dump, and what the command `tokens`
prints can be read. -/
theorem dump_lossless (format : DumpFormat) :
    (∀ token, ∃ row, tokenLine format token = row ++ ['\n'] ∧ '\n' ∉ row) ∧
      (∀ tokens, (tokenLines format tokens).count '\n' = tokens.length ∧
        readDump format (tokenLines format tokens) = some tokens) ∧
      Function.Injective (tokenLines format) ∧
      ∀ surroundings file includeEnd,
        readDump format (runTokens surroundings file format includeEnd).output.toList =
          some (printedTokens surroundings includeEnd (file.getD "-")) := by
  refine ⟨?_, ?_, ?_, ?_⟩
  · intro token
    exact ⟨token.row format, tokenLine_eq format token, token.feed_not_mem_row format⟩
  · intro tokens
    exact ⟨count_feed_tokenLines format tokens, readDump_tokenLines format tokens⟩
  · intro tokens others hSame
    apply Option.some.inj
    rw [← readDump_tokenLines format tokens, hSame, readDump_tokenLines]
  · intro surroundings file includeEnd
    rw [output_runTokens_getD, String.toList_ofList, readDump_tokenLines]

/-- A text with a tab, a line feed and something that looks like an escape. -/
example : tokenLines .text [⟨.identifier, "\t\n\\n", 2, 10⟩, ⟨.endOfInput, "", 3, 1⟩] =
    "2:10\tIDENTIFIER\t\\t\\n\\\\n\n3:1\tEOF\t\n".toList := by
  decide +kernel

end Coll

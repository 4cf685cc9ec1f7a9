import Coll.Proofs.Lexer.Drain
import Coll.Proofs.Tokenization.Reprint

/-!
String literals where a lexer meets them. The text behind the opening quote tells in which of three
ways a literal ends, and with that all that comes of it. Every text is the content of some literal.
-/

namespace Coll

namespace Lexeme

/-- The items that stand for `c` between quotes. Only a line feed leaves a choice. -/
def itemsFor (c : Char) : List (List Char) :=
  if c = '"' then [['\\', '"']]
  else if c = '\\' then [['\\', '\\']]
  else if c = '\n' then [['\n'], ['\\', 'n']]
  else [[c]]

/-- All that can stand between quotes for `content`. -/
def bodies : List Char → List (List Char)
  | [] => [[]]
  | c :: content => (itemsFor c).flatMap fun item => (bodies content).map (item ++ ·)

theorem itemsFor_ne_nil (c : Char) : itemsFor c ≠ [] := by
  unfold itemsFor
  split
  · exact List.cons_ne_nil _ _
  split
  · exact List.cons_ne_nil _ _
  split <;> exact List.cons_ne_nil _ _

/-- Every text can stand between quotes. -/
theorem bodies_ne_nil (content : List Char) : bodies content ≠ [] := by
  induction content with
  | nil => exact List.cons_ne_nil _ _
  | cons c content ih =>
      obtain ⟨item, items, hItems⟩ := List.exists_cons_of_ne_nil (itemsFor_ne_nil c)
      simp [bodies, hItems, ih]

theorem items_append_of_mem_itemsFor {c : Char} {item body content : List Char}
    (hItem : item ∈ itemsFor c) (more : Items body content) :
    Items (item ++ body) (c :: content) := by
  unfold itemsFor at hItem
  split at hItem
  · next hQuote =>
      rw [List.mem_singleton.1 hItem, hQuote]
      exact .escape .quote more
  split at hItem
  · next hBackslash =>
      rw [List.mem_singleton.1 hItem, hBackslash]
      exact .escape .backslash more
  · next hQuote hBackslash =>
      have plain : Items (c :: body) (c :: content) := .plain hQuote hBackslash more
      split at hItem
      · next hFeed =>
          subst hFeed
          rcases List.mem_cons.1 hItem with rfl | hItem
          · exact plain
          · rw [List.mem_singleton.1 hItem]
            exact .escape .lineFeed more
      · rw [List.mem_singleton.1 hItem]
        exact plain

theorem mem_bodies_cons {c : Char} {item body content : List Char} (hItem : item ∈ itemsFor c)
    (hBody : body ∈ bodies content) : item ++ body ∈ bodies (c :: content) :=
  List.mem_flatMap.2 ⟨item, hItem, List.mem_map_of_mem hBody⟩

/-- What can be written between quotes for a content is what is read as that content. -/
theorem mem_bodies_iff {body content : List Char} : body ∈ bodies content ↔ Items body content := by
  constructor
  · intro hBody
    induction content generalizing body with
    | nil =>
        rw [List.mem_singleton.1 hBody]
        exact .nil
    | cons c content ih =>
        obtain ⟨item, hItem, hItems⟩ := List.mem_flatMap.1 hBody
        obtain ⟨more, hMore, rfl⟩ := List.mem_map.1 hItems
        exact items_append_of_mem_itemsFor hItem (ih hMore)
  · intro items
    induction items with
    | nil => exact List.mem_singleton_self _
    | @plain c body content hQuote hBackslash _ ih =>
        have hItem : [c] ∈ itemsFor c := by
          simp only [itemsFor, hQuote, hBackslash, if_false]
          split <;> simp_all
        exact mem_bodies_cons hItem ih
    | @escape c meant body content hEscape _ ih =>
        have hItem : ['\\', c] ∈ itemsFor meant := by cases hEscape <;> decide
        exact mem_bodies_cons hItem ih

theorem not_escape_of_not_mem {c : Char} (hOther : c ∉ ['n', '\\', '"']) :
    ∀ meant, ¬ Escape c meant := by
  intro meant hEscape
  cases hEscape <;> simp at hOther

theorem not_mem_of_not_escape {c : Char} (meaningless : ∀ meant, ¬ Escape c meant) :
    c ∉ ['n', '\\', '"'] := by
  intro hMem
  simp only [List.mem_cons, List.not_mem_nil, or_false] at hMem
  rcases hMem with rfl | rfl | rfl
  · exact meaningless _ .lineFeed
  · exact meaningless _ .backslash
  · exact meaningless _ .quote

/-- Items, and the quote that closes the literal. -/
def Closed (ahead : List Char) : Prop :=
  ∃ body content rest, Items body content ∧ ahead = body ++ '"' :: rest

/-- Items, and a backslash before a character that it gives no meaning. -/
def Broken (ahead : List Char) : Prop :=
  ∃ body content c rest, Items body content ∧ c ∉ ['n', '\\', '"'] ∧
    ahead = body ++ '\\' :: c :: rest

/-- Items up to the end of the text, with a lone backslash behind them perhaps. -/
def Unclosed (ahead : List Char) : Prop :=
  ∃ body content, Items body content ∧ (ahead = body ∨ ahead = body ++ ['\\'])

/-- Whatever stands behind an opening quote, it begins with items, and something ends them. -/
theorem closed_or_broken_or_unclosed (ahead : List Char) :
    Closed ahead ∨ Broken ahead ∨ Unclosed ahead := by
  obtain ⟨body, content, tail, items, moved, closing⟩ :=
    scanContent_closing (Cursor.ofStream ahead) []
  have hAhead := moved.rest_eq
  rw [Cursor.rest_ofText, List.append_assoc] at hAhead
  generalize (scanContent (Cursor.ofStream ahead) []).2.rest = left at hAhead closing
  generalize (scanContent (Cursor.ofStream ahead) []).1 = outcome at closing
  cases closing with
  | quote => exact .inl ⟨body, content, left, items, hAhead⟩
  | @invalid c _ meaningless =>
      have hOther := not_mem_of_not_escape meaningless
      exact .inr (.inl ⟨body, content, c, left, items, hOther, hAhead⟩)
  | textEnd =>
      rw [List.append_nil, List.append_nil] at hAhead
      exact .inr (.inr ⟨body, content, items, .inl hAhead⟩)
  | endAfterBackslash => exact .inr (.inr ⟨body, content, items, .inr hAhead⟩)

end Lexeme

open Lexeme (Broken Closed Items Outcome Quoted Unclosed)

namespace Lexer

variable {σ : Type} [FiniteStream σ]

/-- The next token is read from `lexeme`, and `left` is left behind it. The token is of this kind
and has this text; what is reported with it, if anything, has this code and this message. -/
structure Takes (lexer : Lexer σ) (lexeme left : List Char) (kind : Kind) (text : String)
    (report : Option (String × String)) : Prop where
  moved : lexer.begin.cursor.Moved lexeme lexer.next.2.cursor
  left : lexer.next.2.cursor.rest = left
  token : lexer.next.1.token = ⟨kind, text, lexer.begin.line, lexer.begin.column⟩
  report : lexer.next.1.report.map (fun d => (d.code.map Code.display, d.message)) =
    report.map fun (code, message) => (some code, message)

/-- The lexeme that is read where a token begins is taken. -/
theorem takes_of_reading {lexer : Lexer σ} {c : Char} {lexeme : List Char}
    {scan : Lexeme.Scan σ} (hHere : lexer.begin.cursor.current = some c)
    (hScan : Lexeme.scan lexer.begin.cursor = scan)
    (hRead : Lexeme.Reading Lexeme.Form lexer.begin.cursor lexeme scan) :
    lexer.Takes lexeme scan.2.rest scan.1.kind scan.1.text
      (scan.1.fault?.map fun fault => (fault.code.display, fault.message)) := by
  subst hScan
  have hNext := next_of_current hHere
  refine ⟨?_, ?_, ?_, ?_⟩
  · rw [hNext]
    exact hRead.moved
  · rw [hNext]
    rfl
  · rw [hNext]
    rfl
  · rw [hNext]
    simp only [conclude, Option.map_map]
    rfl

/-- Where a literal begins, it is taken. -/
theorem takes_of_quoted {lexer : Lexer σ} {literal left : List Char} {outcome : Outcome}
    (form : Quoted literal left outcome) (hAhead : lexer.begin.cursor.rest = literal ++ left) :
    lexer.Takes literal left outcome.kind outcome.text
      (outcome.fault?.map fun fault => (fault.code.display, fault.message)) := by
  have hHere : lexer.begin.cursor.current = some '"' := by
    rw [← Cursor.head?_rest, hAhead, List.head?_append, form.head]
    rfl
  obtain ⟨lexeme, hRead⟩ := Lexeme.scan_reading hHere
  have hSame := hRead.moved.rest_eq.symm.trans hAhead
  have hText := Cursor.rest_eq_cons hHere
  have form' := hRead.form.quoted_of_quote
    (hRead.form.head? (hRead.moved.rest_eq.symm.trans hText))
  obtain ⟨hLexeme, hOutcome⟩ := form'.unique form hSame
  subst hLexeme
  have hLeft := (List.append_right_inj _).1 hSame
  rw [← hOutcome, ← hLeft]
  exact takes_of_reading hHere rfl hRead

/-- Only one token is taken. -/
theorem Takes.unique {lexer : Lexer σ} {lexeme left lexeme' left' : List Char} {kind kind' : Kind}
    {text text' : String} {report report' : Option (String × String)}
    (takes : lexer.Takes lexeme left kind text report)
    (takes' : lexer.Takes lexeme' left' kind' text' report') : kind = kind' ∧ report = report' := by
  refine ⟨congrArg Token.kind (takes.token.symm.trans takes'.token), ?_⟩
  refine Option.map_injective ?_ (takes.report.symm.trans takes'.report)
  rintro ⟨code, message⟩ ⟨code', message'⟩ hSame
  simpa using hSame

section Quotes

variable {lexer : Lexer σ} {ahead body content rest : List Char}

theorem takes_closed (hAhead : lexer.begin.cursor.rest = '"' :: ahead) (items : Items body content)
    (hText : ahead = body ++ '"' :: rest) :
    lexer.Takes ('"' :: body ++ ['"']) rest (.literal .string) (String.ofList content) none :=
  takes_of_quoted (.intro items .quote) (by simp [hAhead, hText])

theorem takes_broken {c : Char} (hAhead : lexer.begin.cursor.rest = '"' :: ahead)
    (items : Items body content) (hOther : c ∉ ['n', '\\', '"'])
    (hText : ahead = body ++ '\\' :: c :: rest) :
    let message := "invalid escape sequence '\\" ++ String.singleton c ++ "'"
    lexer.Takes ('"' :: body ++ ['\\', c]) rest .error message (some ("E1003", message)) := by
  obtain ⟨-, -, hCode, -⟩ := display_codes
  have meaningless := Lexeme.not_escape_of_not_mem hOther
  rw [← hCode]
  exact takes_of_quoted (.intro items (.invalid meaningless)) (by simp [hAhead, hText])

theorem takes_unclosed (hAhead : lexer.begin.cursor.rest = '"' :: ahead)
    (items : Items body content) (hText : ahead = body ∨ ahead = body ++ ['\\']) :
    let message := "unterminated string literal"
    lexer.Takes ('"' :: ahead) [] .error message (some ("E1002", message)) := by
  obtain ⟨-, hCode, -⟩ := display_codes
  have quoted : Quoted ('"' :: ahead) [] (.malformed .unterminated) := by
    rcases hText with rfl | rfl
    · have form : Quoted ('"' :: (ahead ++ [])) [] (.malformed .unterminated) :=
        .intro items .textEnd
      rwa [List.append_nil] at form
    · exact .intro items .endAfterBackslash
  rw [← hCode]
  exact takes_of_quoted quoted (by simp [hAhead])

end Quotes

/-- Where nothing is left, the next token is the end token. -/
theorem isEnd_next_of_rest_eq_nil {lexer : Lexer σ} (hRest : lexer.cursor.rest = []) :
    lexer.next.1.token.isEnd := by
  have hBegins : Lexeme.BeginsLexeme lexer.cursor.rest := by simp [Lexeme.BeginsLexeme, hRest]
  have hHere : lexer.begin.cursor.current = none := by
    rw [← Cursor.rest_eq_nil_iff, ← hRest]
    exact congrArg Cursor.rest (Lexeme.skipTrivia_of_beginsLexeme hBegins)
  rw [next_of_atEnd hHere]
  exact isEnd_endScanned _ _

end Lexer

/-- Between quotes, a content is a literal of its own, however it is written. -/
theorem content_tokenize_of_mem_bodies {text : String} {body : List Char}
    (hBody : body ∈ Lexeme.bodies text.toList) (document : DocumentId) :
    (tokenize ('"' :: body ++ ['"']) document).toList.map (·.token.content) =
        [(.literal .string, text), (.endOfInput, "")] ∧
      (({} : Findings).addAll (tokenize ('"' :: body ++ ['"']) document)).toList = [] := by
  have items : Items body text.toList := Lexeme.mem_bodies_iff.1 hBody
  let token : Token := ⟨.literal .string, text, 1, 1⟩
  have hWritten : Written [token] ('"' :: body ++ ['"'] ++ [] ++ []) :=
    .cons (.literal items) .nil (absurd rfl) (.nil (.nil []))
  have hPrints : Prints [token] ('"' :: body ++ ['"']) := ⟨[], _, .nil, hWritten, by simp⟩
  have quoted : Quoted _ [] _ := .intro items .quote
  rw [String.ofList_toList] at quoted
  have lexical : token.Lexical := ⟨_, _, .quoted quoted⟩
  exact hPrints.content_tokenize (List.forall_mem_singleton.2 lexical) document

/-- How a literal ends and what comes of it is told by the text behind its opening quote. That is a
sequence of items up to a quote, or up to a backslash with a character that it gives no meaning, or
up to the end of the text, also behind a lone backslash; it is just one of these. In the first case
the token is a literal with the content that the items stand for, in the others an error, behind
which only the end token comes if the text is over. And every text is the content of each literal
that has it written between its quotes. -/
theorem literal_of_quote {σ : Type} [FiniteStream σ] (lexer : Lexer σ) (ahead : List Char)
    (hAhead : lexer.begin.cursor.rest = '"' :: ahead) :
    ((Closed ahead ∧ ¬ Broken ahead ∧ ¬ Unclosed ahead) ∨
      (¬ Closed ahead ∧ Broken ahead ∧ ¬ Unclosed ahead) ∨
      (¬ Closed ahead ∧ ¬ Broken ahead ∧ Unclosed ahead)) ∧
    (∀ body content rest, Items body content → ahead = body ++ '"' :: rest →
      lexer.Takes ('"' :: body ++ ['"']) rest (.literal .string) (String.ofList content) none) ∧
    (∀ body content c rest, Items body content → c ∉ ['n', '\\', '"'] →
      ahead = body ++ '\\' :: c :: rest →
      let message := "invalid escape sequence '\\" ++ String.singleton c ++ "'"
      lexer.Takes ('"' :: body ++ ['\\', c]) rest .error message (some ("E1003", message))) ∧
    (∀ body content, Items body content → ahead = body ∨ ahead = body ++ ['\\'] →
      let message := "unterminated string literal"
      lexer.Takes ('"' :: ahead) [] .error message (some ("E1002", message)) ∧
        lexer.next.2.next.1.token.isEnd) ∧
    ∀ (text : String) (document : DocumentId), Lexeme.bodies text.toList ≠ [] ∧
      ∀ body ∈ Lexeme.bodies text.toList,
        (∀ rest, ahead = body ++ '"' :: rest →
          lexer.Takes ('"' :: body ++ ['"']) rest (.literal .string) text none) ∧
        (tokenize ('"' :: body ++ ['"']) document).toList.map (·.token.content) =
            [(.literal .string, text), (.endOfInput, "")] ∧
          (({} : Findings).addAll (tokenize ('"' :: body ++ ['"']) document)).toList = [] := by
  have hClosedBroken : Closed ahead → ¬ Broken ahead := by
    rintro ⟨_, _, _, items, hText⟩ ⟨_, _, _, _, items', hOther, hText'⟩
    have takes := Lexer.takes_broken hAhead items' hOther hText'
    exact nomatch ((Lexer.takes_closed hAhead items hText).unique takes).1
  have hClosedUnclosed : Closed ahead → ¬ Unclosed ahead := by
    rintro ⟨_, _, _, items, hText⟩ ⟨_, _, items', hText'⟩
    have takes := Lexer.takes_unclosed hAhead items' hText'
    exact nomatch ((Lexer.takes_closed hAhead items hText).unique takes).1
  have hBrokenUnclosed : Broken ahead → ¬ Unclosed ahead := by
    rintro ⟨_, _, _, _, items, hOther, hText⟩ ⟨_, _, items', hText'⟩
    have takes := Lexer.takes_unclosed hAhead items' hText'
    have hReport := ((Lexer.takes_broken hAhead items hOther hText).unique takes).2
    simp at hReport
  refine ⟨?_, fun _ _ _ => Lexer.takes_closed hAhead, fun _ _ _ _ => Lexer.takes_broken hAhead,
    ?_, ?_⟩
  · rcases Lexeme.closed_or_broken_or_unclosed ahead with h | h | h
    · exact .inl ⟨h, hClosedBroken h, hClosedUnclosed h⟩
    · exact .inr (.inl ⟨fun h' => hClosedBroken h' h, h, hBrokenUnclosed h⟩)
    · exact .inr (.inr ⟨fun h' => hClosedUnclosed h' h, fun h' => hBrokenUnclosed h' h, h⟩)
  · intro body content items hText
    have takes := Lexer.takes_unclosed hAhead items hText
    exact ⟨takes, Lexer.isEnd_next_of_rest_eq_nil takes.left⟩
  · intro text document
    refine ⟨Lexeme.bodies_ne_nil _, fun body hBody => ⟨fun rest hText => ?_,
      content_tokenize_of_mem_bodies hBody document⟩⟩
    have takes := Lexer.takes_closed hAhead (Lexeme.mem_bodies_iff.1 hBody) hText
    rwa [String.ofList_toList] at takes

/-- The second token of a text: both an escaped backslash and an escaped quote stand before the
quote that closes the literal, and a line feed that is written as it is. -/
theorem literal_of_quote_escapedQuote :
    let lexer := (Lexer.ofStream "x \"\\\\\\\"\n\" y".toList).next.2
    let body := ['\\', '\\', '\\', '"', '\n']
    lexer.begin.cursor.rest = '"' :: (body ++ '"' :: [' ', 'y']) ∧
    lexer.Takes ('"' :: body ++ ['"']) [' ', 'y'] (.literal .string) "\\\"\n" none := by
  intro lexer body
  have hAhead : lexer.begin.cursor.rest = '"' :: (body ++ '"' :: [' ', 'y']) := by decide +kernel
  obtain ⟨-, -, -, -, hText⟩ := literal_of_quote lexer _ hAhead
  exact ⟨hAhead, ((hText "\\\"\n" 0).2 body (by decide)).1 _ rfl⟩

end Coll

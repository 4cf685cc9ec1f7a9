import Coll.Proofs.Report.Flaws
import Coll.Proofs.Stream.Decoding
import Coll.Session.Run
import Mathlib

/-!
The two commands agree: `check` finds in any files just the errors that `tokens` prints for them one
by one. Both see the same flaws of the same decoded text, under whatever number a file is filed.
-/

namespace Coll.Session

open Logging (Event)
open Storage (Path.isStandardInput)

/-- A path leads to a file, whatever its bytes are. -/
def Surroundings.Readable (surroundings : Surroundings) (path : String) : Prop :=
  Path.isStandardInput path = false ∧ ∃ bytes, surroundings.storage path = .ok (.file bytes)

/-- The tokens that the command `tokens` prints for a path. -/
def printedTokens (surroundings : Surroundings) (includeEnd : Bool) (path : String) : List Token :=
  match openSource surroundings (some path) with
  | .error _ => []
  | .ok (reads, _) => (Dump.ofReads reads).tokens includeEnd

/-- The errors among the tokens that are printed for some paths one by one, each with its path. -/
def printedErrors (surroundings : Surroundings) (includeEnd : Bool) (paths : List String) :
    List (String × Token) :=
  paths.flatMap fun path =>
    ((printedTokens surroundings includeEnd path).filter (·.isError)).map (path, ·)

/-- A report of an error in a file, at the place of a token. -/
def ReportOf (file : String) (token : Token) (report : String) : Prop :=
  ∃ (d : Diagnostic) (excerpt : String), d.isError ∧ d.span.line = token.line ∧
    d.span.column = token.column ∧
    report = d.header ++ "\n  --> " ++ file ++ ":" ++ String.ofList (Text.decimal token.line) ++
      ":" ++ String.ofList (Text.decimal token.column) ++ excerpt

section Dumps

variable {surroundings : Surroundings} {path : String} {bytes : ByteArray}

theorem output_runTokens (surroundings : Surroundings) (path : String) (format : DumpFormat)
    (includeEnd : Bool) : (runTokens surroundings (some path) format includeEnd).output =
      String.ofList (tokenLines format (printedTokens surroundings includeEnd path)) := by
  unfold runTokens printedTokens
  cases openSource surroundings (some path) <;> rfl

theorem openSource_file (hFile : Path.isStandardInput path = false)
    (hBytes : surroundings.storage path = .ok (.file bytes)) :
    ∃ opened, openSource surroundings (some path) = .ok ([.data bytes.data.toList], opened) := by
  simp [openSource, readsOf, Option.filter, hFile, hBytes]

/-- What is decoded while a file is read is its text. -/
theorem toList_decoding_file (bytes : ByteArray) :
    CharStream.toList ({ reads := [.data bytes.data.toList] } : Decoding) =
      (Text.Utf8.decode bytes).text.toList := by
  have hArray : bytes.data.toList.toByteArray = bytes := by
    apply ByteArray.ext
    rw [List.data_toByteArray]
  rw [(Decoding.left_ofReads _).toList_eq, Reads.delivered_data, hArray]

/-- Leaving out the end token leaves out no error. -/
theorem filter_isError_tokens (dump : Dump) (includeEnd : Bool) :
    (dump.tokens includeEnd).filter (·.isError) =
      (dump.scanned.filter (·.token.isError)).map (·.token) := by
  rw [Dump.tokens, List.filter_filter, List.filter_map]
  congr 1
  apply List.filter_congr
  intro scanned _
  cases hKind : scanned.token.kind <;> simp [Token.isError, Token.isEnd, hKind]

/-- The errors that are printed for a file are the flaws of its text. -/
theorem printedTokens_file {pieces : List Piece} {last : List Char}
    (cut : Cut (Text.Utf8.decode bytes).text.toList pieces last) (includeEnd : Bool)
    (hFile : Path.isStandardInput path = false)
    (hBytes : surroundings.storage path = .ok (.file bytes)) :
    (printedTokens surroundings includeEnd path).filter (·.isError) =
      (flawsOf pieces last).map (·.token .start) := by
  obtain ⟨opened, hOpened⟩ := openSource_file hFile hBytes
  have hScanned : (Dump.ofReads [.data bytes.data.toList]).scanned =
      scannedFrom 0 .start pieces last := by
    rw [← toList_decoding_file] at cut
    exact cut.toList_drain_ofStream 0
  have hErrors := congrArg (List.map Prod.fst) (cut.errors_scannedFrom 0 .start)
  simp only [List.map_map] at hErrors
  rw [printedTokens, hOpened]
  exact (filter_isError_tokens _ includeEnd).trans (hScanned ▸ hErrors)

end Dumps

/-- A diagnostic is about the place of an error in the document that has the name of its file. -/
structure Located (catalog : Catalog) (d : Diagnostic) (error : String × Token) : Prop where
  isError : d.isError
  document : ∃ document, catalog.get d.span.document = .ok document ∧ document.name = error.1
  line : d.span.line = error.2.line
  column : d.span.column = error.2.column

theorem Located.add {catalog : Catalog} {d : Diagnostic} {error : String × Token}
    (located : Located catalog d error) (name content : String) :
    Located (catalog.add name content) d error where
  isError := located.isError
  document := by
    obtain ⟨document, hGet, hName⟩ := located.document
    exact ⟨document, Catalog.get_add_of_get hGet name content, hName⟩
  line := located.line
  column := located.column

/-- A diagnostic that is located is rendered with file, line and column. -/
theorem Located.reportOf {catalog : Catalog} {d : Diagnostic} {error : String × Token}
    (located : Located catalog d error) : ReportOf error.1 error.2 (catalog.render d) := by
  obtain ⟨document, hGet, hName⟩ := located.document
  obtain ⟨excerpt, hPlace⟩ : ∃ excerpt, catalog.place d.span = "\n  --> " ++ document.name ++ ":" ++
      String.ofList (Text.decimal d.span.line) ++ ":" ++
        String.ofList (Text.decimal d.span.column) ++ excerpt := by
    rw [Catalog.place, hGet]
    exact ⟨_, rfl⟩
  refine ⟨d, excerpt ++ String.join (d.helps.map Catalog.helpLine), located.isError, located.line,
    located.column, ?_⟩
  rw [Catalog.render, hPlace, hName, located.line, located.column]
  simp only [String.append_assoc]

/-- All that was found so far is located where the errors are. -/
def Checked.Tells (checked : Checked) (errors : List (String × Token)) : Prop :=
  List.Forall₂ (Located checked.catalog) checked.found.toList errors

/-- The reports for a text that comes in next are located at its flaws. -/
theorem located_reports {pieces : List Piece} {text last : List Char} (cut : Cut text pieces last)
    (catalog : Catalog) (name content : String) :
    List.Forall₂ (Located (catalog.add name content))
      ((tokenize text catalog.nextId).toList.flatMap (·.report.toList))
      (((flawsOf pieces last).map (·.token .start)).map (name, ·)) := by
  have hReports := cut.reports_scannedFrom catalog.nextId .start
  rw [← cut.toList_tokenize, ← List.forall₂_eq_eq_eq, List.forall₂_map_left_iff,
    List.forall₂_map_right_iff] at hReports
  rw [List.map_map, List.forall₂_map_right_iff]
  refine hReports.imp fun d flaw hSame => ?_
  simp only [Prod.mk.injEq] at hSame
  obtain ⟨hSeverity, -, hSpan⟩ := hSame
  refine ⟨beq_iff_eq.2 hSeverity, ?_, congrArg Span.line hSpan, congrArg Span.column hSpan⟩
  have hDocument : d.span.document = catalog.nextId := congrArg Span.document hSpan
  rw [hDocument, Catalog.get_add_nextId]
  exact ⟨_, rfl, rfl⟩

/-- Checking one more file finds the errors that are printed for it. -/
theorem Checked.Tells.add {checked : Checked} {errors : List (String × Token)}
    (tells : checked.Tells errors) {surroundings : Surroundings} {path : String}
    {bytes : ByteArray} (hFile : Path.isStandardInput path = false)
    (hBytes : surroundings.storage path = .ok (.file bytes)) (includeEnd : Bool) :
    (checked.add path bytes).Tells (errors ++ printedErrors surroundings includeEnd [path]) := by
  obtain ⟨pieces, last, cut⟩ := exists_cut (Text.Utf8.decode bytes).text.toList
  have hNew := located_reports cut checked.catalog path (Text.Utf8.decode bytes).text
  have hOld := List.Forall₂.imp (fun d error located =>
    Located.add located path (Text.Utf8.decode bytes).text) tells
  rw [Tells, printedErrors, List.flatMap_singleton, printedTokens_file cut includeEnd hFile hBytes]
  change List.Forall₂ _ (checked.found.addAll _).toList _
  rw [Findings.toList_addAll]
  exact List.rel_append hOld hNew

/-- Of files that can be read all are checked. -/
theorem checkSources_readable {surroundings : Surroundings} (includeEnd : Bool)
    {paths : List String} (hReadable : ∀ path ∈ paths, surroundings.Readable path)
    {checked : Checked} {errors : List (String × Token)} (tells : checked.Tells errors)
    (inputLeft : Bool) :
    ∃ found, checkSources surroundings inputLeft paths checked = (found, none) ∧
      found.Tells (errors ++ printedErrors surroundings includeEnd paths) := by
  induction paths generalizing checked errors inputLeft with
  | nil =>
      refine ⟨checked, rfl, ?_⟩
      rw [printedErrors, List.flatMap_nil, List.append_nil]
      exact tells
  | cons path paths ih =>
      obtain ⟨⟨hFile, bytes, hBytes⟩, hRest⟩ := List.forall_mem_cons.1 hReadable
      have hSource : readSource surroundings inputLeft path = .ok (path, bytes) := by
        simp [readSource, Storage.Lookup.bytes, hFile, hBytes]
      obtain ⟨found, hFound, hTells⟩ := ih hRest (tells.add hFile hBytes includeEnd)
        (inputLeft && !Path.isStandardInput path)
      refine ⟨found, ?_, ?_⟩
      · rw [checkSources, hSource]
        exact hFound
      · have hErrors : printedErrors surroundings includeEnd (path :: paths) =
            printedErrors surroundings includeEnd [path] ++
              printedErrors surroundings includeEnd paths := by
          simp only [printedErrors, List.flatMap_cons, List.flatMap_nil, List.append_nil]
        rw [hErrors, ← List.append_assoc]
        exact hTells

theorem Checked.Tells.size_eq {checked : Checked} {errors : List (String × Token)}
    (tells : checked.Tells errors) : checked.found.size = errors.length :=
  tells.length_eq

/-- Everything that is found is an error. -/
theorem Checked.Tells.errorCount_eq {checked : Checked} {errors : List (String × Token)}
    (tells : checked.Tells errors) : checked.found.errorCount = errors.length := by
  have hAll : ∀ d ∈ checked.found.toList, d.isError := by
    intro d hd
    obtain ⟨i, hi, rfl⟩ := List.getElem_of_mem hd
    have hLength := tells.length_eq
    exact (tells.get hi (hLength ▸ hi)).isError
  rw [Findings.errorCount_eq, List.countP_eq_length.2 hAll]
  exact tells.length_eq

/-- The reports that are shown are those of the first errors. -/
theorem Checked.Tells.shown {checked : Checked} {errors : List (String × Token)}
    (tells : checked.Tells errors) (limit : Nat) :
    List.Forall₂ (fun report error => ReportOf error.1 error.2 report) (checked.shown limit)
      (errors.take (Checked.shownCount limit errors.length)) := by
  rw [Checked.shown, tells.size_eq, List.forall₂_map_left_iff]
  exact (List.forall₂_take _ tells).imp fun _ _ located => located.reportOf

/-- What `check` writes and returns when all its sources can be read. -/
theorem runCheck_of_checkSources {surroundings : Surroundings} {paths : List String}
    {found : Checked} (hSome : paths ≠ [])
    (hFound : checkSources surroundings true paths {} = (found, none)) (limit : Nat) :
    ∃ after : List Event,
      (runCheck surroundings paths limit).messages = found.events.toList.map .event ++
        .text (found.report limit) :: after.map .event ∧
      (runCheck surroundings paths limit).output = "" ∧
      (runCheck surroundings paths limit).result =
        if 0 < found.found.errorCount then .error (.lexicalErrors found.found.errorCount)
        else .ok () := by
  have hPaths : paths.isEmpty = false := by simpa using hSome
  unfold runCheck
  simp only [hPaths, Bool.false_eq_true, if_false, hFound]
  by_cases hErrors : 0 < found.found.errorCount
  · rw [if_pos hErrors, if_pos hErrors]
    exact ⟨[], rfl, rfl, rfl⟩
  · rw [if_neg hErrors, if_neg hErrors]
    exact ⟨[found.cleanEvent], rfl, rfl, rfl⟩

/-- The two commands agree on files that can be read. With a limit `check` shows the first of the
errors that `tokens` prints, each with its file, line and column, and then tells how many it left
out; it fails just when there are any, and tells their number. -/
theorem check_agrees_with_tokens {surroundings : Surroundings} {paths : List String}
    (hSome : paths ≠ []) (hReadable : ∀ path ∈ paths, surroundings.Readable path)
    (limit : Nat) (includeEnd : Bool) :
    let errors := printedErrors surroundings includeEnd paths
    let shown := if limit = 0 then errors.length else min limit errors.length
    let progress := runCheck surroundings paths limit
    (∀ path ∈ paths, ∀ format,
      (runTokens surroundings (some path) format includeEnd).result = .ok () ∧
      (runTokens surroundings (some path) format includeEnd).output =
        String.ofList (tokenLines format (printedTokens surroundings includeEnd path))) ∧
    (∃ (before : List Event) (reports : List String) (after : List Event),
      reports.length = shown ∧
      List.Forall₂ (fun report error => ReportOf error.1 error.2 report) reports
        (errors.take shown) ∧
      progress.messages = before.map .event ++
        .text (String.join (reports.map (· ++ "\n\n")) ++
          if 0 < errors.length - shown then
            "note: " ++ Event.number (errors.length - shown) ++ " more diagnostic(s) not shown\n"
          else "") :: after.map .event) ∧
    ∀ render, progress.outcome render =
      if errors = [] then
        { exitCode := 0, output := "", errors := String.join (progress.messages.map render) }
      else
        { exitCode := 1
          output := ""
          errors := String.join (progress.messages.map render) ++ "error: " ++
            ("aborting due to " ++ Event.number errors.length ++ " lexical error(s)") ++
            "\n" } := by
  intro errors shown progress
  have hNone : Checked.Tells {} [] := List.Forall₂.nil
  obtain ⟨found, hFound, tells⟩ := checkSources_readable includeEnd hReadable hNone true
  change found.Tells errors at tells
  obtain ⟨after, hMessages, hOutput, hResult⟩ := runCheck_of_checkSources hSome hFound limit
  refine ⟨?_, ?_, ?_⟩
  · intro path hPath format
    obtain ⟨hFile, bytes, hBytes⟩ := hReadable path hPath
    obtain ⟨opened, hOpened⟩ := openSource_file hFile hBytes
    refine ⟨?_, output_runTokens surroundings path format includeEnd⟩
    rw [runTokens, hOpened]
  · have hShown : List.Forall₂ (fun report error => ReportOf error.1 error.2 report)
        (found.shown limit) (errors.take shown) := tells.shown limit
    have hHidden : found.hiddenCount limit = errors.length - shown := by
      rw [Checked.hiddenCount, tells.size_eq]
      rfl
    have hLe : shown ≤ errors.length := by
      simp only [shown]
      split <;> omega
    refine ⟨found.events.toList, found.shown limit, after, ?_, hShown, ?_⟩
    · rw [hShown.length_eq, List.length_take, Nat.min_eq_left hLe]
    · rw [← hHidden]
      exact hMessages
  · intro render
    rw [tells.errorCount_eq] at hResult
    change (runCheck surroundings paths limit).outcome render = _
    by_cases hErrors : errors = []
    · rw [if_neg (by simp [hErrors])] at hResult
      rw [if_pos hErrors, Progress.outcome, hResult, hOutput]
    · rw [if_pos (List.length_pos_iff.2 hErrors)] at hResult
      rw [if_neg hErrors, Progress.outcome, hResult, hOutput]
      rfl

/-- Two files: one with errors in two lines before bytes that are no text, one with a literal that
is not closed. -/
def brokenFiles : Surroundings where
  arguments := []
  environment _ := none
  storage path :=
    if path = "a" then .ok (.file ⟨#[0x40, 0x0A, 0x20, 0x24, 0xFF, 0x24]⟩)
    else if path = "b" then .ok (.file ⟨#[0x22, 0x78]⟩)
    else .error .missing
  input := []
  home := none
  configuration := none
  time := ""

theorem check_agrees_with_tokens_brokenFiles :
    ["a", "b"] ≠ [] ∧
    (∀ path ∈ ["a", "b"], brokenFiles.Readable path) ∧
    (∃ reports : List String, reports.length = 2 ∧
      List.Forall₂ (fun report error => ReportOf error.1 error.2 report) reports
        [("a", ⟨.error, "@", 1, 1⟩), ("a", ⟨.error, "$", 2, 2⟩)]) ∧
    ((runCheck brokenFiles ["a", "b"] 2).outcome fun _ => "").exitCode = 1 := by
  have hSome : ["a", "b"] ≠ [] := List.cons_ne_nil _ _
  have hFirst : Path.isStandardInput "a" = false := by cbv
  have hSecond : Path.isStandardInput "b" = false := by cbv
  have hFirstBytes : brokenFiles.storage "a" =
      .ok (.file ⟨#[0x40, 0x0A, 0x20, 0x24, 0xFF, 0x24]⟩) := rfl
  have hSecondBytes : brokenFiles.storage "b" = .ok (.file ⟨#[0x22, 0x78]⟩) := rfl
  have hReadable : ∀ path ∈ ["a", "b"], brokenFiles.Readable path := by
    intro path hPath
    rcases List.mem_pair.1 hPath with rfl | rfl
    · exact ⟨hFirst, _, hFirstBytes⟩
    · exact ⟨hSecond, _, hSecondBytes⟩
  have hErrors : printedErrors brokenFiles false ["a", "b"] =
      [("a", ⟨.error, "@", 1, 1⟩), ("a", ⟨.error, "$", 2, 2⟩),
        ("b", ⟨.error, "unterminated string literal", 1, 1⟩)] := by
    obtain ⟨_, hOpened⟩ := openSource_file hFirst hFirstBytes
    obtain ⟨_, hOpened'⟩ := openSource_file hSecond hSecondBytes
    simp only [printedErrors, printedTokens, List.flatMap_cons, List.flatMap_nil, hOpened,
      hOpened']
    decide +kernel
  obtain ⟨-, ⟨before, reports, after, hLength, hReports, -⟩, hOutcome⟩ :=
    check_agrees_with_tokens hSome hReadable 2 false
  rw [hErrors] at hLength hReports hOutcome
  refine ⟨hSome, hReadable, ⟨reports, hLength, hReports⟩, ?_⟩
  rw [hOutcome]
  rfl

end Coll.Session

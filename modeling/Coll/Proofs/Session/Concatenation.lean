import Coll.Proofs.Report.Flaws
import Coll.Proofs.Report.Likeness
import Coll.Proofs.Session.Agreement

/-!
Checking several sources is checking each. The documents of a run share one catalog and its errors
one list, and yet the reports of a source are those of a run that checks nothing else: they depend
on its name and its bytes alone.
-/

namespace Coll

namespace Session

open Logging (Event)
open Storage (Path.isStandardInput)

/-- The reports that are shown when some sources are checked without a limit. -/
def reportsOf (surroundings : Surroundings) (paths : List String) : List String :=
  (checkSources surroundings true paths {}).1.shown 0

/-- How many errors are counted when some sources are checked. -/
def errorsOf (surroundings : Surroundings) (paths : List String) : Nat :=
  (checkSources surroundings true paths {}).1.found.errorCount

/-- Some sources that can all be read. Standard input is among them once at most, because it is over
once it has been read. -/
structure Checkable (surroundings : Surroundings) (paths : List String) : Prop where
  nonempty : paths ≠ []
  readable : ∀ path ∈ paths, ∃ name bytes,
    readSource surroundings true path = .ok (name, bytes)
  inputOnce : paths.countP Path.isStandardInput ≤ 1

/-- A run of `check` that writes just these reports and fails with the number of errors, unless that
is 0. -/
structure Writes (progress : Progress Unit) (reports : List String) (count : Nat) : Prop where
  output : progress.output = ""
  messages : ∃ before after : List Event, progress.messages =
    before.map .event ++ .text (String.join (reports.map (· ++ "\n\n"))) :: after.map .event
  result : progress.result = if count = 0 then .ok () else .error (.lexicalErrors count)

namespace Checked

/-- Without a limit all that was found is shown. -/
theorem shown_zero (checked : Checked) :
    checked.shown 0 = checked.found.toList.map checked.catalog.render := by
  have hAll : checked.found.toList.take checked.found.size = checked.found.toList :=
    List.take_of_length_le (Nat.le_refl _)
  rw [shown, shownCount, if_pos rfl, hAll]

/-- What is found in one source if nothing else is checked. -/
def alone (name : String) (bytes : ByteArray) : Checked := ({} : Checked).add name bytes

/-- What was found so far: everything is about a document that has come in, so the reports are there
already, and more documents do not change them. -/
structure Collects (checked : Checked) (reports : List String) (count : Nat) : Prop where
  known : ∀ d ∈ checked.found.toList, ∃ document,
    checked.catalog.get d.span.document = .ok document
  reports : checked.found.toList.map checked.catalog.render = reports
  count : checked.found.errorCount = count

theorem collects_empty : ({} : Checked).Collects [] 0 := ⟨nofun, rfl, rfl⟩

theorem toList_found_add (checked : Checked) (name : String) (bytes : ByteArray) :
    (checked.add name bytes).found.toList = checked.found.toList ++
      reportsOn (Text.Utf8.decode bytes).text.toList checked.catalog.nextId :=
  checked.found.toList_addAll _

/-- What one more source adds is what is found in it alone. -/
theorem Collects.add {checked : Checked} {reports : List String} {count : Nat}
    (collects : checked.Collects reports count) (name : String) (bytes : ByteArray) :
    (checked.add name bytes).Collects (reports ++ (alone name bytes).shown 0)
      (count + (alone name bytes).found.errorCount) := by
  let content := (Text.Utf8.decode bytes).text
  let document (id : DocumentId) : Document := { id, name, content }
  have hFound := checked.toList_found_add name bytes
  have hAlone := ({} : Checked).toList_found_add name bytes
  rw [Findings.toList_empty, List.nil_append] at hAlone
  have hAlike := alike_tokenize content.toList checked.catalog.nextId 0
  have hName : (document checked.catalog.nextId).name = (document 0).name := rfl
  have hLine : ∀ line, (document checked.catalog.nextId).line line = (document 0).line line :=
    fun _ => rfl
  refine ⟨?_, ?_, ?_⟩
  · intro d hd
    rw [hFound] at hd
    rcases List.mem_append.1 hd with hd | hd
    · obtain ⟨document, hKnown⟩ := collects.known d hd
      exact ⟨document, Catalog.get_add_of_get hKnown name _⟩
    · rw [document_of_mem_reportsOn hd]
      exact ⟨_, checked.catalog.get_add_nextId name _⟩
  · have hOld : checked.found.toList.map (checked.add name bytes).catalog.render = reports := by
      rw [← collects.reports]
      refine List.map_congr_left fun d hd => ?_
      obtain ⟨document, hKnown⟩ := collects.known d hd
      exact Catalog.render_add_of_get hKnown name _
    have hNew := Catalog.map_render_reportsOn (checked.catalog.get_add_nextId name content)
      (({} : Catalog).get_add_nextId name content) hName hLine hAlike
    rw [shown_zero, hFound, List.map_append, hOld, alone, hAlone]
    exact congrArg (reports ++ ·) hNew
  · have hCount := countP_isError_of_alike (alike_reportsOn hAlike)
    rw [Findings.errorCount_eq, Findings.errorCount_eq, hFound, List.countP_append, alone, hAlone,
      hCount, ← collects.count]
    rfl

end Checked

section Runs

variable {surroundings : Surroundings} {path name : String} {paths : List String}
  {bytes : ByteArray}

theorem checkSources_singleton (hSource : readSource surroundings true path = .ok (name, bytes)) :
    checkSources surroundings true [path] {} = (Checked.alone name bytes, none) := by
  rw [checkSources, hSource]
  rfl

/-- Sources that can be read are checked one after the other, and each adds what a run of its own
finds in it. -/
theorem collects_checkSources {inputLeft : Bool}
    (hReadable : ∀ path ∈ paths, ∃ name bytes,
      readSource surroundings true path = .ok (name, bytes))
    (hInput : paths.countP Path.isStandardInput ≤ inputLeft.toNat)
    {checked : Checked} {reports : List String} {count : Nat}
    (collects : checked.Collects reports count) :
    ∃ found, checkSources surroundings inputLeft paths checked = (found, none) ∧
      found.Collects (reports ++ paths.flatMap fun path => reportsOf surroundings [path])
        (count + (paths.map fun path => errorsOf surroundings [path]).sum) := by
  induction paths generalizing checked reports count inputLeft with
  | nil =>
      refine ⟨checked, rfl, ?_⟩
      rw [List.flatMap_nil, List.append_nil]
      exact collects
  | cons path paths ih =>
      obtain ⟨⟨name, bytes, hSource⟩, hRest⟩ := List.forall_mem_cons.1 hReadable
      rw [List.countP_cons] at hInput
      -- standard input has not been read if it is what comes next
      have hHere : readSource surroundings inputLeft path = .ok (name, bytes) := by
        cases inputLeft with
        | true => exact hSource
        | false =>
            have hFile : Path.isStandardInput path = false := by
              cases hPath : Path.isStandardInput path <;> simp_all
            simpa [readSource, hFile] using hSource
      have hLeft : paths.countP Path.isStandardInput ≤
          (inputLeft && !Path.isStandardInput path).toNat := by
        cases hPath : Path.isStandardInput path <;> cases inputLeft <;> simp_all
      obtain ⟨found, hFound, hCollects⟩ := ih hRest hLeft (collects.add name bytes)
      refine ⟨found, ?_, ?_⟩
      · rw [checkSources, hHere]
        exact hFound
      · have hAlone := checkSources_singleton hSource
        simpa [reportsOf, errorsOf, hAlone, Nat.add_assoc] using hCollects

/-- What is shown and counted of checkable sources is what is shown and counted of each. -/
theorem Checkable.run (checkable : Checkable surroundings paths) :
    (reportsOf surroundings paths = paths.flatMap fun path => reportsOf surroundings [path]) ∧
    (errorsOf surroundings paths = (paths.map fun path => errorsOf surroundings [path]).sum) ∧
    Writes (runCheck surroundings paths 0) (reportsOf surroundings paths)
      (errorsOf surroundings paths) := by
  have hInput : paths.countP Path.isStandardInput ≤ true.toNat := checkable.inputOnce
  obtain ⟨found, hFound, collects⟩ :=
    collects_checkSources checkable.readable hInput Checked.collects_empty
  obtain ⟨after, hMessages, hOutput, hResult⟩ :=
    runCheck_of_checkSources checkable.nonempty hFound 0
  have hReports : reportsOf surroundings paths = found.shown 0 := by rw [reportsOf, hFound]
  have hErrors : errorsOf surroundings paths = found.found.errorCount := by rw [errorsOf, hFound]
  refine ⟨?_, ?_, hOutput, ⟨found.events.toList, after, ?_⟩, ?_⟩
  · rw [hReports, Checked.shown_zero, collects.reports, List.nil_append]
  · rw [hErrors, collects.count, Nat.zero_add]
  · have hHidden : found.hiddenCount 0 = 0 := Nat.sub_self _
    rw [hMessages, hReports, Checked.report, hHidden]
    simp
  · rw [hResult, hErrors]
    split <;> simp_all
    omega

/-- In another order sources are checkable as well. -/
theorem Checkable.perm {others : List String} (checkable : Checkable surroundings paths)
    (hOthers : others.Perm paths) : Checkable surroundings others where
  nonempty := by
    rintro rfl
    exact checkable.nonempty hOthers.symm.eq_nil
  readable path hPath := checkable.readable path (hOthers.subset hPath)
  inputOnce := hOthers.countP_eq _ ▸ checkable.inputOnce

/-- So is each of them by itself. -/
theorem Checkable.singleton (checkable : Checkable surroundings paths) (hPath : path ∈ paths) :
    Checkable surroundings [path] where
  nonempty := List.cons_ne_nil _ _
  readable := by
    intro other hOther
    exact checkable.readable other (List.mem_singleton.1 hOther ▸ hPath)
  inputOnce := List.countP_le_length

theorem Writes.result_eq_ok_iff {progress : Progress Unit} {reports : List String} {count : Nat}
    (writes : Writes progress reports count) : progress.result = .ok () ↔ count = 0 := by
  rw [writes.result]
  split <;> simp_all

end Runs

/-- Checking several sources is checking each. In whatever order they are given, the reports that
are written are those of the first source, then those of the second and so on, each as it is written
when its source is checked alone, and the errors are as many as in all of them together; so the run
succeeds just when it does for each source. What is reported of a source depends on nothing but its
name and its bytes. -/
theorem check_concatenates {surroundings : Surroundings} {paths : List String}
    (checkable : Checkable surroundings paths) :
    (∀ others : List String, others.Perm paths →
      Writes (runCheck surroundings others 0) (reportsOf surroundings others)
        (errorsOf surroundings others) ∧
      (reportsOf surroundings others =
        others.flatMap fun path => reportsOf surroundings [path]) ∧
      errorsOf surroundings others =
        (paths.map fun path => errorsOf surroundings [path]).sum) ∧
    (∀ path ∈ paths, Writes (runCheck surroundings [path] 0) (reportsOf surroundings [path])
      (errorsOf surroundings [path])) ∧
    ((runCheck surroundings paths 0).result = .ok () ↔
      ∀ path ∈ paths, (runCheck surroundings [path] 0).result = .ok ()) ∧
    ∀ path ∈ paths, ∀ elsewhere : Surroundings,
      readSource elsewhere true path = readSource surroundings true path →
      reportsOf elsewhere [path] = reportsOf surroundings [path] ∧
        errorsOf elsewhere [path] = errorsOf surroundings [path] := by
  refine ⟨?_, ?_, ?_, ?_⟩
  · intro others hOthers
    obtain ⟨hReports, hErrors, writes⟩ := (checkable.perm hOthers).run
    exact ⟨writes, hReports, hErrors.trans (hOthers.map _).sum_eq⟩
  · intro path hPath
    exact (checkable.singleton hPath).run.2.2
  · obtain ⟨-, hErrors, writes⟩ := checkable.run
    rw [writes.result_eq_ok_iff, hErrors, List.sum_eq_zero_iff, List.forall_mem_map]
    refine forall₂_congr fun path hPath => ?_
    exact (checkable.singleton hPath).run.2.2.result_eq_ok_iff.symm
  · intro path hPath elsewhere hSame
    obtain ⟨name, bytes, hSource⟩ := checkable.readable path hPath
    have hHere := checkSources_singleton hSource
    have hElsewhere := checkSources_singleton (hSame.trans hSource)
    exact ⟨by rw [reportsOf, reportsOf, hHere, hElsewhere],
      by rw [errorsOf, errorsOf, hHere, hElsewhere]⟩

/-- A file twice, before and after standard input, each with an error. -/
theorem check_concatenates_repeatedFile :
    let surroundings : Surroundings := { brokenFiles with input := [.data [0x0A, 0x26]] }
    let inputReport := "error[E1005]: unsupported operator `&`\n" ++
      "  --> <stdin>:2:1\n  2 | &\n    | ^\n  = help: use `&&` for logical and"
    let fileReport := "error[E1002]: unterminated string literal\n" ++
      "  --> b:1:1\n  1 | \"x\n    | ^^\n  = help: add a closing `\"`"
    Checkable surroundings ["b", "-", "b"] ∧
    ["-", "b", "b"].Perm ["b", "-", "b"] ∧
    reportsOf surroundings ["-", "b", "b"] = [inputReport, fileReport, fileReport] ∧
    (runCheck surroundings ["-", "b", "b"] 0).result = .error (.lexicalErrors 3) := by
  intro surroundings inputReport fileReport
  have hInput : Path.isStandardInput "-" = true := by cbv
  have hFile : Path.isStandardInput "b" = false := by cbv
  have hInputSource : readSource surroundings true "-" = .ok (inputName, ⟨#[0x0A, 0x26]⟩) := by
    simp only [readSource, hInput, if_true]
    rfl
  have hFileSource : readSource surroundings true "b" = .ok ("b", ⟨#[0x22, 0x78]⟩) := by
    simp only [readSource, hFile, Bool.false_eq_true, if_false]
    rfl
  have checkable : Checkable surroundings ["b", "-", "b"] := by
    refine ⟨List.cons_ne_nil _ _, ?_, by simp [hInput, hFile]⟩
    intro path hPath
    simp only [List.mem_cons, List.not_mem_nil, or_false] at hPath
    rcases hPath with rfl | rfl | rfl
    · exact ⟨_, _, hFileSource⟩
    · exact ⟨_, _, hInputSource⟩
    · exact ⟨_, _, hFileSource⟩
  have hOthers : ["-", "b", "b"].Perm ["b", "-", "b"] := .swap "b" "-" ["b"]
  have hInputAlone : reportsOf surroundings ["-"] = [inputReport] ∧
      errorsOf surroundings ["-"] = 1 := by
    rw [reportsOf, errorsOf, checkSources_singleton hInputSource]
    decide +kernel
  have hFileAlone : reportsOf surroundings ["b"] = [fileReport] ∧
      errorsOf surroundings ["b"] = 1 := by
    rw [reportsOf, errorsOf, checkSources_singleton hFileSource]
    decide +kernel
  obtain ⟨hRun, -⟩ := check_concatenates checkable
  obtain ⟨writes, hReports, hErrors⟩ := hRun _ hOthers
  refine ⟨checkable, hOthers, ?_, ?_⟩
  · simp [hReports, hInputAlone.1, hFileAlone.1]
  · rw [writes.result, hErrors]
    simp [hInputAlone.2, hFileAlone.2]

end Session

end Coll

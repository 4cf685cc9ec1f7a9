import Coll.Report.Catalog
import Coll.Session.Dump

/-!
The command `check`: the lexical errors of any number of sources, each shown in its line.
-/

namespace Coll.Session

open Logging (Event)

/-- What is told about a source that is no UTF-8 from byte `offset` on. -/
def malformedEvent (name : String) (offset : Nat) : Event where
  level := .warn
  component := .check
  message := "invalid UTF-8 in source, treating as end of input"
  fields := [("file", Event.quoted name), ("offset", Event.number offset)]

/-- What is told about a source with `count` tokens. -/
def scannedEvent (name : String) (count : Nat) : Event where
  level := .debug
  component := .check
  message := "lexed source"
  fields := [("file", Event.quoted name), ("tokens", Event.number count)]

/-- The sources checked so far, with all that was found in them and told about them. -/
structure Checked where
  catalog : Catalog := {}
  found : Findings := {}
  events : Array Event := #[]

namespace Checked

/-- Checks one more source. Of bytes that are no UTF-8 the well-formed beginning is checked. -/
def add (checked : Checked) (name : String) (bytes : ByteArray) : Checked :=
  let beginning := Text.Utf8.decode bytes
  let scanned := tokenize beginning.text.toList checked.catalog.nextId
  let malformed :=
    if beginning.size < bytes.size then [malformedEvent name beginning.size] else []
  { catalog := checked.catalog.add name beginning.text
    found := checked.found.addAll scanned
    events := checked.events ++ malformed ++ tokenEvents scanned.toList ++
      [scannedEvent name (scanned.toList.countP (!·.token.isEnd))] }

/-- How many of `count` diagnostics are shown under a limit, where 0 is no limit. -/
def shownCount (limit count : Nat) : Nat := if limit = 0 then count else min limit count

def shown (checked : Checked) (limit : Nat) : List String :=
  (checked.found.toList.take (shownCount limit checked.found.size)).map checked.catalog.render

def hiddenCount (checked : Checked) (limit : Nat) : Nat :=
  checked.found.size - shownCount limit checked.found.size

/-- The reports, an empty line after each, and a note on what is not shown. -/
def report (checked : Checked) (limit : Nat) : String :=
  String.join ((checked.shown limit).map (· ++ "\n\n")) ++
    if 0 < checked.hiddenCount limit then
      "note: " ++ Event.number (checked.hiddenCount limit) ++ " more diagnostic(s) not shown\n"
    else ""

/-- What is told in the end if nothing was found. -/
def cleanEvent (checked : Checked) : Event where
  level := .info
  component := .check
  message := "no lexical errors"
  fields := [("files", Event.number checked.catalog.size)]

end Checked

end Coll.Session

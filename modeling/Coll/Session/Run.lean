import Coll.Logging.Filter
import Coll.Session.Check
import Coll.Session.Configuration
import Coll.Session.Source

/-!
A run of the program as a function of what surrounds it, and what of this it will want to read.
-/

namespace Coll.Session

open CommandLine (Task Environment Request)
open Logging (Filter)

def runTokens (surroundings : Surroundings) (file : Option String) (format : DumpFormat)
    (includeEnd : Bool) : Progress Unit :=
  match openSource surroundings file with
  | .error failure => { result := .error failure }
  | .ok (reads, opened) =>
    let dump := Dump.ofReads reads
    let tokens := dump.tokens includeEnd
    { output := String.ofList (tokenLines format tokens)
      messages := (opened :: dump.events ++ [dump.finishedEvent tokens.length]).map .event
      result := .ok () }

/-- Checks sources one after the other, up to the first that cannot be read. -/
def checkSources (surroundings : Surroundings) :
    Bool → List String → Checked → Checked × Option RunFailure
  | _, [], checked => (checked, none)
  | inputLeft, path :: paths, checked =>
    match readSource surroundings inputLeft path with
    | .error failure => (checked, some failure)
    | .ok (name, bytes) =>
      let inputLeft := inputLeft && !Storage.Path.isStandardInput path
      checkSources surroundings inputLeft paths (checked.add name bytes)

/-- Runs the command `check`. Without sources standard input is checked. -/
def runCheck (surroundings : Surroundings) (files : List String) (limit : Nat) : Progress Unit :=
  let files := if files.isEmpty then ["-"] else files
  let (checked, unreadable) := checkSources surroundings true files {}
  let events := checked.events.toList.map Message.event
  match unreadable with
  | some failure => { messages := events, result := .error failure }
  | none =>
    let errors := checked.found.errorCount
    let report := Message.text (checked.report limit)
    if 0 < errors then
      { messages := events ++ [report], result := .error (.lexicalErrors errors) }
    else { messages := events ++ [report, .event checked.cleanEvent], result := .ok () }

/-- Runs a task. What the command line leaves open, the settings decide. -/
def runTask (surroundings : Surroundings) (settings : Settings) : Task → Progress Unit
  | .tokens file format includeEnd =>
    runTokens surroundings file (format.getD settings.format) (includeEnd || settings.includeEnd)
  | .check files maxErrors => runCheck surroundings files (maxErrors.getD settings.maxErrors)

def runConfigured (surroundings : Surroundings) (config : Option String) (task : Task) :
    Progress Unit :=
  match loadSettings surroundings config with
  | .error failure => { result := .error failure }
  | .ok (settings, path) =>
    let progress := runTask surroundings settings task
    { progress with
      messages := path.toList.map (.event <| settingsEvent ·) ++ progress.messages }

/-- What is told: what the environment says, or else what was asked for on the command line. -/
def filterFor (environment : Environment) (verbose : Bool) : Filter :=
  ((environment "COLLC_LOG").bind Filter.ofText?).getD
    (Filter.upTo (if verbose then .debug else .info))

/-- A message as it is written, if the filter admits it. -/
def Message.render (filter : Filter) (colours : Bool) (time : String) : Message → String
  | event e => if filter.admits e then e.render colours time else ""
  | text t => t

/-- What a finished run leaves behind. A failure is written last. -/
def Progress.outcome (progress : Progress Unit) (render : Message → String) : Outcome :=
  let written := String.join (progress.messages.map render)
  match progress.result with
  | .ok () => { exitCode := 0, output := progress.output, errors := written }
  | .error failure =>
    { exitCode := 1
      output := progress.output
      errors := written ++ "error: " ++ failure.message ++ "\n" }

def programName : String := "collc"

def programVersion : String := "0.1.0"

def usage : String :=
  "usage: collc [-v] [-c PATH] [--no-color] [-V] tokens [FILE] [-F text|json] [--include-eof]\n" ++
  "       collc [-v] [-c PATH] [--no-color] [-V] check [FILE...] [--max-errors N]\n"

/-- The program and its version; a command has its name added to that of the program. -/
def versionLine (verb : Option CommandLine.Verb) : String :=
  let name :=
    match verb with
    | none => programName
    | some verb => programName ++ "-" ++ verb.name
  name ++ " " ++ programVersion ++ "\n"

def run (surroundings : Surroundings) : Outcome :=
  match CommandLine.request surroundings.environment surroundings.arguments with
  | .error error => { exitCode := 2, errors := "error: " ++ error.message ++ "\n" ++ usage }
  | .ok (.version verb) => { exitCode := 0, output := versionLine verb }
  | .ok .help => { exitCode := 0, output := usage }
  | .ok (.run verbose noColour config task) =>
    let filter := filterFor surroundings.environment verbose
    (runConfigured surroundings config task).outcome
      (Message.render filter (!noColour) surroundings.time)

/-- The sources that a task reads. -/
def sources : Task → List String
  | .tokens file _ _ => [file.getD "-"]
  | .check files _ => if files.isEmpty then ["-"] else files

def filesNeeded (home configuration : Option String) : Request → List String
  | .run _ _ config task =>
    config.elim (configurationPaths home configuration) ([·]) ++
      (sources task).filter (!Storage.Path.isStandardInput ·)
  | _ => []

def needsInput : Request → Bool
  | .run _ _ _ task => (sources task).any Storage.Path.isStandardInput
  | _ => false

end Coll.Session

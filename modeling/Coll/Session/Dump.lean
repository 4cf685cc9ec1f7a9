import Coll.Lexer
import Coll.Logging.Event
import Coll.Settings
import Coll.Stream.Decoding
import Coll.Text.Escaped

/-!
The command `tokens`: the tokens of one source, decoded while it is read.
-/

namespace Coll.Session

open Logging (Event)

/-- A token on one line, with its line feed. -/
def tokenLine (format : DumpFormat) (token : Token) : List Char :=
  match format with
  | .text =>
    Text.decimal token.line ++ ':' :: Text.decimal token.column ++ '\t' :: token.kind.name.toList ++
      '\t' :: Text.escape token.text.toList ++ ['\n']
  | .json => token.toJson ++ ['\n']

def tokenLines (format : DumpFormat) (tokens : List Token) : List Char :=
  tokens.flatMap (tokenLine format)

def tokenEvent (token : Token) : Event where
  level := .trace
  component := .scanning
  message := "lexed token"
  fields := [("kind", token.kind.name), ("line", Event.number token.line),
    ("column", Event.number token.column)]

/-- What is told about all tokens but the end token. -/
def tokenEvents (scanned : List Scanned) : List Event :=
  (scanned.filter (!·.token.isEnd)).map fun s => tokenEvent s.token

/-- What is told about a stream that broke off. -/
def brokenEvent (failure : DecodingFailure) : Event where
  level := .warn
  component := .reading
  message := "character source failed, treating as end of input"
  fields := [("error", failure.message)]

structure Dump where
  scanned : List Scanned
  /-- How many characters there were. -/
  length : Nat
  /-- What broke the source off, if something did. -/
  failure : Option DecodingFailure

namespace Dump

def ofReads (reads : Reads) : Dump :=
  let (scanned, lexer) := (Lexer.ofStream ({ reads } : Decoding)).drain
  { scanned := scanned.toList
    length := lexer.cursor.position.offset
    failure := lexer.cursor.source.failure? }

def tokens (dump : Dump) (includeEnd : Bool) : List Token :=
  (dump.scanned.map (·.token)).filter fun token => includeEnd || !token.isEnd

def errorCount (dump : Dump) : Nat := dump.scanned.countP (·.report.isSome)

/-- What is told while the source is scanned. A failure is noticed with the first token that
reaches up to it, before that token is told of. -/
def events (dump : Dump) : List Event :=
  let (before, atEnd) := dump.scanned.span (·.span.stop ≠ dump.length)
  tokenEvents before ++ dump.failure.toList.map brokenEvent ++ tokenEvents atEnd

/-- What is told in the end, when `printed` tokens have been printed. -/
def finishedEvent (dump : Dump) (printed : Nat) : Event where
  level := .debug
  component := .dump
  message := "token dump finished"
  fields := [("tokens", Event.number printed), ("errors", Event.number dump.errorCount)]

end Dump

end Coll.Session

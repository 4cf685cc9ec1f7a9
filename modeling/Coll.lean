import Coll.CommandLine.Options
import Coll.CommandLine.Request
import Coll.Lexeme.Basic
import Coll.Lexeme.Fault
import Coll.Lexeme.Name
import Coll.Lexeme.Number
import Coll.Lexeme.Quoted
import Coll.Lexeme.Scanner
import Coll.Lexeme.Sign
import Coll.Lexeme.Trivia
import Coll.Lexer
import Coll.Logging.Directive
import Coll.Logging.Event
import Coll.Logging.Filter
import Coll.Logging.Pattern
import Coll.Main
import Coll.Report.Catalog
import Coll.Report.Diagnostic
import Coll.Report.Document
import Coll.Report.Excerpt
import Coll.Report.Findings
import Coll.Report.LineTable
import Coll.Report.Span
import Coll.Session.Check
import Coll.Session.Configuration
import Coll.Session.Dump
import Coll.Session.Run
import Coll.Session.Source
import Coll.Session.Surroundings
import Coll.Settings
import Coll.Storage.Basic
import Coll.Storage.Tree
import Coll.Stream.Basic
import Coll.Stream.Cursor
import Coll.Stream.Decoding
import Coll.Stream.Reads
import Coll.Stream.Rest
import Coll.Text.Escaped
import Coll.Text.Numeral
import Coll.Text.Position
import Coll.Text.Utf8
import Coll.Token.Basic
import Coll.Token.Kind
import Coll.Toml.Blank
import Coll.Toml.Document
import Coll.Toml.Moment
import Coll.Toml.Number
import Coll.Toml.Quoted
import Coll.Toml.Statement
import Coll.Toml.Tree
import Coll.Unicode.Alphabetic
import Coll.Unicode.CodePointSet
import Coll.Unicode.GraphemeExtend
import Coll.Unicode.Numeric
import Coll.Unicode.Property
import Coll.Unicode.Unprintable
import Coll.Unicode.Uppercase
import Coll.Proofs.Lexeme.Gap
import Coll.Proofs.Lexeme.Reading
import Coll.Proofs.Lexeme.Numeral
import Coll.Proofs.Lexeme.Literal
import Coll.Proofs.Lexeme.Munch
import Coll.Proofs.Tokenization
import Coll.Proofs.Text.Utf8
import Coll.Proofs.Stream.Decoding
import Coll.Proofs.Report.Flaws
import Coll.Proofs.Session.Agreement
import Coll.Proofs.Lexeme.Boundary
import Coll.Proofs.Tokenization.Stability
import Coll.Proofs.Tokenization.LineBreak
import Coll.Proofs.Lexeme.Spelling
import Coll.Proofs.Tokenization.Reprint
import Coll.Proofs.Lexeme.Anywhere
import Coll.Proofs.Lexer.Request
import Coll.Proofs.Lexer.Sharing
import Coll.Proofs.Lexer.Drain
import Coll.Proofs.Report.Lines
import Coll.Proofs.Report.Underline
import Coll.Proofs.Report.Rows
import Coll.Proofs.Lexer.Literals
import Coll.Proofs.Stream.Polling
import Coll.Proofs.Lexer.Polling
import Coll.Proofs.Report.Likeness
import Coll.Proofs.Session.Concatenation
import Coll.Proofs.Tokenization.LineEnding
import Coll.Proofs.Text.Numeral
import Coll.Proofs.Lexer.Numbers
import Coll.Proofs.Stream.Index
import Coll.Proofs.Report.Snippet
import Coll.Proofs.Text.ReadBack
import Coll.Proofs.Session.Lossless
import Coll.Proofs.Report.LineTable

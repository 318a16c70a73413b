import ScriptLexer.CommandLine.Options
import ScriptLexer.CommandLine.Parse
import ScriptLexer.Diagnostic.Basic
import ScriptLexer.Diagnostic.Collection
import ScriptLexer.Diagnostic.Template
import ScriptLexer.Execution
import ScriptLexer.FileTree
import ScriptLexer.Json.Record
import ScriptLexer.Lexer.Basic
import ScriptLexer.Lexer.Cursor
import ScriptLexer.Lexer.History
import ScriptLexer.Lexer.Munch
import ScriptLexer.Log.Directive
import ScriptLexer.Log.Event
import ScriptLexer.Log.Filter
import ScriptLexer.Log.Level
import ScriptLexer.Main
import ScriptLexer.Output.Basic
import ScriptLexer.Output.Error
import ScriptLexer.Pattern.Basic
import ScriptLexer.Pattern.Brackets
import ScriptLexer.Pattern.Depth
import ScriptLexer.Pattern.Flags
import ScriptLexer.Pattern.Item
import ScriptLexer.Program
import ScriptLexer.Proofs.CallHistory
import ScriptLexer.Proofs.Concatenation
import ScriptLexer.Proofs.Cursor
import ScriptLexer.Proofs.CursorPlace
import ScriptLexer.Proofs.Delivery
import ScriptLexer.Proofs.Execution
import ScriptLexer.Proofs.ExitCode
import ScriptLexer.Proofs.IllegalCharacters
import ScriptLexer.Proofs.IllegalReports
import ScriptLexer.Proofs.JsonLine
import ScriptLexer.Proofs.JsonLossless
import ScriptLexer.Proofs.JsonValue
import ScriptLexer.Proofs.Lexeme
import ScriptLexer.Proofs.LineByLine
import ScriptLexer.Proofs.LineCut
import ScriptLexer.Proofs.LinePlace
import ScriptLexer.Proofs.LineWalk
import ScriptLexer.Proofs.MaximalMunch
import ScriptLexer.Proofs.Place
import ScriptLexer.Proofs.Printing
import ScriptLexer.Proofs.Rendering
import ScriptLexer.Proofs.ReportFaults
import ScriptLexer.Proofs.Spelling
import ScriptLexer.Proofs.StableOrder
import ScriptLexer.Proofs.TemplateFilling
import ScriptLexer.Proofs.TextListing
import ScriptLexer.Proofs.TokenStream
import ScriptLexer.Proofs.Transcript
import ScriptLexer.ScannedFile.Basic
import ScriptLexer.ScannedFile.Listing
import ScriptLexer.ScannedFile.Report
import ScriptLexer.Session
import ScriptLexer.Source.LineMap
import ScriptLexer.Source.Span
import ScriptLexer.Text.Alphanumeric
import ScriptLexer.Text.Bytes
import ScriptLexer.Text.CharClass
import ScriptLexer.Text.Quoted
import ScriptLexer.Text.Terminal
import ScriptLexer.Text.Trim
import ScriptLexer.Token.Basic
import ScriptLexer.Token.Kind

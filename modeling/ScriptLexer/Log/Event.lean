import ScriptLexer.Lexer.Basic
import ScriptLexer.Log.Level
import ScriptLexer.Text.Quoted

/-!
# Log events

What the program notes about its own work. An event has a level, a target – the
part of the program it comes from – and values by name; these decide whether it is
shown. One line shows it: the level, a phrase, and the values behind their names.
-/

namespace ScriptLexer

/-- **A log event.** -/
inductive Event where
  /-- So many files are about to be scanned. -/
  | scanningFiles (count : Nat)
  /-- A lexer was set on a text of so many characters. -/
  | createdLexer (chars : Nat)
  /-- A token was read, perhaps the end of the input. -/
  | scannedToken (t : Located)
  /-- A file was scanned and has so many tokens. -/
  | scannedFile (file : String) (tokens : Nat)
  /-- A line of a session is about to be scanned. -/
  | scanningLine (line : String)
  /-- The input of a session has ended. -/
  | inputClosed
  deriving DecidableEq, Repr

namespace Event

/-- How much the event matters. -/
def level : Event → Level
  | scanningFiles _ => .info
  | createdLexer _ => .debug
  | scannedToken _ => .trace
  | scannedFile _ _ => .debug
  | scanningLine _ => .debug
  | inputClosed => .debug

/-- The part of the program the event comes from. -/
def target : Event → String
  | scanningFiles _ => "lpp::files"
  | createdLexer _ => "lpp_scanner::scanner"
  | scannedToken _ => "lpp_scanner::scanner"
  | scannedFile _ _ => "lpp::files"
  | scanningLine _ => "lpp::repl"
  | inputClosed => "lpp::repl"

/-- What has happened, in words. -/
def phrase : Event → String
  | scanningFiles _ => "scanning files"
  | createdLexer _ => "created scanner"
  | scannedToken _ => "scanned token"
  | scannedFile _ _ => "scanned file"
  | scanningLine _ => "scanning line"
  | inputClosed => "input closed"

/-- The values an event comes with, by name, as they are shown. -/
def values : Event → List (String × String)
  | scanningFiles count => [("files", toString count)]
  | createdLexer chars => [("chars", toString chars)]
  | scannedToken t =>
    [("kind", t.token.kind.name), ("literal", t.token.literal),
      ("position", toString t.start)]
  | scannedFile file tokens => [("file", file), ("tokens", toString tokens)]
  | scanningLine line => [("line", quote line)]
  | inputClosed => []

/-- The name under which a filter may ask for the phrase. -/
def phraseField : String := "message"

/-- Whether an event has a value, or the phrase, by a name. -/
def hasField (e : Event) (name : String) : Bool :=
  name == phraseField || e.values.any (fun v => v.1 == name)

/-- What the event says: the phrase, and each value behind its name. -/
def text (e : Event) : String :=
  e.phrase ++ String.join (e.values.map (fun v => " " ++ v.1 ++ "=" ++ v.2))

/-- **The line that shows an event**, without its line break. -/
def render (e : Event) : String :=
  e.level.column ++ " " ++ e.text

/-- The events of scanning a text to its end: the lexer is set up, and then
every token is read, the end of the input once. -/
def ofScan (source : String) : List Event :=
  let read := (Lexer.ofText source).drain
  createdLexer source.length
    :: read.1.map scannedToken ++ [scannedToken ⟨.eof, read.2.position⟩]

end Event

end ScriptLexer

import ScriptLexer.Lexer.Basic

/-!
# Scanned files

The result of scanning one file: its name, its text, its tokens and what was
wrong with it. The diagnostics of a lexer name no file; here each of them gets
the name of the file it came from.
-/

namespace ScriptLexer

/-- **A scanned file.** -/
structure ScannedFile where
  /-- The name, as the user gave it. -/
  file : String
  /-- The text. -/
  source : String
  /-- Every token, the end-of-input token included. -/
  tokens : List Token
  /-- What was wrong, in order of place. -/
  diagnostics : List Diagnostic
  deriving DecidableEq, Repr

namespace ScannedFile

/-- Scan a text as the contents of a file. -/
def scan (file source : String) : ScannedFile :=
  let read := (Lexer.ofText source).collect
  { file := file
    source := source
    tokens := read.1 ++ [Token.eof]
    diagnostics := read.2.diagnostics.sort.toList.map (fun d => d.inFile file) }

/-- Whether some diagnostic is an error. -/
def hasErrors (f : ScannedFile) : Bool :=
  f.diagnostics.any Diagnostic.isError

@[simp] theorem file_scan (file source : String) : (scan file source).file = file := rfl

@[simp] theorem source_scan (file source : String) :
    (scan file source).source = source := rfl

/-- The tokens of a scanned file are the tokens of its text. -/
theorem tokens_scan (file source : String) :
    (scan file source).tokens = Lexer.tokenize source := rfl

end ScannedFile

end ScriptLexer

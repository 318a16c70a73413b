import ScriptLexer.Json.Record
import ScriptLexer.Output.Basic
import ScriptLexer.ScannedFile.Basic

/-!
# Listings

The two ways in which scanned files are written out: as **text**, one token to
a line, with a heading over each file if there are several; and as **JSON**, one
document to a line. The text listing leaves the end-of-input token out, the
JSON document keeps it.
-/

namespace ScriptLexer

namespace ScannedFile

/-- The line of a text listing that shows a token. -/
def tokenLine (t : Token) : Piece :=
  ⟨.plain, t.render ++ "\n"⟩

/-- The line of a text listing that names a file. -/
def heading (f : ScannedFile) : Piece :=
  ⟨.plain, "==> " ++ f.file ++ " <==\n"⟩

/-- The lines that show the tokens of a file. -/
def tokenLines (f : ScannedFile) : List Piece :=
  (f.tokens.filter (fun t => !t.isEof)).map tokenLine

/-- **Printing a text listing.** -/
def printText {m : Type → Type} [Monad m] (write : Piece → m Unit) (fs : List ScannedFile) :
    m Unit :=
  forM fs fun f => do
    if fs.length > 1 then write f.heading
    forM (f.tokens.filter (fun t => !t.isEof)) fun t => write (tokenLine t)

/-- **The text listing** of files. -/
def textListing (fs : List ScannedFile) : Output where
  pieces := fs.flatMap (fun f =>
    (if fs.length > 1 then [f.heading] else []) ++ f.tokenLines)

/-- A file as a JSON document. -/
def document (f : ScannedFile) : String :=
  Json.object
    [Json.field "file" (Json.string f.file),
      Json.field "tokens" (Json.array (f.tokens.map Token.json)),
      Json.field "diagnostics" (Json.array (f.diagnostics.map Diagnostic.json))]

/-- **Printing a JSON listing.** -/
def printJson {m : Type → Type} [Monad m] (write : Piece → m Unit) (fs : List ScannedFile) :
    m Unit :=
  forM fs fun f => do
    write ⟨.document, f.document⟩
    write ⟨.plain, "\n"⟩

/-- **The JSON listing** of files. -/
def jsonListing (fs : List ScannedFile) : Output where
  pieces := fs.flatMap (fun f => [⟨.document, f.document⟩, ⟨.plain, "\n"⟩])

end ScannedFile

end ScriptLexer

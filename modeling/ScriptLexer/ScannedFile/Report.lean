import ScriptLexer.ScannedFile.Basic
import ScriptLexer.Source.LineMap

/-!
# Reports

The two ways in which the diagnostics of a scanned file are shown: **plain**
lines, which give a place as a line and a column, and **labelled** reports,
which mark a stretch of bytes of the source. Both compute with 32-bit
positions and stop at a sum that does not fit; a diagnostic that no scan
produces can bring that about.
-/

namespace ScriptLexer

/-- **A label**: a stretch of bytes of a source, with a remark. -/
structure Label where
  /-- The remark. -/
  text : String
  /-- How many bytes come before. -/
  offset : Nat
  /-- How many bytes are marked. -/
  length : Nat
  deriving DecidableEq, Repr

/-- **A labelled report** of one diagnostic. -/
structure LabelledReport where
  /-- The wording of the diagnostic. -/
  message : String
  /-- The name of the rule that was broken. -/
  code : String
  /-- The name of the source. -/
  sourceName : String
  /-- The marked stretch of the source, if the diagnostic has a span. -/
  labels : List Label
  deriving DecidableEq, Repr

namespace ScannedFile

/-- Where a plain line says that a diagnostic is: `:line:column`, or nothing
without a span. -/
def plainPlace (lines : LineMap) : Option Span → Except Fault String
  | none => .ok ""
  | some s => (lines.lineColumn s.start).render.map (":" ++ ·)

/-- The plain line for a diagnostic of a file. -/
def plainLine (f : ScannedFile) (lines : LineMap) (d : Diagnostic) :
    Except Fault String := do
  let place ← plainPlace lines d.span
  return f.file ++ place ++ ": " ++ d.severity.name ++ " LPP"
    ++ toString d.code.toNat ++ ": " ++ d.text

/-- **The plain lines** for the diagnostics of a file. -/
def plainReport (f : ScannedFile) : Except Fault (List String) :=
  f.diagnostics.mapM (f.plainLine (LineMap.ofText f.source))

/-- The label of a span of a file. A span that reaches past the end of the
source is cut there. -/
def label (f : ScannedFile) (s : Span) : Except Fault Label := do
  let stop ← s.stop
  let offset := byteOffset f.source s.start
  return ⟨"not a valid character", offset, byteOffset f.source stop - offset⟩

/-- The labels of a diagnostic of a file. -/
def labelsOf (f : ScannedFile) : Option Span → Except Fault (List Label)
  | none => .ok []
  | some s => (f.label s).map ([·])

/-- The labelled report of a diagnostic of a file. -/
def labelledOne (f : ScannedFile) (d : Diagnostic) : Except Fault LabelledReport := do
  let labels ← f.labelsOf d.span
  return ⟨d.text, "lpp::invalid_character", f.file, labels⟩

/-- **The labelled reports** of the diagnostics of a file. -/
def labelledReport (f : ScannedFile) : Except Fault (List LabelledReport) :=
  f.diagnostics.mapM f.labelledOne

/-- The plain lines for the diagnostics of several files. -/
def plainReports (fs : List ScannedFile) : Except Fault (List String) :=
  (fs.mapM plainReport).map List.flatten

/-- The labelled reports of the diagnostics of several files. -/
def labelledReports (fs : List ScannedFile) : Except Fault (List LabelledReport) :=
  (fs.mapM labelledReport).map List.flatten

end ScannedFile

end ScriptLexer

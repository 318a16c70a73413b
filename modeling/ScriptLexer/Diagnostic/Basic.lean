import ScriptLexer.Diagnostic.Template
import ScriptLexer.Source.Span

/-!
# Diagnostics

A diagnostic says what is wrong and, where it can, in which file and over
which span. It never stops the scan that found it; whoever holds it decides
what it means. Its text is made once, from a message with a code and a
template.
-/

namespace ScriptLexer

/-- **How bad a finding is.** There is one degree. -/
inductive Severity where
  | error
  deriving DecidableEq, Repr, Inhabited

/-- The word for a severity. -/
def Severity.name : Severity → String
  | error => "error"

/-- **A message**: a numbered template with a severity. -/
structure Message where
  /-- The number users look a message up by. -/
  code : UInt32
  /-- How bad it is. -/
  severity : Severity
  /-- The wording, with placeholders. -/
  template : String
  deriving DecidableEq, Repr

/-- The message for a character that starts no token; its argument is the
character. -/
def Message.invalidCharacter : Message :=
  ⟨1127, .error, "Invalid character '{0}'."⟩

/-- **A diagnostic**: a message made out for one occasion. -/
structure Diagnostic where
  /-- The file it belongs to, if known. -/
  file : Option String
  /-- The span of the source it is about, if any. -/
  span : Option Span
  /-- The wording, with the placeholders filled in. -/
  text : String
  /-- The code of the message. -/
  code : UInt32
  /-- How bad it is. -/
  severity : Severity
  deriving DecidableEq, Repr

namespace Diagnostic

/-- A diagnostic without a location. -/
def ofMessage (m : Message) (arguments : List String) : Diagnostic :=
  ⟨none, none, Template.format m.template arguments, m.code, m.severity⟩

/-- A diagnostic about a span. -/
def atSpan (s : Span) (m : Message) (arguments : List String) : Diagnostic :=
  { ofMessage m arguments with span := some s }

/-- The diagnostic, as belonging to a file. -/
def inFile (d : Diagnostic) (file : String) : Diagnostic :=
  { d with file := some file }

/-- Whether the diagnostic is an error. -/
def isError (d : Diagnostic) : Bool :=
  d.severity == .error

/-- There being one severity, every diagnostic is an error. -/
@[simp] theorem isError_eq_true (d : Diagnostic) : d.isError = true := by
  simp only [isError, beq_iff_eq]

end Diagnostic

end ScriptLexer

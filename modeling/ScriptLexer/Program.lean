import ScriptLexer.CommandLine.Parse
import ScriptLexer.Log.Filter
import ScriptLexer.ScannedFile.Listing
import ScriptLexer.ScannedFile.Report
import ScriptLexer.Session

/-!
# The program

A run from the command line to the exit code. With file names it scans the
files, lists their tokens and reports their diagnostics; without, it holds a
session. The code is 0 if all went well, 1 if some file holds an illegal
character, and 2 if something could not be read or written or the command line
is wrong.

What a run needs from outside are its `Surroundings`: how paths read, what comes in,
and how the log is filtered. Standard error carries the log and the reports, in
the order in which they arise. It may be shown on a terminal, and reports may then be
drawn.
-/

namespace ScriptLexer

namespace Program

open CommandLine

/-- **The surroundings of a run.** -/
structure Surroundings where
  /-- What reading a path gives. -/
  readPath : String → Except IoFault Bytes
  /-- What is typed into a session. -/
  input : Session.Input
  /-- The log filter that is written, if one is. -/
  logFilter : Option String

/-- **A terminal** on which standard error is shown. -/
structure Screen where
  /-- How a report on a source is drawn. -/
  draw : (source : String) → LabelledReport → String

/-- **What a run comes to.** -/
structure Outcome where
  /-- The exit code. -/
  code : Nat
  /-- What is written to standard output. -/
  stdout : String
  /-- What is written to standard error. -/
  stderr : String
  deriving DecidableEq, Repr

/-- The exit code of a usage error. -/
def usageCode : Nat := 2

/-- Lines of text, each with its line break. -/
def unlines (lines : List String) : String :=
  String.join (lines.map (· ++ "\n"))

/-- The word before an error, in bold red on a terminal. -/
def errorWord (screen : Option Screen) : String :=
  if screen.isSome then "\x1b[1m\x1b[31merror\x1b[0m" else "error"

/-- The line that reports an error. -/
def errorLine (screen : Option Screen) (e : RunError) : String :=
  errorWord screen ++ ": " ++ e.message ++ "\n"

/-- The filter of a run: the one that is written if it is not empty, or else
the level of the options. -/
def filterOf (written : Option String) (level : Level) : Filter :=
  Filter.ofText (written.getD "") level

/-! ## Files -/

/-- Read a path and scan what it holds. -/
def scanPath (readPath : String → Except IoFault Bytes) (path : String) :
    Except RunError ScannedFile :=
  match readPath path with
  | .error cause => .error (.unreadable path cause)
  | .ok bytes =>
    match decode? bytes with
    | none => .error (.unreadable path .invalidText)
    | some source => .ok (.scan path source)

/-- **Scanning the files at paths**, in order. The first that cannot be read
is the error. -/
def scanPaths (readPath : String → Except IoFault Bytes) (paths : List String) :
    Except RunError (List ScannedFile) :=
  paths.mapM (scanPath readPath)

/-- The events of scanning a file. -/
def fileEvents (f : ScannedFile) : List Event :=
  Event.ofScan f.source ++ [.scannedFile f.file f.tokens.length]

/-- The events of scanning the files at paths, up to the first that cannot be
read. -/
def pathEvents (readPath : String → Except IoFault Bytes) : List String → List Event
  | [] => []
  | path :: paths =>
    match scanPath readPath path with
    | .error _ => []
    | .ok f => fileEvents f ++ pathEvents readPath paths

/-- The listing of scanned files that the options ask for. -/
def listing (o : Options) (fs : List ScannedFile) : Output :=
  if o.json then ScannedFile.jsonListing fs else ScannedFile.textListing fs

/-- The drawn reports on the diagnostics of a scanned file. -/
def Screen.drawAll (screen : Screen) (f : ScannedFile) : Except Fault (List String) :=
  f.labelledReport.map (List.map (screen.draw f.source))

/-- The reports on the diagnostics of scanned files as they are shown: drawn on a terminal,
and as plain lines elsewhere. -/
def reportTexts (screen : Option Screen) (fs : List ScannedFile) : Except Fault (List String) :=
  match screen with
  | none => ScannedFile.plainReports fs
  | some screen => (fs.mapM screen.drawAll).map List.flatten

/-- The reports on scanned files that the options ask for, and the exit code.
JSON documents hold the diagnostics already. -/
def reports (o : Options) (screen : Option Screen) (fs : List ScannedFile) : String × Nat :=
  let code := if fs.any ScannedFile.hasErrors then 1 else 0
  if o.json then ("", code)
  else
    match reportTexts (if o.plain then none else screen) fs with
    | .ok texts => (unlines texts, code)
    | .error fault => (fault.message ++ "\n", 101)

/-- The events of a run over files. -/
def filesLog (w : Surroundings) (o : Options) : String :=
  (filterOf w.logFilter o.logLevel).render
    (.scanningFiles o.files.length :: pathEvents w.readPath o.files)

/-- **A run over files.** -/
def runFiles (w : Surroundings) (o : Options) (screen : Option Screen := none) : Outcome :=
  match scanPaths w.readPath o.files with
  | .error e => ⟨2, "", filesLog w o ++ errorLine screen e⟩
  | .ok fs =>
    let report := reports o screen fs
    ⟨report.2, (listing o fs).text, filesLog w o ++ report.1⟩

/-! ## Sessions -/

/-- **A run without files**: a session. -/
def runSession (w : Surroundings) (o : Options) (screen : Option Screen := none) : Outcome :=
  let talk := Session.runOn o.prompt w.input
  let log := (filterOf w.logFilter o.logLevel).render talk.events
  match talk.ending with
  | none => ⟨0, talk.output.text, log⟩
  | some e => ⟨2, talk.output.text, log ++ errorLine screen e⟩

/-! ## Runs -/

/-- A run with options. -/
def runOptions (w : Surroundings) (o : Options) (screen : Option Screen := none) : Outcome :=
  let done := if o.files.isEmpty then runSession w o screen else runFiles w o screen
  { done with
    stderr := unlines (Filter.remarks (w.logFilter.getD "")) ++ done.stderr }

/-- **A run of the program** on a command line, with standard error on a terminal or
not. -/
def run (w : Surroundings) (arguments : List String) (screen : Option Screen := none) :
    Except UsageError Outcome := do
  match ← parse arguments with
  | .help => return ⟨0, helpText, ""⟩
  | .version => return ⟨0, versionText, ""⟩
  | .run o => return runOptions w o screen

end Program

end ScriptLexer

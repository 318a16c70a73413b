import ScriptLexer.Program

/-!
# Executions

A run as something that happens: pieces are written to standard output, and the first
that is refused ends the run; a session reads its next line only when it has shown what
it says to the last one. What that takes of a system is a `System`; what a run does with
it (`execute`) is the same on every one.

One system is a **desk**, on which the output, the errors and the input lie ready
(`Desk.system`).
-/

namespace ScriptLexer

namespace Program

open CommandLine

/-- **A system** that a run is executed on. -/
structure System (m : Type → Type) where
  /-- Write a piece to standard output. -/
  write : Piece → ExceptT RunError m Unit
  /-- Write a text to standard error. -/
  complain : String → m Unit
  /-- Read the next line of standard input, with its line feed; empty at its end. -/
  readLine : ExceptT RunError m Bytes

section Execute

variable {m : Type → Type} [Monad m] (s : System m) (w : Surroundings) (o : Options)
  (screen : Option Screen)

/-- The console of a session: the log goes to standard error. -/
def System.console (filter : Filter) : Session.Console m where
  act
    | .log e => s.complain (filter.render [e])
    | act => forM act.written? s.write
  readLine := s.readLine

/-- Print the listing of scanned files that the options ask for. -/
def printListing (write : Piece → ExceptT RunError m Unit) (fs : List ScannedFile) :
    ExceptT RunError m Unit :=
  if o.json then ScannedFile.printJson write fs else ScannedFile.printText write fs

/-- **Going on or ending**: an error is reported, and decides the exit code. -/
def goOn (rest : m Nat) : Except RunError Unit → m Nat
  | .ok () => rest
  | .error e => do
    s.complain (errorLine screen e)
    return 2

/-- A run over files, up to its exit code. -/
def executeFiles : m Nat := do
  s.complain (filesLog w o)
  match scanPaths w.readPath o.files with
  | .error e =>
    s.complain (errorLine screen e)
    return 2
  | .ok fs =>
    let listed ← (printListing o s.write fs).run
    goOn s screen (do
      let report := reports o screen fs
      s.complain report.1
      return report.2) listed

/-- A run without files, up to its exit code. -/
def executeSession : m Nat := do
  let held ← (Session.hold (s.console (filterOf w.logFilter o.logLevel)) o.prompt).run
  goOn s screen (return 0) held

/-- **Executing a run**, up to its exit code. -/
def execute : m Nat := do
  s.complain (unlines (Filter.remarks (w.logFilter.getD "")))
  if o.files.isEmpty then executeSession s w o screen else executeFiles s w o screen

end Execute

/-! ## Desks -/

/-- **A desk**: what has been written on it. -/
structure Desk where
  /-- Standard output. -/
  out : Writer
  /-- Standard error. -/
  err : String
  deriving DecidableEq, Inhabited, Repr

namespace Desk

/-- Write a piece to standard output. -/
def write (p : Piece) : ExceptT RunError (StateM Desk) Unit := fun d =>
  let done := (Writer.put p).run.run d.out
  (done.1, { d with out := done.2 })

/-- Write a text to standard error. -/
def complain (text : String) : StateM Desk Unit :=
  modify fun d => { d with err := d.err ++ text }

/-- The next line of an input. -/
def readLine : ExceptT RunError (StateT Session.Reader (StateM Desk)) Bytes := do
  let reader : Session.Reader ← get
  match reader.lines, reader.fault with
  | line :: lines, _ =>
    set { reader with lines := lines }
    return line
  | [], none => return []
  | [], some cause => throw (.stream cause)

/-- **The system of a desk**, with an input to read. -/
def system : System (StateT Session.Reader (StateM Desk)) where
  write p := ExceptT.mk (StateT.lift (write p).run)
  complain text := StateT.lift (complain text)
  readLine := readLine

/-- What an execution on a desk comes to, with an output that takes so many bytes. -/
def result (room : Option Nat) (input : Session.Input)
    (x : StateT Session.Reader (StateM Desk) Nat) : Nat × Desk :=
  (x.run' input.reader).run ⟨.ofRoom room, ""⟩

end Desk

end Program

end ScriptLexer

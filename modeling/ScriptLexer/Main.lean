import ScriptLexer.Execution

/-!
# The command

The program as a command: the streams and the files of the system it is started on. What
a run does with them is `Program.execute`.
-/

namespace ScriptLexer

namespace Command

open CommandLine Program

/-- The environment variable that holds the written log filter. -/
def filterVariable : String := "LPP_LOG"

/-- The system's number for an error, which may come with its sign
turned. -/
def systemCode (code : UInt32) : UInt32 :=
  if code < 0x80000000 then code else 0 - code

/-- The cause of a failed read or write. -/
def faultOf : IO.Error → IoFault
  | .noFileOrDirectory _ _ _ => .noSuchFile
  | e@(.inappropriateType _ code _) =>
    if systemCode code = 20 then .notADirectory
    else if systemCode code = 21 then .isADirectory
    else .other (toString e)
  | e@(.invalidArgument _ code _) =>
    if systemCode code = 36 then .nameTooLong else .other (toString e)
  | e => .other (toString e)

/-- What reading a path gives. -/
def readPath (path : String) : IO (Except IoFault Bytes) := do
  try
    return .ok (← IO.FS.readBinFile path).toList
  catch e =>
    return .error (faultOf e)

/-- The next line of a stream, with its line feed; empty at the end. -/
partial def readLine (stream : IO.FS.Stream) (before : Bytes) : IO Bytes := do
  let got ← stream.read 1
  match got.toList with
  | [] => return before.reverse
  | b :: _ =>
    if b = 10 then return (b :: before).reverse
    else readLine stream (b :: before)

/-- Use a stream, and take its failure for an error of the run. -/
def attempt {α : Type} (failure : IoFault → RunError) (use : IO α) : ExceptT RunError IO α :=
  ExceptT.mk do
    try
      return .ok (← use)
    catch e =>
      return .error (failure (faultOf e))

/-- **The streams of the command.** What is written is seen before anything is read. -/
def streams : System IO where
  write p := attempt p.part.failure do
    IO.print p.text
    (← IO.getStdout).flush
  complain := IO.eprint
  readLine := attempt .stream do readLine (← IO.getStdin) []

/-- The wording of a labelled report, and where its labels are. -/
def drawing (report : LabelledReport) : String :=
  report.code ++ ": " ++ report.message
    ++ String.join (report.labels.map fun label =>
      "\n  " ++ report.sourceName ++ ", byte " ++ toString label.offset ++ ": " ++ label.text)

/-- The terminal on which standard error is shown, if it is on one. -/
def screen? : IO (Option Screen) := do
  return if ← (← IO.getStderr).isTty then some ⟨fun _ => drawing⟩ else none

/-- The surroundings of a run: its files, which are read in advance, and the log filter. -/
def surroundings (o : Options) : IO Surroundings := do
  let found ← o.files.mapM (fun path => do return (path, ← readPath path))
  let look (path : String) : Except IoFault Bytes :=
    ((found.find? (fun f => f.1 == path)).map Prod.snd).getD (.error .noSuchFile)
  return ⟨look, ⟨[], none⟩, ← IO.getEnv filterVariable⟩

end Command

end ScriptLexer

open ScriptLexer in
/-- The command. -/
def main (arguments : List String) : IO UInt32 := do
  match CommandLine.parse arguments with
  | .error e =>
    IO.eprintln e.report
    return Program.usageCode.toUInt32
  | .ok .help =>
    IO.print CommandLine.helpText
    return 0
  | .ok .version =>
    IO.print CommandLine.versionText
    return 0
  | .ok (.run o) =>
    let code ← Program.execute Command.streams (← Command.surroundings o) o (← Command.screen?)
    return code.toUInt32

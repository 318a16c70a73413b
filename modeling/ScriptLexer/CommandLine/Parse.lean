import ScriptLexer.CommandLine.Options

/-!
# Reading a command line

Arguments are read from left to right. At any moment one of them may be
**pending**: a setting that still waits for its value or has just got it, or the
file names since the last option. A pending argument is settled – checked and
kept – only when something else begins: another option, a file name after a
setting, the end. So of two things wrong with a command line the one that is
*noticed* first is reported. An argument that does not exist, and a value for an
argument that takes none, are noticed at once, before what is pending is settled.

Settling a setting asks in this order: is there a value, is it the first one, is
it a good one.
-/

namespace ScriptLexer

namespace CommandLine

/-- **What is settled** of a command line. -/
structure Draft where
  files : List String := []
  json : Bool := false
  plain : Bool := false
  prompt : Option String := none
  logLevel : Option Level := none
  deriving DecidableEq, Repr

/-- **What is pending.** -/
inductive Pending where
  | nothing
  /-- A setting, with its value if it has come. -/
  | setting (s : Setting) (value : Option String)
  /-- File names, in order. -/
  | files (names : List String)
  deriving DecidableEq, Repr

namespace Draft

/-- Keep the value of a setting. -/
def set (d : Draft) (s : Setting) (value : String) : Except UsageError Draft :=
  match s with
  | .prompt =>
    if d.prompt.isSome then .error (.repeated s.shown)
    else .ok { d with prompt := some value }
  | .logLevel =>
    if d.logLevel.isSome then .error (.repeated s.shown)
    else
      match Level.ofWord? false value with
      | some l => .ok { d with logLevel := some l }
      | none =>
        if value = "" then .error (.valueMissing s.shown)
        else .error (.invalidValue value s.shown)

/-- Keep a flag. -/
def raise (d : Draft) (f : Flag) : Except UsageError Draft :=
  match f with
  | .json => if d.json then .error (.repeated f.shown) else .ok { d with json := true }
  | .plain => if d.plain then .error (.repeated f.shown) else .ok { d with plain := true }

/-- Settle what is pending. A file name is not empty. -/
def settle (d : Draft) : Pending → Except UsageError Draft
  | .nothing => .ok d
  | .setting s none => .error (.valueMissing s.shown)
  | .setting s (some value) => d.set s value
  | .files names =>
    if names.contains "" then .error (.valueMissing filesShown)
    else .ok { d with files := d.files ++ names }

/-- The options of a command line that is settled. -/
def options (d : Draft) : Options where
  files := d.files
  json := d.json
  plain := d.plain
  prompt := d.prompt.getD Session.defaultPrompt
  logLevel := d.logLevel.getD .warn

end Draft

/-- **The state of reading** a command line. -/
structure State where
  /-- What is settled. -/
  draft : Draft := {}
  /-- What is pending. -/
  pending : Pending := .nothing
  /-- Whether only file names follow. -/
  filesOnly : Bool := false
  deriving DecidableEq, Repr

/-- **What an argument leads to.** -/
inductive Progress where
  /-- Reading goes on. -/
  | go (s : State)
  /-- The request is clear, whatever follows. -/
  | stop (r : Request)
  deriving DecidableEq, Repr

namespace State

/-- Settle what is pending, and go on from there. -/
def settled (s : State) : Except UsageError State := do
  return { s with draft := ← s.draft.settle s.pending, pending := .nothing }

/-- A file name. -/
def fileName (s : State) (name : String) : Except UsageError Progress :=
  match s.pending with
  | .files names => .ok (.go { s with pending := .files (names ++ [name]) })
  | _ => do
    let s ← s.settled
    return .go { s with pending := .files [name] }

/-- An argument that is no option: the value a setting waits for, or else a
file name. -/
def value (s : State) (text : String) : Except UsageError Progress :=
  match s.pending with
  | .setting which none => .ok (.go { s with pending := .setting which (some text) })
  | _ => s.fileName text

/-- An argument with a long name, and the value written behind it after an
`=`. -/
def long (s : State) (name : String) (attached : Option String) :
    Except UsageError Progress :=
  match Named.ofName? name, attached with
  | none, _ => .error (.unknownArgument ("--" ++ name))
  | some (.flag _), some value => .error (.unexpectedValue value ("--" ++ name))
  | some .help, some value => .error (.unexpectedValue value ("--" ++ name))
  | some .version, some value => .error (.unexpectedValue value ("--" ++ name))
  | some (.flag f), none => do
    let s ← s.settled
    return .go { s with draft := ← s.draft.raise f }
  | some (.setting which), some value => do
    let s ← s.settled
    return .go { s with draft := ← s.draft.set which value }
  | some (.setting which), none => do
    let s ← s.settled
    return .go { s with pending := .setting which none }
  | some .help, none => do
    let _ ← s.settled
    return .stop .help
  | some .version, none => do
    let _ ← s.settled
    return .stop .version

/-- Arguments with one-letter names, of which only the first is ever
looked at: each of those that exist makes the request clear. -/
def short (s : State) (letter : Char) : Except UsageError Progress :=
  match letter with
  | 'h' => do
    let _ ← s.settled
    return .stop .help
  | 'V' => do
    let _ ← s.settled
    return .stop .version
  | c => .error (.unknownArgument (String.ofList ['-', c]))

/-- **Reading an argument.** -/
def read (s : State) (argument : String) : Except UsageError Progress :=
  if s.filesOnly then s.fileName argument
  else
    match argument.toList with
    | ['-', '-'] => .ok (.go { s with filesOnly := true })
    | '-' :: '-' :: cs =>
      s.long (String.ofList (cs.takeWhile (· ≠ '=')))
        (match cs.dropWhile (· ≠ '=') with
          | [] => none
          | _ :: value => some (String.ofList value))
    | '-' :: c :: _ => s.short c
    | _ => s.value argument

/-- Reading the arguments still to come. -/
def readAll (s : State) : List String → Except UsageError Request
  | [] => do return .run (← s.settled).draft.options
  | argument :: arguments => do
    match ← s.read argument with
    | .go s => readAll s arguments
    | .stop r => return r

end State

/-- **Reading a command line.** -/
def parse (arguments : List String) : Except UsageError Request :=
  State.readAll {} arguments

end CommandLine

end ScriptLexer

import ScriptLexer.Log.Event
import ScriptLexer.Output.Basic
import ScriptLexer.ScannedFile.Listing
import ScriptLexer.Text.Trim

/-!
# Sessions

The interactive loop: greet, then prompt, read a line and show its tokens,
until the closing command or the end of the input. Every line has a lexer of
its own. A line is the bytes up to and including a line feed; the last may
lack it. A line that is no UTF-8 text ends the session with an error.

A session is held at a **console**, where it writes, logs and reads (`hold`). What it does
at a line (`respond`) does not depend on the console. Over an input that is known in
advance it comes to the list of its **acts** – what it shows and what it logs, in order –
and the error that ended it (`runOn`).
-/

namespace ScriptLexer

namespace Session

/-- The line that ends a session, blanks around it apart. -/
def closingCommand : String := ".exit"

/-- The prompt of a session that is given none. -/
def defaultPrompt : String := ">> "

/-- The first line of every session. -/
def welcome : String :=
  "Bienvenido a lpp. Escribe " ++ closingCommand ++ " para salir.\n"

/-- **An act** of a session. -/
inductive Act where
  /-- Greet. -/
  | greet
  /-- Prompt for a line. -/
  | prompt (text : String)
  /-- Show a token. -/
  | showToken (t : Token)
  /-- Leave the line of the last prompt. -/
  | leaveLine
  /-- Log an event. -/
  | log (e : Event)
  deriving DecidableEq, Repr

/-- **The answer to a line.** -/
inductive Response where
  /-- The line is the closing command. -/
  | close
  /-- The line is scanned, and this is done about it. -/
  | acts (as : List Act)
  /-- The line is no text. -/
  | fail (e : RunError)
  deriving DecidableEq, Repr

/-- Showing the tokens of a text. -/
def tokenActs (text : String) : List Act :=
  (Lexer.ofText text).collect.1.map .showToken

/-- What is done about a line of text. -/
def lineActs (line : String) : List Act :=
  .log (.scanningLine (trimRight line))
    :: (Event.ofScan line).map .log ++ tokenActs line

/-- **Responding to a line.** -/
def respond (line : Bytes) : Response :=
  match decode? line with
  | none => .fail (.stream .invalidText)
  | some text => if trimBoth text = closingCommand then .close else .acts (lineActs text)

/-- What is done when the input has ended. -/
def farewell : List Act :=
  [.log .inputClosed, .leaveLine]

/-- Cut bytes into lines, after each line feed. -/
def cutLines : Bytes → List Bytes
  | [] => []
  | b :: bs =>
    if b = 10 then [b] :: cutLines bs
    else
      match cutLines bs with
      | [] => [[b]]
      | line :: lines => (b :: line) :: lines

/-! ## At a console -/

/-- **A console**: where acts are carried out and lines are read. Both can fail. -/
structure Console (m : Type → Type) where
  /-- Carry out an act. -/
  act : Act → ExceptT RunError m Unit
  /-- The next line, with its line feed; empty at the end of the input. -/
  readLine : ExceptT RunError m Bytes

section Hold

variable {m : Type → Type} [Monad m]

/-- **A turn**: prompt, read a line and answer it. What it gives is on the left if the
session goes on. -/
def turn (c : Console m) (prompt : String) : ExceptT RunError m (Unit ⊕ Unit) := do
  c.act (.prompt prompt)
  let line ← c.readLine
  if line.isEmpty then
    forM farewell c.act
    return .inr ()
  match respond line with
  | .close => return .inr ()
  | .fail e => throw e
  | .acts as =>
    forM as c.act
    return .inl ()

/-- **Holding a session**: the greeting, and turns as long as it goes on. -/
def hold (c : Console m) (prompt : String) : ExceptT RunError m Unit := do
  c.act .greet
  repeatM (fun _ => turn c prompt) ()

end Hold

/-! ## Over a given input -/

/-- **An input**: its bytes, and the fault that is met behind them, if it does not just
end. -/
structure Input where
  /-- The bytes that can be read. -/
  bytes : Bytes
  /-- Why no more can be read. -/
  fault : Option IoFault := none
  deriving DecidableEq, Repr

instance : Coe Bytes Input where
  coe bytes := { bytes := bytes }

/-- **What is read of an input**: its lines, one by one, and then its fault. -/
structure Reader where
  /-- The lines still to come. -/
  lines : List Bytes
  /-- The fault behind them. -/
  fault : Option IoFault
  deriving DecidableEq, Inhabited, Repr

/-- The lines of an input. A line that is not ended is lost if a fault is met in it. -/
def Input.reader (i : Input) : Reader where
  lines := (cutLines i.bytes).filter (fun line => i.fault.isNone || line.getLast? == some 10)
  fault := i.fault

/-- **What a session did**: its acts, and the error that ended it, if one
did. -/
structure Record where
  /-- The acts, in order. -/
  acts : List Act
  /-- The error that ended the session. -/
  ending : Option RunError := none
  deriving DecidableEq, Repr

/-- The session from the next prompt on, over the lines still to come and the fault behind
them. -/
def runLines (prompt : String) (fault : Option IoFault) : List Bytes → Record
  | [] =>
    match fault with
    | none => { acts := .prompt prompt :: farewell }
    | some cause => { acts := [.prompt prompt], ending := some (.stream cause) }
  | line :: lines =>
    match respond line with
    | .close => { acts := [.prompt prompt] }
    | .fail e => { acts := [.prompt prompt], ending := some e }
    | .acts as =>
      let more := runLines prompt fault lines
      { acts := .prompt prompt :: as ++ more.acts, ending := more.ending }

/-- **A whole session** over an input. -/
def runOn (prompt : String) (input : Input) : Record :=
  let talk := runLines prompt input.reader.fault input.reader.lines
  { acts := .greet :: talk.acts, ending := talk.ending }

/-- A whole session over an input that just ends. -/
def run (prompt : String) (input : Bytes) : Record :=
  runOn prompt input

/-! ## What a session comes to -/

/-- What an act writes. A token is shown as a text listing shows it. -/
def Act.written? : Act → Option Piece
  | .greet => some ⟨.plain, welcome⟩
  | .prompt text => some ⟨.plain, text⟩
  | .showToken t => some (ScannedFile.tokenLine t)
  | .leaveLine => some ⟨.plain, "\n"⟩
  | .log _ => none

/-- The token an act shows. -/
def Act.token? : Act → Option Token
  | .showToken t => some t
  | _ => none

/-- What an act logs. -/
def Act.logged? : Act → Option Event
  | .log e => some e
  | _ => none

/-- What a session writes. -/
def Record.output (r : Record) : Output where
  pieces := r.acts.filterMap Act.written?
  ending := r.ending

/-- The tokens a session shows. -/
def Record.tokens (r : Record) : List Token :=
  r.acts.filterMap Act.token?

/-- What a session logs. -/
def Record.events (r : Record) : List Event :=
  r.acts.filterMap Act.logged?

end Session

end ScriptLexer

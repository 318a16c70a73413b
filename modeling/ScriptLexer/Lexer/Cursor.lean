import ScriptLexer.Lexer.History
import ScriptLexer.Log.Event

/-!
# Cursors

A lexer at work on a text that it can only look at one character at a time. It has the
whole text, the character it is at – read in advance – with its index, and the index
of the next. Everything it does is made of reading the next character: blanks are
skipped and runs are taken in loops, a pair is read by one step more, and at the end of
the text the cursor is parked, where reading on changes nothing.

That a scan comes to anything is not a matter of course. A loop may go on for ever – a
cursor that is parked while it holds a character would never leave it – and a stretch of
the text may be asked for that is not there. So a scan gives a result, or it stops at a
`SliceFault`, or it gives nothing (`Scan`); and a loop that does not end is one that gives
nothing.
-/

namespace ScriptLexer

/-- **What stops a scan**: a stretch of the text is asked for that is not in it. -/
inductive SliceFault where
  | outOfRange (start stop : Nat)
  deriving DecidableEq, Repr

/-- **A cursor** in a text. -/
structure Cursor where
  /-- The text. -/
  text : Array Char
  /-- The index of the current character. -/
  position : Nat
  /-- The index of the next character to read. -/
  readPosition : Nat
  /-- The current character; none once the end is passed. -/
  current? : Option Char
  /-- What was wrong with the characters read. -/
  diagnostics : Collection
  /-- What has been handed to the log. -/
  log : Array Event
  deriving DecidableEq, Repr

/-- **A scan**: it moves a cursor. It gives nothing if it does not end. -/
abbrev Scan := StateT Cursor (ExceptT SliceFault Option)

namespace Scan

/-- **A loop**: what is done each time, which gives a value to go on with, on the left, or
the result. -/
structure Loop (σ α : Type) where
  /-- What is done each time. -/
  body : σ → Scan (σ ⊕ α)

/-- Do it again and again, up to a result. -/
def Loop.run {σ α : Type} (loop : Loop σ α) (s : σ) : Scan α := do
  match ← loop.body s with
  | .inl s => loop |>.run s
  | .inr a => return a
partial_fixpoint

end Scan

namespace Cursor

/-! ## Looking -/

/-- The character after the current one. -/
def peek? (c : Cursor) : Option Char :=
  c.text[c.readPosition]?

/-- Whether every character has been read. -/
def isExhausted (c : Cursor) : Bool :=
  c.current?.isNone

/-! ## Moving -/

/-- **Reading a character.** Behind the end of the text the cursor stays where it is. -/
def readChar (c : Cursor) : Cursor :=
  if c.text.size < c.readPosition then c
  else
    { c with
      current? := c.text[c.readPosition]?
      position := c.readPosition
      readPosition := c.readPosition + 1 }

/-- A cursor that has just been set on a text. It has read the first character. -/
def ofText (text : String) : Cursor :=
  let c : Cursor :=
    { text := text.toList.toArray
      position := 0
      readPosition := 0
      current? := none
      diagnostics := .empty
      log := #[.createdLexer text.length] }
  c.readChar

/-- Reading on as long as the current character is of a class. -/
def readingWhile (p : Char → Bool) : Scan.Loop Unit Unit where
  body _ := do
    if (← get).current?.any p then
      modify readChar
      return .inl ()
    else return .inr ()

/-- Read on as long as the current character is of a class. -/
def readWhile (p : Char → Bool) : Scan Unit :=
  (readingWhile p).run ()

/-- The text from one index up to another. -/
def slice (start stop : Nat) : Scan String := do
  let c ← get
  if start ≤ stop ∧ stop ≤ c.text.size then
    return String.ofList (c.text.extract start stop).toList
  else throw (.outOfRange start stop)

/-- Hand an event to the log. -/
def note (e : Event) : Scan Unit :=
  modify fun c => { c with log := c.log.push e }

/-! ## Tokens -/

/-- Scan a run of characters of a class, whose text decides the kind. The cursor is left
at the first character behind it. -/
def scanRun (p : Char → Bool) (kindOf : String → Kind) : Scan Token := do
  let start := (← get).position
  readWhile p
  let literal ← slice start (← get).position
  return ⟨kindOf literal, literal⟩

/-- Scan a symbol that an `=` may extend. The cursor is left at its last character. -/
def scanOpenSymbol (ch : Char) (alone extended : Kind) : Scan Token := do
  if (← get).peek? = some '=' then
    modify readChar
    return ⟨extended, String.ofList [ch, '=']⟩
  else return ⟨alone, String.singleton ch⟩

/-- Scan an illegal character, and report it. -/
def scanIllegal (ch : Char) : Scan Token := do
  let literal := String.singleton ch
  modify fun c => { c with diagnostics := c.diagnostics.add (Lexer.illegalAt c.position literal) }
  return ⟨.illegal, literal⟩

/-- Scan what is neither a word nor a number: a symbol, an illegal character, or the end
of the input. The cursor is left at its last character. -/
def scanSymbol : Option Char → Scan Token
  | none => return Token.eof
  | some ch =>
    match openSymbol? ch with
    | some (alone, extended) => scanOpenSymbol ch alone extended
    | none =>
      match loneSymbol? ch with
      | some kind => return ⟨kind, String.singleton ch⟩
      | none => scanIllegal ch

/-- Scan the token at the current character. Only a run leaves the cursor behind it;
everything else is passed here. -/
def scanToken : Scan Token := do
  let c ← get
  if c.current?.any isLetter then scanRun isLetter fun word => (Kind.ofKeyword? word).getD .ident
  else if c.current?.any isDigit then scanRun isDigit fun _ => .int
  else
    let token ← scanSymbol c.current?
    modify readChar
    return token

/-- **Reading a token**, behind blanks. -/
def nextToken : Scan Token := do
  readWhile isBlank
  let start := (← get).position
  let token ← scanToken
  note (.scannedToken ⟨token, start⟩)
  return token

/-- The next token, or nothing at the end of the input. -/
def next? : Scan (Option Token) := do
  let token ← nextToken
  return if token.isEof then none else some token

/-- The next tokens, at most `n`. -/
def take : Nat → Scan (List Token)
  | 0 => return []
  | n + 1 => do
    match ← next? with
    | none => return []
    | some token => return token :: (← take n)

/-- Collecting tokens up to the end of the input, the last of those read in front. -/
def collecting : Scan.Loop (List Token) (List Token) where
  body read := do
    match ← next? with
    | none => return .inr read.reverse
    | some token => return .inl (token :: read)

/-- All tokens up to the end of the input. -/
def collect : Scan (List Token) :=
  collecting.run []

/-! ## Calls -/

/-- The answer to a call. -/
def perform : Lexer.Call → Scan Lexer.Reply
  | .nextToken => return .token (← nextToken)
  | .next => return .token? (← next?)
  | .take n => return .tokens (← take n)
  | .collect => return .tokens (← collect)
  | .peek => return .char? (← get).peek?
  | .diagnostics => return .diagnostics (← get).diagnostics
  | .takeDiagnostics => do
    let held := (← get).diagnostics
    modify fun c => { c with diagnostics := .empty }
    return .diagnostics held

/-- **A history**: the answer to each call of a list, made in turn, and the cursor after
it. -/
def run : List Lexer.Call → Scan (List (Lexer.Reply × Cursor))
  | [] => return []
  | call :: calls => do
    let reply ← perform call
    let after ← get
    return (reply, after) :: (← run calls)

/-- **All the tokens of a text**, closed by the end-of-input token. -/
def tokenize : Scan (List Token) := do
  return (← collect) ++ [Token.eof]

end Cursor

end ScriptLexer

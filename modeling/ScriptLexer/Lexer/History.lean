import ScriptLexer.Lexer.Basic

/-!
# Histories

What can be asked of a lexer, what it answers, and what a list of questions
does. Some calls read on – one token, several, all that are left; others only
look. A history is the run of a list of calls on one lexer, with the answer
to each call and the lexer after it.
-/

namespace ScriptLexer

namespace Lexer

/-- **A call** on a lexer. -/
inductive Call where
  /-- Read a token, the end-of-input token included. -/
  | nextToken
  /-- Read a token, or find none left. -/
  | next
  /-- Read at most so many tokens. -/
  | take (n : Nat)
  /-- Read all tokens left. -/
  | collect
  /-- Look at the character after the current one. -/
  | peek
  /-- Look at the diagnostics. -/
  | diagnostics
  /-- Take the diagnostics out. -/
  | takeDiagnostics
  deriving DecidableEq, Repr

/-- **The answer** to a call. -/
inductive Reply where
  | token (t : Token)
  | token? (t : Option Token)
  | tokens (ts : List Token)
  | char? (c : Option Char)
  | diagnostics (ds : Collection)
  deriving DecidableEq, Repr

/-- The answer to a call, and the lexer after it. -/
def perform (l : Lexer) : Call → Reply × Lexer
  | .nextToken => l.nextToken.map .token id
  | .next => l.next?.map .token? id
  | .take n => (l.take n).map .tokens id
  | .collect => l.collect.map .tokens id
  | .peek => (.char? l.peek?, l)
  | .diagnostics => (.diagnostics l.diagnostics, l)
  | .takeDiagnostics => l.takeDiagnostics.map .diagnostics id

/-- **A history**: the answer to each call of a list, made in turn, and the
lexer after it. -/
def run (l : Lexer) : List Call → List (Reply × Lexer)
  | [] => []
  | c :: cs =>
    let answer := l.perform c
    answer :: answer.2.run cs

/-- One answer for each call. -/
@[simp] theorem length_run (l : Lexer) (cs : List Call) :
    (l.run cs).length = cs.length := by
  induction cs generalizing l with
  | nil => rfl
  | cons c cs ih => simp [run, ih]

end Lexer

end ScriptLexer

import ScriptLexer.Text.CharClass

/-!
# Log levels

How much an event matters, from errors down to single steps. A level is
chosen by its word in lower case; where case is ignored, only the case of
ASCII letters is. A filter may also choose one by its rank, or choose none.
-/

namespace ScriptLexer

/-- **A log level**, the most important first. -/
inductive Level where
  | error
  | warn
  | info
  | debug
  | trace
  deriving DecidableEq, Repr, Inhabited

namespace Level

/-- Every level, the most important first. -/
def all : List Level :=
  [error, warn, info, debug, trace]

/-- The word a level is chosen by. -/
def word : Level → String
  | error => "error"
  | warn => "warn"
  | info => "info"
  | debug => "debug"
  | trace => "trace"

/-- The name a level is shown by. -/
def name : Level → String
  | error => "ERROR"
  | warn => "WARN"
  | info => "INFO"
  | debug => "DEBUG"
  | trace => "TRACE"

/-- The name as a log line begins, set to the right in five columns. -/
def column (l : Level) : String :=
  "".pushn ' ' (5 - l.name.length) ++ l.name

/-- How far down a level is; zero is kept for showing nothing. -/
def rank : Level → Nat
  | error => 1
  | warn => 2
  | info => 3
  | debug => 4
  | trace => 5

/-- The text with its ASCII letters in lower case. -/
def lowerCase (s : String) : String :=
  String.ofList (s.toList.map Char.toLower)

/-- **The level of a word**, if it is one. -/
def ofWord? (ignoreCase : Bool) (s : String) : Option Level :=
  all.find? (fun l => l.word == if ignoreCase then lowerCase s else s)

/-- A level is found again by its word. -/
theorem ofWord?_word (l : Level) : ofWord? false l.word = some l := by
  cases l <;> decide

/-- The number a text of digits stands for, with a plus sign or without. -/
def numberOf? (s : String) : Option Nat :=
  let digits := if s.toList.head? == some '+' then s.toList.drop 1 else s.toList
  if digits ≠ [] ∧ digits.all isDigit then
    some (digits.foldl (fun n c => 10 * n + (c.toNat - 48)) 0)
  else none

/-- **What a text lets through**: nothing, or all events down to a level. The text is
`off` or the word of a level, whatever the case, or its rank as a number. -/
def threshold? (s : String) : Option (Option Level) :=
  match numberOf? s with
  | some 0 => some none
  | some n => (all.find? (fun l => l.rank == n)).map some
  | none =>
    if lowerCase s = "off" then some none else (ofWord? true s).map some

/-- The wording for a word that is no level. -/
def unknownMessage (s : String) : String :=
  "invalid variant: " ++ s

end Level

end ScriptLexer

import ScriptLexer.Pattern.Flags

/-!
# Items of a pattern

The smallest parts of a pattern: a character that stands for itself, or something
behind a backslash. Which of them can be carried out depends on the flags, and on
whether they stand inside brackets.

Without tables of the properties of characters, a pattern over all scripts can
neither ignore case nor ask for digits or blanks. A pattern over ASCII can, but must
not match a part of a character of several bytes.
-/

namespace ScriptLexer

namespace Pattern

/-- **What an escape, or a plain character, stands for.** -/
inductive Item where
  /-- A character, which may be written as a byte. -/
  | char (c : Char) (isByte : Bool)
  /-- The digits, the blanks or the characters of words; or all others. -/
  | family (negated : Bool)
  /-- A place between two characters, perhaps the edge of a word. -/
  | place (ofWord : Bool)
  /-- Any character. -/
  | any
  deriving DecidableEq, Repr

/-- Whether an item can be carried out outside brackets. -/
def Item.fits (f : Flags) : Item → Bool
  | char c isByte => f.allowsChars && (f.allScripts || !isByte || c.toNat < 0x80)
  | family negated => !f.allScripts && !negated
  | place _ => true
  | any => f.allScripts

/-- Whether an item can be carried out inside brackets. -/
def Item.fitsBrackets (f : Flags) : Item → Bool
  | char c _ => f.allowsChars && (f.allScripts || c.toNat < 0x80)
  | family negated => !f.allScripts && !negated
  | place _ => false
  | any => false

/-- The value of a hexadecimal digit. -/
def hexDigit? (c : Char) : Option Nat :=
  if '0' ≤ c ∧ c ≤ '9' then some (c.toNat - 48)
  else if 'a' ≤ c ∧ c ≤ 'f' then some (c.toNat - 87)
  else if 'A' ≤ c ∧ c ≤ 'F' then some (c.toNat - 55)
  else none

/-- So many hexadecimal digits, after the value of those before them. -/
def hexNumber? (f : Flags) (value : Nat) : Nat → List Char → Option (Nat × List Char)
  | 0, cs => some (value, cs)
  | n + 1, cs =>
    match f.rest cs with
    | [] => none
    | c :: cs => (hexDigit? c).bind (fun d => hexNumber? f (16 * value + d) n cs)

/-- A character by its code point in so many hexadecimal digits. -/
def hexChar? (f : Flags) (digits : Nat) (cs : List Char) : Option (Item × List Char) := do
  let (value, cs) ← hexNumber? f 0 digits cs
  if value.isValidChar then
    some (.char (Char.ofNat value) (digits == 2), cs)
  else none

/-- Whether a character stands for itself after a backslash. -/
def isEscapable (c : Char) : Bool :=
  c.toNat < 0x80 && !c.isAlphanum && c ≠ '<' && c ≠ '>'

/-- The control character a letter names after a backslash. -/
def controlOf? : Char → Option Char
  | 'a' => some '\x07'
  | 't' => some '\t'
  | 'n' => some '\n'
  | 'v' => some '\x0b'
  | 'f' => some '\x0c'
  | 'r' => some '\r'
  | _ => none

/-- What stands after a backslash. -/
def escape? (f : Flags) : List Char → Option (Item × List Char)
  | [] => none
  | c :: cs =>
    if let some named := controlOf? c then some (.char named false, cs)
    else if c = 'x' then hexChar? f 2 cs
    else if c = 'u' then hexChar? f 4 cs
    else if c = 'U' then hexChar? f 8 cs
    else if ['d', 's', 'w'].contains c then some (.family false, cs)
    else if ['D', 'S', 'W'].contains c then some (.family true, cs)
    else if ['A', 'z'].contains c then some (.place false, cs)
    else if ['b', 'B', '<', '>'].contains c then
      -- A brace would begin the name of a place. These patterns have no braces.
      if c = 'b' && cs.head? == some '{' then none else some (.place true, cs)
    else if isEscapable c then some (.char c false, cs)
    else none

/-- An item outside brackets. -/
def item? (f : Flags) : List Char → Option (Item × List Char)
  | [] => none
  | '\\' :: cs => escape? f cs
  | '.' :: cs => some (.any, cs)
  | '^' :: cs => some (.place false, cs)
  | '$' :: cs => some (.place false, cs)
  | c :: cs => some (.char c false, cs)

end Pattern

end ScriptLexer

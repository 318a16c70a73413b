import ScriptLexer.Text.CharClass

/-!
# Flags of a pattern

A pattern can switch flags on and off as it goes. Most of them change only what it
matches; three decide how it is read, or whether it can be carried out, and those
are kept.
-/

namespace ScriptLexer

namespace Pattern

/-- **The flags** that decide how a pattern reads. -/
structure Flags where
  /-- Case is ignored. -/
  caseless : Bool := false
  /-- Characters are those of all scripts. -/
  allScripts : Bool := true
  /-- Blanks and comments are passed over. -/
  spaced : Bool := false
  deriving DecidableEq, Repr

namespace Flags

/-- Whether a text may stand where flags are set: letters of flags and at most
one hyphen, not at the end, and nothing twice. -/
def areWritten (cs : List Char) : Bool :=
  cs.all (fun c => "imsUuRx-".toList.contains c) && decide cs.Nodup
    && cs.getLast? != some '-'

/-- What a text of flags makes of one: before the hyphen it is switched on,
after it off. -/
def switched (cs : List Char) (flag : Char) (before : Bool) : Bool :=
  if (cs.takeWhile (· ≠ '-')).contains flag then true
  else if cs.contains flag then false
  else before

/-- The flags after a text of flags. -/
def set (f : Flags) (cs : List Char) : Flags where
  caseless := switched cs 'i' f.caseless
  allScripts := switched cs 'u' f.allScripts
  spaced := switched cs 'x' f.spaced

/-- A text without the blanks and comments it begins with; a comment runs from
`#` to the end of its line. -/
def passOver (comment : Bool) : List Char → List Char
  | [] => []
  | c :: cs =>
    if comment then passOver (c ≠ '\n') cs
    else if c = '#' then passOver true cs
    else if isBlank c then passOver false cs
    else c :: cs

/-- Where reading goes on. -/
def rest (f : Flags) (cs : List Char) : List Char :=
  if f.spaced then passOver false cs else cs

/-- The first character of a text that is no blank, nor the first `#` among them;
`hash` says whether that one is passed. -/
def afterMarks (hash : Bool) : List Char → Option Char
  | [] => none
  | c :: cs =>
    if isBlank c then afterMarks hash cs
    else if c = '#' ∧ !hash then afterMarks true cs
    else some c

/-- **The character that is looked for behind a hyphen.** Blanks do not count, nor
does one `#`; but what stands in a comment does. If nothing else stands there, it is
the first character of all. -/
def ahead? (f : Flags) (cs : List Char) : Option Char :=
  if f.spaced then (afterMarks false cs).or cs.head? else cs.head?

theorem length_passOver_le (comment : Bool) (cs : List Char) :
    (passOver comment cs).length ≤ cs.length := by
  induction cs generalizing comment with
  | nil => exact Nat.le_refl _
  | cons c cs ih =>
    simp only [passOver]
    split
    · exact Nat.le_succ_of_le (ih _)
    · split
      · exact Nat.le_succ_of_le (ih _)
      · split
        · exact Nat.le_succ_of_le (ih _)
        · exact Nat.le_refl _

/-- Passing over never lengthens. -/
theorem length_rest_le (f : Flags) (cs : List Char) :
    (f.rest cs).length ≤ cs.length := by
  unfold rest
  split
  · exact length_passOver_le _ _
  · exact Nat.le_refl _

/-- Whether single characters can be asked for. Without tables, case can be ignored
in ASCII alone. -/
def allowsChars (f : Flags) : Bool :=
  !(f.allScripts && f.caseless)

/-- Whether all others than some characters can be asked for. -/
def allowsOthers (f : Flags) (negated : Bool) : Bool :=
  f.allScripts || !negated

end Flags

end Pattern

end ScriptLexer

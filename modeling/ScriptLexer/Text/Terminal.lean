/-!
# Texts for a terminal

A text that a user typed may hold control characters and **control sequences**,
which a terminal obeys instead of showing. Before such a text stands in a
message they are taken out, so that the message looks as it was worded.

A reader of the text is either **showing** it or **inside a sequence**. A sequence
begins with the escape character, and the characters after it say of which kind
it is and where it ends. Four blanks – tab, line feed, form feed, carriage return –
are shown even within the sequences that a terminal would carry them out in, and
what follows such a blank is shown again.
-/

namespace ScriptLexer

/-- **Where a text for a terminal has got to.** -/
inductive Terminal where
  /-- In no sequence. -/
  | plain
  /-- After an escape character. -/
  | escape
  /-- After an escape character and the marks that lengthen its sequence. -/
  | escapeMarks
  /-- In a control sequence, before its final letter. -/
  | control
  /-- At the beginning of a device string. -/
  | device
  /-- In the numbers before a device string. -/
  | deviceNumbers
  /-- In the marks before a device string. -/
  | deviceMarks
  /-- In a string for a device or a program, up to its terminator. -/
  | string
  /-- In a command to the operating system, up to the bell. -/
  | command
  deriving DecidableEq, Repr

namespace Terminal

/-- The byte that ends a string, wherever it stands, be it in the encoding of a
longer character. -/
def terminator : UInt8 := 0x9C

/-- **Where a character leads to**. Cancelling a sequence, or beginning one anew,
is possible from everywhere. -/
def next (t : Terminal) (c : Char) : Terminal :=
  let n := c.toNat
  if n = 0x18 ∨ n = 0x1A then plain
  else if n = 0x1B then escape
  else
    match t with
    | plain => plain
    | escape =>
      if 0x20 ≤ n ∧ n ≤ 0x2F then escapeMarks
      else if c = 'P' then device
      else if c = '[' then control
      else if c = ']' then command
      else if c = 'X' ∨ c = '^' ∨ c = '_' then string
      else if 0x30 ≤ n ∧ n ≤ 0x7E then plain
      else escape
    | escapeMarks => if 0x30 ≤ n ∧ n ≤ 0x7E then plain else escapeMarks
    | control => if 0x40 ≤ n ∧ n ≤ 0x7E then plain else control
    | device =>
      if 0x20 ≤ n ∧ n ≤ 0x2F then deviceMarks
      else if 0x30 ≤ n ∧ n ≤ 0x3F then deviceNumbers
      else if 0x40 ≤ n ∧ n ≤ 0x7E then string
      else device
    | deviceNumbers =>
      if 0x20 ≤ n ∧ n ≤ 0x2F then deviceMarks
      else if 0x3C ≤ n ∧ n ≤ 0x7E then string
      else deviceNumbers
    | deviceMarks => if 0x30 ≤ n ∧ n ≤ 0x7E then string else deviceMarks
    | string => if (String.utf8EncodeChar c).contains terminator then plain else string
    | command => if n = 7 then plain else command

/-- Whether a control character is carried out here, and not taken as a part of a
string. -/
def obeys : Terminal → Bool
  | plain | escape | escapeMarks | control => true
  | device | deviceNumbers | deviceMarks | string | command => false

/-- **Whether a character is shown** at this place. -/
def shows (t : Terminal) (c : Char) : Bool :=
  if c = '\t' ∨ c = '\n' ∨ c = '\x0c' ∨ c = '\r' then t.obeys
  else t == plain && 0x20 ≤ c.toNat && c.toNat ≠ 0x7F

/-- What is shown of a text. While the reader is showing, a character is judged as
in no sequence, even if a blank broke one off; the place in that sequence is kept
until a character of more than one byte ends it. -/
def shown (t : Terminal) (showing : Bool) : List Char → List Char
  | [] => []
  | c :: cs =>
    if (if showing then plain else t).shows c then
      c :: shown (if c.toNat < 0x80 then t else plain) true cs
    else shown (t.next c) false cs

end Terminal

/-- **A text without control characters and sequences.** -/
def stripControls (s : String) : String :=
  String.ofList (Terminal.plain.shown true s.toList)

end ScriptLexer

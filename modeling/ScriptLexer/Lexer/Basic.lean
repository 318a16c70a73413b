import ScriptLexer.Diagnostic.Collection
import ScriptLexer.Lexer.Munch
import ScriptLexer.Text.Trim

/-!
# Lexers

A lexer stands at a place in a text and hands out the tokens from there on.
It holds the characters it has not read, how many it has read, and the
diagnostics for the illegal characters among those. Reading a token skips
the blanks before it; at the end of the text every further read gives the
end-of-input token and changes nothing.

Everything that pulls more than one token – `take`, `drain`, `tokenize` –
is repetition of `step`, and ends because a step that gives a token leaves
fewer characters than it found (`length_rest_step_lt`).
-/

namespace ScriptLexer

/-- **A token and its place**: the index of its first character. -/
structure Located where
  /-- The token. -/
  token : Token
  /-- How many characters come before it; for the end of the input, all. -/
  start : Nat
  deriving DecidableEq, Repr

/-- **A lexer** at a place in a text. -/
structure Lexer where
  /-- How many characters have been read. -/
  position : Nat
  /-- The characters not yet read. -/
  rest : List Char
  /-- What was wrong with the characters read. -/
  diagnostics : Collection
  deriving DecidableEq, Repr

namespace Lexer

/-- The lexer at the start of a text. -/
def ofText (text : String) : Lexer :=
  ⟨0, text.toList, .empty⟩

/-- The index of the next character to look at once the current one is
read, which a cursor in the text keeps beside that of the current one. -/
def readPosition (l : Lexer) : Nat :=
  l.position + 1

/-- The first character not yet read. -/
def current? (l : Lexer) : Option Char :=
  l.rest.head?

/-- The character after the current one. -/
def peek? (l : Lexer) : Option Char :=
  l.rest.tail.head?

/-- Whether every character has been read. -/
def isExhausted (l : Lexer) : Bool :=
  l.rest.isEmpty

/-- The diagnostic for an illegal character at an index. A span holds its
start in 32 bits, so an index past that range wraps. -/
def illegalAt (index : Nat) (literal : String) : Diagnostic :=
  .atSpan ⟨index.toUInt32, 1⟩ .invalidCharacter [literal]

/-- The diagnostics after a token has been read. -/
def record (c : Collection) (t : Located) : Collection :=
  if t.token.kind = .illegal then c.add (illegalAt t.start t.token.literal) else c

/-- **Reading a token**: the next token with its place, and the lexer right
after it. -/
def step (l : Lexer) : Located × Lexer :=
  let start := l.position + (l.rest.takeWhile isBlank).length
  match dropBlanks l.rest with
  | [] => (⟨.eof, start⟩, ⟨start, [], l.diagnostics⟩)
  | c :: cs =>
    let cut := munch c cs
    (⟨cut.1, start⟩,
      ⟨start + cut.1.literal.length, cut.2, record l.diagnostics ⟨cut.1, start⟩⟩)

/-- The next token, which is the end-of-input token once there is no
other. -/
def nextToken (l : Lexer) : Token × Lexer :=
  let read := l.step
  (read.1.token, read.2)

/-- The next token, or nothing at the end of the input. -/
def next? (l : Lexer) : Option Token × Lexer :=
  let read := l.step
  (if read.1.token.isEof then none else some read.1.token, read.2)

/-- The next tokens, at most `n`. Once `n` tokens are taken the lexer is
left alone, so the end of the input is met only if it is reached before. -/
def take : Nat → Lexer → List Token × Lexer
  | 0, l => ([], l)
  | n + 1, l =>
    match l.next? with
    | (none, l') => ([], l')
    | (some t, l') =>
      let more := take n l'
      (t :: more.1, more.2)

/-! ## Progress -/

/-- **Progress**: a step that gives a token leaves fewer characters. -/
theorem length_rest_step_lt {l : Lexer} (h : l.step.1.token.isEof = false) :
    l.step.2.rest.length < l.rest.length := by
  have hle := length_dropBlanks_le l.rest
  unfold step at h ⊢
  split
  · rename_i hnil
    simp [hnil] at h
  · rename_i c cs hcons
    have hm := munch_length_le c cs
    rw [hcons] at hle
    simp only [List.length_cons] at hle
    show (munch c cs).2.length < l.rest.length
    omega

/-- **Reading to the end**: every token up to the end of the input, each
with its place, and the lexer that has met the end. -/
def drain (l : Lexer) : List Located × Lexer :=
  let read := l.step
  if h : read.1.token.isEof then ([], read.2)
  else
    have : read.2.rest.length < l.rest.length :=
      length_rest_step_lt (by simpa using h)
    let more := drain read.2
    (read.1 :: more.1, more.2)
termination_by l.rest.length

/-- The tokens up to the end of the input, without their places. -/
def collect (l : Lexer) : List Token × Lexer :=
  let all := l.drain
  (all.1.map Located.token, all.2)

/-- **All the tokens of a text**, closed by the end-of-input token. -/
def tokenize (text : String) : List Token :=
  (ofText text).collect.1 ++ [Token.eof]

/-- The diagnostics held, and the lexer without them. -/
def takeDiagnostics (l : Lexer) : Collection × Lexer :=
  (l.diagnostics, { l with diagnostics := .empty })

theorem take_of_isEof {l : Lexer} (h : l.step.1.token.isEof = true) (n : Nat) :
    l.take (n + 1) = ([], l.step.2) := by
  have hnext : l.next? = (none, l.step.2) := by simp [next?, h]
  rw [take, hnext]

theorem take_of_not_isEof {l : Lexer} (h : l.step.1.token.isEof = false) (n : Nat) :
    l.take (n + 1) = (l.step.1.token :: (l.step.2.take n).1, (l.step.2.take n).2) := by
  have hnext : l.next? = (some l.step.1.token, l.step.2) := by simp [next?, h]
  rw [take, hnext]

theorem drain_of_isEof {l : Lexer} (h : l.step.1.token.isEof = true) :
    l.drain = ([], l.step.2) := by
  rw [drain]
  simp [h]

theorem drain_of_not_isEof {l : Lexer} (h : l.step.1.token.isEof = false) :
    l.drain = (l.step.1 :: l.step.2.drain.1, l.step.2.drain.2) := by
  rw [drain]
  simp [h]

end Lexer

end ScriptLexer

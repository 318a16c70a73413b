import ScriptLexer.Text.CharClass
import ScriptLexer.Token.Basic

/-!
# One token

What the first character of a token decides. A letter takes every letter
that follows, a digit every digit, and a symbol takes one character or, if
it is one of `=`, `<`, `>`, `!` with an `=` behind it, two. Any other
character is an illegal token by itself. So a token always takes the longest
text it can, and always at least its first character – which is why reading
a text token by token comes to an end.
-/

namespace ScriptLexer

/-- The kind of a symbol that is complete as it stands, whatever follows. -/
def loneSymbol? (c : Char) : Option Kind :=
  match c with
  | '+' => some .plus
  | '-' => some .minus
  | '/' => some .slash
  | '*' => some .asterisk
  | '(' => some .leftParen
  | ')' => some .rightParen
  | '{' => some .leftBrace
  | '}' => some .rightBrace
  | ',' => some .comma
  | ';' => some .semicolon
  | _ => none

/-- The kinds of a symbol that an `=` may extend: by itself, and with the
`=`. -/
def openSymbol? (c : Char) : Option (Kind × Kind) :=
  match c with
  | '=' => some (.assign, .eq)
  | '<' => some (.lt, .ltEq)
  | '>' => some (.gt, .gtEq)
  | '!' => some (.negation, .notEq)
  | _ => none

/-- The token a word is: a reserved word, or else an identifier. -/
def wordToken (word : List Char) : Token :=
  let literal := String.ofList word
  ⟨(Kind.ofKeyword? literal).getD .ident, literal⟩

/-- The token a symbol or illegal character begins, and what is left of the
characters after it. -/
def munchSymbol (c : Char) (cs : List Char) : Token × List Char :=
  match openSymbol? c with
  | some (alone, extended) =>
    match cs with
    | '=' :: ds => (⟨extended, String.ofList [c, '=']⟩, ds)
    | _ => (⟨alone, String.ofList [c]⟩, cs)
  | none =>
    match loneSymbol? c with
    | some kind => (⟨kind, String.ofList [c]⟩, cs)
    | none => (⟨.illegal, String.ofList [c]⟩, cs)

/-- **The token that begins with `c`**, and what is left of the characters
`cs` after it. -/
def munch (c : Char) (cs : List Char) : Token × List Char :=
  if isLetter c then
    (wordToken (c :: cs.takeWhile isLetter), cs.dropWhile isLetter)
  else if isDigit c then
    (⟨.int, String.ofList (c :: cs.takeWhile isDigit)⟩, cs.dropWhile isDigit)
  else munchSymbol c cs

/-! ## A token is the text it takes -/

theorem munchSymbol_append (c : Char) (cs : List Char) :
    (munchSymbol c cs).1.literal.toList ++ (munchSymbol c cs).2 = c :: cs := by
  unfold munchSymbol
  split
  · split <;> simp
  · split <;> simp

/-- **Nothing is lost**: the literal of a token, followed by what is left,
is the text it was read from. -/
theorem munch_append (c : Char) (cs : List Char) :
    (munch c cs).1.literal.toList ++ (munch c cs).2 = c :: cs := by
  unfold munch
  split
  · simp [wordToken]
  · split
    · simp
    · exact munchSymbol_append c cs

theorem munchSymbol_length_le (c : Char) (cs : List Char) :
    (munchSymbol c cs).2.length ≤ cs.length := by
  unfold munchSymbol
  split
  · split <;> simp
  · split <;> simp

/-- **A token takes its first character**, so less is left than there
was. -/
theorem munch_length_le (c : Char) (cs : List Char) :
    (munch c cs).2.length ≤ cs.length := by
  unfold munch
  split
  · exact (List.dropWhile_sublist _).length_le
  · split
    · exact (List.dropWhile_sublist _).length_le
    · exact munchSymbol_length_le c cs

end ScriptLexer

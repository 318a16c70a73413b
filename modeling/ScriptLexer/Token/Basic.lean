import ScriptLexer.Token.Kind

/-!
# Tokens

A token is a kind together with the exact text it covers. Tokens are plain
values: two are equal when both components are. Only the kind says whether
a token is the end of the input, whatever its text.
-/

namespace ScriptLexer

/-- **A token**: a kind and the text of the source it covers. -/
structure Token where
  /-- The lexical class. -/
  kind : Kind
  /-- The text covered, empty for the end of the input. -/
  literal : String
  deriving DecidableEq, Repr, Inhabited

namespace Token

/-- The token that stands for the end of the input. -/
def eof : Token := ⟨.eof, ""⟩

/-- Whether the token's kind is the end of the input. -/
def isEof (t : Token) : Bool :=
  t.kind == .eof

/-- The line a listing shows for the token, without its line break. -/
def render (t : Token) : String :=
  "Type: " ++ t.kind.name ++ ", Literal: " ++ t.literal

@[simp] theorem isEof_eof : eof.isEof = true := rfl

theorem isEof_iff (t : Token) : t.isEof = true ↔ t.kind = .eof := by
  simp [isEof]

end Token

end ScriptLexer

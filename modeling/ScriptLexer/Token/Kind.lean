/-!
# Token kinds

The closed set of lexical classes of a script. A kind has a **name**, by
which it is shown; some kinds also have one fixed **spelling**, and the
spellings that are words are the reserved words.

Two tables are kept apart on purpose. `Kind.ofKeyword?` goes from a word
to its kind and is what a lexer asks; `Kind.spelling?` goes from a kind to
its text and is what a printer asks. The order of the kinds is the order
in which they are declared.
-/

namespace ScriptLexer

/-- **A token kind.** -/
inductive Kind where
  /-- A character that starts no token. -/
  | illegal
  /-- The end of the input. -/
  | eof
  /-- A word that is not reserved. -/
  | ident
  /-- A run of digits. -/
  | int
  | assign
  | eq
  | notEq
  | lt
  | ltEq
  | gt
  | gtEq
  | negation
  | plus
  | minus
  | slash
  | asterisk
  | comma
  | semicolon
  | leftParen
  | rightParen
  | leftBrace
  | rightBrace
  /-- The word `function`. -/
  | function
  /-- The word `var`, which opens a variable definition. -/
  | letVar
  /-- The word `if`. -/
  | ifWord
  /-- The word `else`. -/
  | elseWord
  /-- The word `return`. -/
  | returnWord
  /-- The word `true`. -/
  | trueWord
  /-- The word `false`. -/
  | falseWord
  deriving DecidableEq, Repr, Inhabited

namespace Kind

/-- Every kind, in declaration order. -/
def all : List Kind :=
  [illegal, eof, ident, int, assign, eq, notEq, lt, ltEq, gt, gtEq, negation, plus,
    minus, slash, asterisk, comma, semicolon, leftParen, rightParen, leftBrace,
    rightBrace, function, letVar, ifWord, elseWord, returnWord, trueWord, falseWord]

/-- No kind is missing from the list of all kinds. -/
theorem mem_all (k : Kind) : k ∈ all := by
  cases k <;> decide

/-- The place of a kind in declaration order, counted from zero. -/
def index (k : Kind) : Nat :=
  k.ctorIdx

/-- The name a kind is shown by. -/
def name : Kind → String
  | illegal => "ILLEGAL"
  | eof => "EOF"
  | ident => "IDENT"
  | int => "INT"
  | assign => "ASSIGN"
  | eq => "EQ"
  | notEq => "NOT_EQ"
  | lt => "LT"
  | ltEq => "LE"
  | gt => "GT"
  | gtEq => "GE"
  | negation => "NEGATION"
  | plus => "PLUS"
  | minus => "MINUS"
  | slash => "DIVISION"
  | asterisk => "MULTIPLICATION"
  | comma => "COMMA"
  | semicolon => "SEMICOLON"
  | leftParen => "LPAREN"
  | rightParen => "RPAREN"
  | leftBrace => "LBRACE"
  | rightBrace => "RBRACE"
  | function => "FUNCTION"
  | letVar => "LET"
  | ifWord => "IF"
  | elseWord => "ELSE"
  | returnWord => "RETURN"
  | trueWord => "TRUE"
  | falseWord => "FALSE"

/-- The kind with the given name. -/
def ofName? (s : String) : Option Kind :=
  all.find? (fun k => k.name == s)

/-- **The reserved words**: the kind of a word that is reserved. Only the
exact spelling counts, case included. -/
def ofKeyword? (word : String) : Option Kind :=
  match word with
  | "else" => some elseWord
  | "false" => some falseWord
  | "function" => some function
  | "if" => some ifWord
  | "return" => some returnWord
  | "true" => some trueWord
  | "var" => some letVar
  | _ => none

/-- **The fixed spellings**: the one text a token of this kind can have,
if its kind fixes it. -/
def spelling? : Kind → Option String
  | illegal => none
  | eof => none
  | ident => none
  | int => none
  | assign => some "="
  | eq => some "=="
  | notEq => some "!="
  | lt => some "<"
  | ltEq => some "<="
  | gt => some ">"
  | gtEq => some ">="
  | negation => some "!"
  | plus => some "+"
  | minus => some "-"
  | slash => some "/"
  | asterisk => some "*"
  | comma => some ","
  | semicolon => some ";"
  | leftParen => some "("
  | rightParen => some ")"
  | leftBrace => some (String.singleton '{')
  | rightBrace => some (String.singleton '}')
  | function => some "function"
  | letVar => some "var"
  | ifWord => some "if"
  | elseWord => some "else"
  | returnWord => some "return"
  | trueWord => some "true"
  | falseWord => some "false"

/-! ## Groups of kinds -/

/-- Whether the kind is a reserved word. -/
def isKeyword : Kind → Bool
  | function | letVar | ifWord | elseWord | returnWord | trueWord | falseWord => true
  | _ => false

/-- Whether the kind is an operator. -/
def isOperator : Kind → Bool
  | assign | eq | notEq | lt | ltEq | gt | gtEq | negation | plus | minus | slash
  | asterisk => true
  | _ => false

/-- Whether the kind is a delimiter. -/
def isPunctuation : Kind → Bool
  | comma | semicolon | leftParen | rightParen | leftBrace | rightBrace => true
  | _ => false

/-! ## Order -/

/-- Whether `a` is declared no later than `b`. -/
def le (a b : Kind) : Bool :=
  a.index ≤ b.index

/-- The kinds of a list in declaration order. -/
def sort (ks : List Kind) : List Kind :=
  ks.mergeSort le

/-- A kind stands in the list of all kinds at its own index, so the list
is in declaration order and holds each kind once. -/
theorem all_getElem?_index (k : Kind) : all[k.index]? = some k := by
  cases k <;> rfl

/-- A kind is found again by its name, so no two kinds share a name. -/
theorem ofName?_name (k : Kind) : ofName? k.name = some k := by
  cases k <;> decide

@[simp] theorem name_inj {k k' : Kind} : k.name = k'.name ↔ k = k' := by
  refine ⟨fun h => ?_, congrArg name⟩
  rw [← Option.some_inj, ← ofName?_name k, h, ofName?_name]

end Kind

end ScriptLexer

import ScriptLexer.Pattern.Depth
import ScriptLexer.Pattern.Item

/-!
# Brackets of a pattern

Brackets list the characters of a set: one by one, as ranges, by the name of a class,
or as further sets in brackets, with marks for what two sets have in common and for
the like. Only where they end, how deep they are nested, and whether what is in them
is well formed, is asked here.
-/

namespace ScriptLexer

namespace Pattern

/-- An item inside brackets. -/
def bracketItem? (f : Flags) : List Char → Option (Item × List Char)
  | [] => none
  | '\\' :: cs => escape? f cs
  | c :: cs => some (.char c false, cs)

/-- An item inside brackets, or two characters with a hyphen between them, which
stand for all from the one to the other. -/
def bracketRange? (f : Flags) (cs : List Char) : Option (List Char) := do
  let (first, cs) ← bracketItem? f cs
  if !first.fitsBrackets f then none
  else
    let after := f.rest cs
    match after with
    | '-' :: more =>
      if f.ahead? more = some ']' ∨ f.ahead? more = some '-' then some after
      else
        let (last, cs) ← bracketItem? f (f.rest more)
        match first, last with
        | .char a _, .char b _ =>
          if a ≤ b && last.fitsBrackets f then some cs else none
        | _, _ => none
    | after => some after

/-- The names of the ASCII classes inside brackets. -/
def classNames : List String :=
  ["alnum", "alpha", "ascii", "blank", "cntrl", "digit", "graph", "lower", "print",
    "punct", "space", "upper", "word", "xdigit"]

/-- An ASCII class by its name, after the bracket that opens it: whether all
others are meant, and what follows. -/
def namedClass? : List Char → Option (Bool × List Char)
  | ':' :: cs =>
    let negated := cs.head? == some '^'
    let cs := if negated then cs.drop 1 else cs
    let name := cs.takeWhile (· ≠ ':')
    match cs.dropWhile (· ≠ ':') with
    | ':' :: ']' :: cs =>
      if classNames.contains (String.ofList name) then some (negated, cs) else none
    | _ => none
  | _ => none

/-- **A set**, as far as it is read. -/
structure SetRow where
  /-- Its members since the last mark. -/
  members : Row := {}
  /-- The depth of what stands before the last mark, if there is one. -/
  before : Option Nat := none
  deriving DecidableEq, Repr

namespace SetRow

/-- The depth of a set. -/
def depth (s : SetRow) : Nat :=
  match s.before with
  | none => s.members.depth
  | some left => pairDepth left s.members.depth

/-- A set with a further member. -/
def add (s : SetRow) (depth : Nat) : SetRow :=
  { s with members := s.members.add depth }

/-- A set after a mark: what has been read of it is the left one of two. -/
def mark (s : SetRow) : SetRow :=
  ⟨{}, some s.depth⟩

end SetRow

/-- How many hyphens a text begins with, and what follows them. -/
def leadingHyphens (f : Flags) : List Char → Nat × List Char
  | '-' :: cs =>
    let more := leadingHyphens f (f.rest cs)
    (more.1 + 1, more.2)
  | cs => (0, cs)
termination_by cs => cs.length
decreasing_by exact Nat.lt_succ_of_le (f.length_rest_le cs)

/-- **The beginning of a set.** -/
structure SetOpening where
  /-- Whether all other characters are meant. -/
  negated : Bool
  /-- The set so far. -/
  set : SetRow
  /-- What follows. -/
  rest : List Char
  deriving DecidableEq, Repr

/-- The beginning of a set, after the bracket that opens it. A bracket that would
close it at once stands for itself, as hyphens do here. -/
def openBrackets (f : Flags) (cs : List Char) : SetOpening :=
  let cs := f.rest cs
  let negated := cs.head? == some '^'
  let cs := if negated then f.rest (cs.drop 1) else cs
  match cs with
  | ']' :: more => ⟨negated, ⟨({} : Row).add 0, none⟩, f.rest more⟩
  | _ =>
    let hyphens := leadingHyphens f cs
    ⟨negated, ⟨({} : Row).addItems hyphens.1, none⟩, hyphens.2⟩

/-- Whether the beginning of a set can be carried out. A set without a member can,
whatever the flags. -/
def SetOpening.fits (f : Flags) (o : SetOpening) : Bool :=
  f.allowsOthers o.negated && (o.set.members.count == 0 || f.allowsChars)

/-- **The brackets that are open**: the set being read, and those outside it, the
innermost first. -/
structure Brackets where
  inner : SetRow
  outside : List SetRow := []
  deriving DecidableEq, Repr

namespace Brackets

/-- A further member of the set being read. -/
def add (b : Brackets) (depth : Nat) : Brackets :=
  { b with inner := b.inner.add depth }

/-- The set being read ends. It is a member of the next one, if there is one. -/
def close? (b : Brackets) : Option Brackets :=
  match b.outside with
  | [] => none
  | s :: ss => some ⟨s.add (b.inner.depth + 1), ss⟩

/-- Reading what comes next inside brackets, when it is not their end. Two equal
characters of a kind are a mark, which makes one set of two. -/
def step? (f : Flags) (b : Brackets) (c : Char) (more : List Char) :
    Option (Brackets × List Char) :=
  if c = ']' then b.close?.map (fun b => (b, more))
  else if c = '[' then
    match namedClass? more with
    | some (negated, after) =>
      if f.allowsChars && f.allowsOthers negated then some (b.add 0, after) else none
    | none =>
      let opening := openBrackets f more
      if opening.fits f then some (⟨opening.set, b.inner :: b.outside⟩, opening.rest)
      else none
  else if (c = '&' ∨ c = '-' ∨ c = '~') ∧ more.head? = some c then
    some ({ b with inner := b.inner.mark }, more.drop 1)
  else (bracketRange? f (c :: more)).map (fun after => (b.add 0, after))

/-- Reading to the end of the outermost brackets: the depth of the set, and what
follows. -/
def finish? (f : Flags) (b : Brackets) (cs : List Char) : Option (Nat × List Char) :=
  match f.rest cs with
  | [] => none
  | c :: more =>
    if c = ']' ∧ b.outside = [] then some (b.inner.depth + 1, more)
    else
      match b.step? f c more with
      | none => none
      | some (b, after) =>
        -- Every step takes at least a character.
        if after.length < cs.length then b.finish? f after else none
termination_by cs.length

end Brackets

/-- **Reading a set**, after the bracket that opens it: its depth, and what
follows. -/
def brackets? (f : Flags) (cs : List Char) : Option (Nat × List Char) :=
  let opening := openBrackets f cs
  if opening.fits f then ({ inner := opening.set } : Brackets).finish? f opening.rest
  else none

end Pattern

end ScriptLexer

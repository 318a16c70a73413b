import ScriptLexer.Pattern.Brackets
import ScriptLexer.Text.Alphanumeric

/-!
# Patterns

A **pattern** is a regular expression. Nothing is ever matched with one here: the
question is only whether a text is one, and one that can be carried out byte by
byte without tables of the properties of characters. Braces cannot be written where
these patterns come from, so one that opens never closes and is refused.

A pattern is read from left to right. What has to be known of the part before is
small: the flags in force, the depths of the parts, the same outside each open group,
the names of the groups, and whether there is something to repeat.
-/

namespace ScriptLexer

namespace Pattern

/-- **Why a text is refused** as a pattern. -/
inductive Fault where
  /-- It is no regular expression, is nested too deep, or needs a table. -/
  | malformed
  /-- It asks whether two characters stand at the edge of a word, of any script. -/
  | wordEdge
  deriving DecidableEq, Repr

/-- **What encloses a group.** -/
structure Enclosing where
  /-- The flags outside the group. -/
  flags : Flags
  /-- The parts before it. -/
  row : Row
  /-- The alternatives before those. -/
  alternatives : Row
  deriving DecidableEq, Repr

/-- **How far a pattern is read.** -/
structure Reading where
  /-- The flags in force. -/
  flags : Flags := {}
  /-- The parts since the group, or the alternative, began. -/
  row : Row := {}
  /-- The alternatives before. -/
  alternatives : Row := {}
  /-- What encloses each open group, the innermost first. -/
  outside : List Enclosing := []
  /-- The names of the groups so far. -/
  names : List (List Char) := []
  /-- Whether there is something to repeat. -/
  repeatable : Bool := false
  /-- Whether the edge of a word of any script is asked for. -/
  wordEdge : Bool := false
  deriving DecidableEq, Repr

namespace Reading

/-- The depth of the group that is being read. -/
def depth (r : Reading) : Nat :=
  (r.alternatives.add r.row.depth).depth

/-- A further part, which can be repeated or not. -/
def add (r : Reading) (depth : Nat) (repeatable : Bool) : Reading :=
  { r with row := r.row.add depth, repeatable := repeatable }

/-- A group with its own flags begins. -/
def enter (r : Reading) (inside : Flags) : Reading :=
  { r with
    flags := inside
    row := {}
    alternatives := {}
    outside := ⟨r.flags, r.row, r.alternatives⟩ :: r.outside
    repeatable := false }

/-- The group that is being read ends, if there is one. -/
def leave? (r : Reading) : Option Reading :=
  match r.outside with
  | [] => none
  | s :: ss =>
    let before :=
      { r with flags := s.flags, row := s.row, alternatives := s.alternatives, outside := ss }
    some (before.add (r.depth + 1) true)

/-- A further alternative begins. -/
def alternative (r : Reading) : Reading :=
  { r with row := {}, alternatives := r.alternatives.add r.row.depth, repeatable := false }

/-- The last part is repeated, if it can be. A question mark right behind the
mark of the repetition belongs to it. -/
def repeat? (r : Reading) (cs : List Char) : Option (Reading × List Char) :=
  if r.repeatable then
    some ({ r with row := r.row.wrapLast },
      if cs.head? = some '?' then cs.drop 1 else cs)
  else none

/-- Whether a text may be the name of a group. -/
def isName : List Char → Bool
  | [] => false
  | c :: cs => (c == '_' || isAlphabetic c)
      && cs.all (fun c => ['_', '.', '[', ']'].contains c || isAlphanumeric c)

/-- A group with a name, after the bracket that opens the name. -/
def named? (r : Reading) (cs : List Char) : Option (Reading × List Char) :=
  let name := cs.takeWhile (· ≠ '>')
  match cs.dropWhile (· ≠ '>') with
  | [] => none
  | _ :: cs =>
    if isName name && !r.names.contains name then
      some ({ r.enter r.flags with names := name :: r.names }, cs)
    else none

/-- What a parenthesis begins: a group, or flags for the rest of the group it
stands in. -/
def group? (r : Reading) (cs : List Char) : Option (Reading × List Char) :=
  match r.flags.rest cs with
  | '?' :: 'P' :: '<' :: cs => r.named? cs
  | '?' :: '<' :: cs => r.named? cs
  | '?' :: cs =>
    let isFlag := fun c : Char => c ≠ ':' ∧ c ≠ ')'
    let written := cs.takeWhile isFlag
    if !Flags.areWritten written then none
    else
      match cs.dropWhile isFlag with
      | ':' :: cs => some (r.enter (r.flags.set written), cs)
      | ')' :: cs =>
        if written.isEmpty then none
        else some ({ r.add 0 false with flags := r.flags.set written }, cs)
      | _ => none
  | cs => some (r.enter r.flags, cs)

/-- Reading the item, or the mark, that comes next. -/
def step? (r : Reading) : List Char → Option (Reading × List Char)
  | [] => none
  | '(' :: cs => r.group? cs
  | ')' :: cs => r.leave?.map (fun r => (r, cs))
  | '|' :: cs => some (r.alternative, cs)
  | '[' :: cs => (brackets? r.flags cs).map (fun (depth, cs) => (r.add depth true, cs))
  | '{' :: _ => none
  | c :: cs =>
    if c = '*' ∨ c = '+' ∨ c = '?' then r.repeat? cs
    else
      (item? r.flags (c :: cs)).bind (fun (i, cs) =>
        if i.fits r.flags then
          some ({ r.add 0 true with
            wordEdge := r.wordEdge || (i == .place true && r.flags.allScripts) }, cs)
        else none)

/-- Reading to the end. Every group must be closed. -/
def finish? (r : Reading) (cs : List Char) : Option Reading :=
  match r.flags.rest cs with
  | [] => if r.outside.isEmpty then some r else none
  | c :: more =>
    match r.step? (c :: more) with
    | none => none
    | some (r, after) =>
      -- Every step takes at least a character.
      if after.length < cs.length then r.finish? after else none
termination_by cs.length

end Reading

/-- **Whether a text is a pattern**, or else why not. -/
def fault? (s : String) : Option Fault :=
  match ({} : Reading).finish? s.toList with
  | none => some .malformed
  | some r =>
    if maxDepth < r.depth then some .malformed
    else if r.wordEdge then some .wordEdge
    else none

end Pattern

end ScriptLexer

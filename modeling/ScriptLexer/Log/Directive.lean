import ScriptLexer.Log.Event
import ScriptLexer.Pattern.Basic
import ScriptLexer.Text.Bytes
import ScriptLexer.Text.Trim

/-!
# Log directives

A **directive** gives a level to some events: to those whose target begins with a
text, that have a certain value, or both. It is written `target[span{field}]=level`,
and each of the parts may be missing; a field may be written with a value behind an
`=`.

A span is a stretch of work that events happen in. This program has none, and a
value is only ever compared within a span, so a directive that asks for either holds
for no event. It is read like any other, and can be as wrong as any other.

Blanks around a directive are passed over while it is read, but the parts are cut
from the text *with* its blanks, at the places counted without them. So blanks at
the front shift every part, and blanks at the end belong to the last.
-/

namespace ScriptLexer

/-! ## Fields -/

/-- **A field** that a directive asks for. -/
structure FieldFilter where
  /-- The name of a value. -/
  name : String
  /-- What the value is compared with. -/
  value : Option String
  deriving DecidableEq, Repr

/-- **What can be wrong** with a directive. -/
inductive DirectiveError where
  /-- It is not built like one. -/
  | malformed
  /-- Where a level should be there is none. -/
  | unknownLevel
  /-- What a value is compared with is no pattern. -/
  | badPattern (fault : Pattern.Fault)
  deriving DecidableEq, Repr

/-- The wording of what is wrong with a directive. -/
def DirectiveError.message : DirectiveError → String
  | malformed => "invalid filter directive"
  | unknownLevel =>
    "error parsing level filter: expected one of \"off\", \"error\", \"warn\", "
      ++ "\"info\", \"debug\", \"trace\", or a number 0-5"
  | badPattern .malformed => "invalid field filter: error building NFA"
  | badPattern .wordEdge =>
    "invalid field filter: unsupported regex feature for DFAs: cannot build DFAs for "
      ++ "regexes with Unicode word boundaries; switch to ASCII word boundaries, or "
      ++ "heuristically enable Unicode word boundaries or use a different regex engine"

namespace FieldFilter

/-- Whether a text is the digits of a number, perhaps with a point among them and
a power of ten behind them. -/
def isUnsignedNumber (cs : List Char) : Bool :=
  let whole := cs.takeWhile isDigit
  let afterWhole := cs.dropWhile isDigit
  let hasPoint := afterWhole.head? == some '.'
  let afterPoint := if hasPoint then afterWhole.drop 1 else afterWhole
  let part := if hasPoint then afterPoint.takeWhile isDigit else []
  let power := if hasPoint then afterPoint.dropWhile isDigit else afterPoint
  let isPower :=
    match power with
    | [] => true
    | e :: cs =>
      let digits := if cs.head?.any (fun c => c == '+' || c == '-') then cs.drop 1 else cs
      (e == 'e' || e == 'E') && !digits.isEmpty && digits.all isDigit
  !(whole ++ part).isEmpty && isPower

/-- Whether a text is a number or one of the words for what is none. -/
def isUnsigned (cs : List Char) : Bool :=
  isUnsignedNumber cs
    || ["inf", "infinity", "nan"].contains (Level.lowerCase (String.ofList cs))

/-- Why nothing can be compared with a text, if so. A number with a plus sign is no
pattern, but a value of its own; every other value is a pattern too. -/
def fault? (value : String) : Option Pattern.Fault :=
  match value.toList with
  | '+' :: cs => if isUnsigned cs then none else Pattern.fault? value
  | _ => Pattern.fault? value

/-- **Reading a field**: a name, and a value behind an `=`. What follows another
`=` is passed over. -/
def ofText (s : String) : Except DirectiveError FieldFilter :=
  match s.toList.splitOn '=' with
  | name :: value :: _ =>
    match fault? (String.ofList value) with
    | some fault => .error (.badPattern fault)
    | none => .ok ⟨String.ofList name, some (String.ofList value)⟩
  | _ => .ok ⟨s, none⟩

end FieldFilter

/-! ## Directives -/

/-- **A directive**: how much is shown of some events. -/
structure Directive where
  /-- What the targets begin with; if missing, all targets are meant. -/
  target : Option String
  /-- The name of a span, perhaps empty. -/
  span : Option String
  /-- The field that events have. -/
  field : Option FieldFilter
  /-- The least important level still shown, or none at all. -/
  level : Option Level
  deriving DecidableEq, Repr

namespace Directive

/-- Whether a directive can hold outside of spans. -/
def isStatic (d : Directive) : Bool :=
  d.span.isNone && d.field.all (fun f => f.value.isNone)

/-- Whether a directive is about an event. -/
def applies (d : Directive) (e : Event) : Bool :=
  d.isStatic
    && d.target.all (fun t => t.toList.isPrefixOf e.target.toList)
    && d.field.all (fun f => e.hasField f.name)

/-- Whether a directive lets an event of a level through. -/
def shows (d : Directive) (l : Level) : Bool :=
  d.level.any (fun least => l.rank ≤ least.rank)

/-- How much of a target is given: nothing, or so many bytes. -/
def reach (d : Directive) : Nat :=
  match d.target with
  | none => 0
  | some t => byteLength t.toList + 1

/-- Whether a field comes before another, or before none. -/
def fieldOutranks : Option FieldFilter → Option FieldFilter → Bool
  | none, _ => false
  | some _, none => true
  | some f, some g => g.name < f.name

/-- **Which of two directives decides** on an event to which both apply: the one
that gives more of the target; if both give the same, the one with a field, and of
two fields the one whose name comes later. -/
def outranks (d e : Directive) : Bool :=
  e.reach < d.reach || (e.reach == d.reach && fieldOutranks d.field e.field)

/-! ## Reading a directive -/

/-- **Which part of a directive is being read**, and from where on. -/
inductive Part where
  /-- Nothing yet. -/
  | start
  /-- A target, or a level that stands alone. -/
  | word (first : Nat)
  /-- The name of a span. -/
  | span (first : Nat)
  /-- A field. -/
  | field (first : Nat)
  /-- What comes after the field. -/
  | afterField
  /-- What comes after the brackets. -/
  | afterSpan
  /-- The level. -/
  | level (first : Nat)
  deriving DecidableEq, Repr

/-- **A directive in part.** -/
structure Draft where
  part : Part := .start
  target : Option String := none
  span : Option String := none
  field : Option FieldFilter := none
  deriving DecidableEq, Repr

/-- A part of a text, from one byte up to another. It is missing if it would cut a
character in two. -/
def cut? (s : String) (first last : Nat) : Option String :=
  decode? (((encode s).take last).drop first)

/-- A part of a text, if it can be cut. -/
def cut (s : String) (first last : Nat) : Except DirectiveError String :=
  match cut? s first last with
  | some part => .ok part
  | none => .error .malformed

/-- Whether a directive may begin with a character. -/
def canBegin (c : Char) : Bool :=
  c == '-' || c == ':' || c == '_' || isAlphanumeric c

/-- **Reading a character** that stands at a byte of a directive. -/
def Draft.step (s : String) (d : Draft) (i : Nat) (c : Char) :
    Except DirectiveError Draft :=
  match d.part with
  | .start =>
    if c = '[' then .ok { d with part := .span (i + 1) }
    else if canBegin c then .ok { d with part := .word i }
    else .error .malformed
  | .word first => do
    if c = '=' then
      return { d with part := .level (i + 1), target := some (← cut s first i) }
    else if c = '[' then
      return { d with part := .span (i + 1), target := some (← cut s first i) }
    else return d
  | .span first => do
    if c = ']' then
      return { d with part := .afterSpan, span := some (← cut s first i) }
    else if c = '{' then
      let name ← cut s first i
      return { d with
        part := .field (i + 1), span := if name = "" then none else some name }
    else return d
  | .field first => do
    if c = '}' then
      let text ← cut s first i
      if text = "" then .error .malformed
      else return { d with part := .afterField, field := some (← FieldFilter.ofText text) }
    else return d
  | .afterField =>
    if c = ']' then .ok { d with part := .afterSpan } else .error .malformed
  | .afterSpan =>
    if c = '=' then .ok { d with part := .level (i + 1) } else .error .malformed
  | .level _ => .ok d

/-- Reading the characters from a byte on. -/
def Draft.steps (s : String) (d : Draft) (i : Nat) :
    List Char → Except DirectiveError Draft
  | [] => .ok d
  | c :: cs => do (← d.step s i c).steps s (i + c.utf8Size) cs

/-- The directive of a draft, with a level. -/
def Draft.withLevel (d : Draft) (level : Option Level) : Directive :=
  ⟨d.target, d.span, d.field, level⟩

/-- The directive that is read to its end. One without a level shows everything. -/
def Draft.finish (s : String) (d : Draft) : Except DirectiveError Directive := do
  let size := (encode s).length
  match d.part with
  | .word first =>
    let text ← cut s first size
    match Level.threshold? text with
    | some level => return d.withLevel level
    | none => return { d.withLevel (some .trace) with target := some text }
  | .level first =>
    let text ← cut s first size
    if text = "" then return d.withLevel (some .trace)
    else
      match Level.threshold? text with
      | some level => return d.withLevel level
      | none => .error .unknownLevel
  | .afterSpan => return d.withLevel (some .trace)
  | _ => .error .malformed

/-- **Reading a directive.** -/
def ofText (s : String) : Except DirectiveError Directive := do
  (← ({} : Draft).steps s 0 (trimBoth s).toList).finish s

end Directive

end ScriptLexer

import ScriptLexer.Log.Directive

/-!
# Log filters

Which events are shown. A filter is a list of **directives**. Of those that apply to
an event the one that outranks the others decides, and among equals the last; an
event to which none applies is not shown.

A filter is written as directives between commas. Where no directive can be read,
one level given from elsewhere holds for all events. A directive that can be read
but applies to nothing still takes that level's place.
-/

namespace ScriptLexer

/-- **A log filter.** -/
abbrev Filter := List Directive

namespace Filter

/-- The directive that decides on an event: of those that apply, the last that no
other outranks. -/
def deciding? (f : Filter) (e : Event) : Option Directive :=
  f.foldl (fun best d =>
    if d.applies e && best.all (fun b => !b.outranks d) then some d
    else best) none

/-- **Whether an event is shown.** -/
def shows (f : Filter) (e : Event) : Bool :=
  (f.deciding? e).any (fun d => d.shows e.level)

/-- The filter that shows every event down to a level. -/
def ofLevel (l : Level) : Filter :=
  [⟨none, none, none, some l⟩]

/-- The parts of a written filter: what stands between its commas, unless it
is empty. -/
def parts (s : String) : List String :=
  ((s.toList.splitOn ',').filter (fun cs => !cs.isEmpty)).map String.ofList

/-- The filter that is written, or the given level if no part of it can be
read. -/
def ofText (s : String) (fallback : Level) : Filter :=
  match (parts s).filterMap (fun p => (Directive.ofText p).toOption) with
  | [] => ofLevel fallback
  | ds => ds

/-- The remark on a part of a written filter, if it cannot be read. -/
def remark? (part : String) : Option String :=
  match Directive.ofText part with
  | .ok _ => none
  | .error e => some ("ignoring `" ++ part ++ "`: " ++ e.message)

/-- The remarks on the parts of a written filter that cannot be read. -/
def remarks (s : String) : List String :=
  (parts s).filterMap remark?

/-- The lines that show the events of a list, each with its line break. -/
def render (f : Filter) (es : List Event) : String :=
  String.join ((es.filter f.shows).map (fun e => e.render ++ "\n"))

end Filter

end ScriptLexer

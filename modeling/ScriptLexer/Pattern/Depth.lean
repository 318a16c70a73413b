/-!
# Depth of a pattern

How deep the parts of a pattern are nested is limited. A single item has depth zero.
A repetition, a group or a set in brackets is one deeper than what it holds. So is a
row of parts – one part after another, alternatives, the members of a set – but only
if there are several: a row of one part is that part.

The depths are counted while the pattern is read, so a row is known by its
parts so far.
-/

namespace ScriptLexer

namespace Pattern

/-- How deep a pattern may be nested. -/
def maxDepth : Nat := 250

/-- **A row of parts**, as far as their depths go. -/
structure Row where
  /-- How many parts there are. -/
  count : Nat := 0
  /-- The depth of the deepest part before the last. -/
  deepest : Nat := 0
  /-- The depth of the last part. -/
  last : Nat := 0
  deriving DecidableEq, Repr

namespace Row

/-- A row with one more part at its end. -/
def add (r : Row) (depth : Nat) : Row :=
  ⟨r.count + 1, max r.deepest r.last, depth⟩

/-- A row with so many more items at its end. -/
def addItems (r : Row) : Nat → Row
  | 0 => r
  | n + 1 => (r.add 0).addItems n

/-- A row in which the last part is held by a further one. -/
def wrapLast (r : Row) : Row :=
  { r with last := r.last + 1 }

/-- **The depth of a row.** -/
def depth (r : Row) : Nat :=
  if r.count ≤ 1 then r.last else 1 + max r.deepest r.last

end Row

/-- The depth of two sets that a mark makes one. -/
def pairDepth (left right : Nat) : Nat :=
  1 + max left right

end Pattern

end ScriptLexer

import ScriptLexer.Source.Span
import ScriptLexer.Text.Bytes

/-!
# Line maps

Where the lines of a text start, and from that the line and the column of
any position. Only a line feed ends a line, and the line feed itself still
belongs to the line it ends. A position past the end of the text belongs to
the last line, in a column further right than any character.

The table of line starts is ascending, so the line of a position is found
by bisection: the search keeps a line that starts no later than the
position and a bound past which every line starts later.
-/

namespace ScriptLexer

/-- **A line map**: the position at which each line starts. There is at
least one line, the first, also in an empty text. -/
structure LineMap where
  /-- The line starts, ascending. -/
  starts : Array Position
  /-- There is a first line. -/
  nonempty : 0 < starts.size

/-- **A place in a text**: a line and a column, both counted from zero. -/
structure LineColumn where
  /-- How many lines come before. -/
  line : Position
  /-- How many characters of the line come before. -/
  column : Position
  deriving DecidableEq, Repr

/-- A place as people count, from one: `line:column`. The largest line or
column has no successor to show. -/
def LineColumn.render (p : LineColumn) : Except Fault String := do
  let line ← Position.add p.line 1
  let column ← Position.add p.column 1
  return toString line.toNat ++ ":" ++ toString column.toNat

/-- A place is shown one further than it is counted, if there is room for that. -/
theorem LineColumn.render_of_lt {p : LineColumn} (hl : p.line.toNat + 1 < UInt32.size)
    (hc : p.column.toNat + 1 < UInt32.size) :
    p.render = .ok (toString (p.line.toNat + 1) ++ ":" ++ toString (p.column.toNat + 1)) := by
  have hline : (p.line + 1).toNat = p.line.toNat + 1 :=
    Position.toNat_of_add_eq_ok (Position.add_of_lt hl)
  have hcolumn : (p.column + 1).toNat = p.column.toNat + 1 :=
    Position.toNat_of_add_eq_ok (Position.add_of_lt hc)
  rw [render, Position.add_of_lt hl, Position.add_of_lt hc, ← hline, ← hcolumn]
  rfl

namespace LineMap

/-- The positions right after each line feed of `cs`, where the first
character of `cs` is at index `i`. -/
def startsAfter (i : Nat) : List Char → List Position
  | [] => []
  | c :: cs =>
    if c = '\n' then (i + 1).toUInt32 :: startsAfter (i + 1) cs
    else startsAfter (i + 1) cs

/-- The line map of a text. -/
def ofText (text : String) : LineMap where
  starts := (0 :: startsAfter 0 text.toList).toArray
  nonempty := by simp

/-- **Bisection**: the last line from `lo` on, and before `hi`, that starts
no later than `pos`, given that line `lo` does. -/
def bisect (m : LineMap) (pos : Position) (lo hi : Nat) (hlo : lo < m.starts.size)
    (hhi : hi ≤ m.starts.size) : Fin m.starts.size :=
  if _h : lo + 1 < hi then
    let mid := (lo + hi) / 2
    if m.starts[mid] ≤ pos then bisect m pos mid hi (by omega) hhi
    else bisect m pos lo mid hlo (by omega)
  else ⟨lo, hlo⟩
termination_by hi - lo

/-- The line of a position, as an index into the map. -/
def lineIndex (m : LineMap) (pos : Position) : Fin m.starts.size :=
  m.bisect pos 0 m.starts.size m.nonempty (Nat.le_refl _)

/-- The line of a position, counted from zero. -/
def lineOf (m : LineMap) (pos : Position) : Position :=
  (m.lineIndex pos).val.toUInt32

/-- The line and column of a position. -/
def lineColumn (m : LineMap) (pos : Position) : LineColumn :=
  ⟨m.lineOf pos, pos - m.starts[m.lineIndex pos]⟩

end LineMap

/-- **The byte offset of a position**: how many bytes encode the characters
before it. A position past the end counts as the end. -/
def byteOffset (text : String) (pos : Position) : Nat :=
  byteLength (text.toList.take pos.toNat)

end ScriptLexer

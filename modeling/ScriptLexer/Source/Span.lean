/-!
# Positions and spans

A position in a text is a number of characters from its start, held in a
32-bit word. Words are added with a check: a sum that does not fit is a
**fault** rather than a wrapped number, so a computation on positions
either gives the true sum or says that there is none.
-/

namespace ScriptLexer

/-- **A position**: characters from the start of a text, in 32 bits. -/
abbrev Position := UInt32

/-- **A fault**: what stops a computation on positions. -/
inductive Fault where
  /-- A sum of two positions that does not fit in 32 bits. -/
  | addOverflow
  deriving DecidableEq, Repr

/-- The wording of a fault. -/
def Fault.message : Fault → String
  | addOverflow => "attempt to add with overflow"

/-- The sum of two positions, if it fits. -/
def Position.add (a b : Position) : Except Fault Position :=
  if a.toNat + b.toNat < UInt32.size then .ok (a + b) else .error .addOverflow

/-- **A span**: a stretch of a text, by its first position and its number
of characters. -/
structure Span where
  /-- The position of the first character. -/
  start : Position
  /-- How many characters the span covers. -/
  length : Position
  deriving DecidableEq, Repr, Inhabited

/-- The position right after the span. -/
def Span.stop (s : Span) : Except Fault Position :=
  Position.add s.start s.length

/-- A sum that fits is given. -/
theorem Position.add_of_lt {a b : Position} (h : a.toNat + b.toNat < UInt32.size) :
    Position.add a b = .ok (a + b) :=
  if_pos h

/-- A sum is refused exactly when it does not fit. -/
theorem Position.add_eq_error_iff (a b : Position) (e : Fault) :
    Position.add a b = .error e ↔ UInt32.size ≤ a.toNat + b.toNat := by
  cases e
  unfold Position.add
  split <;> simp_all

/-- A sum that is given is the true sum. -/
theorem Position.toNat_of_add_eq_ok {a b c : Position}
    (h : Position.add a b = .ok c) : c.toNat = a.toNat + b.toNat := by
  unfold Position.add at h
  split at h
  · rename_i hlt
    cases h
    rw [UInt32.toNat_add, Nat.mod_eq_of_lt hlt]
  · cases h

end ScriptLexer

import ScriptLexer.Diagnostic.Basic
import ScriptLexer.Text.Bytes

/-!
# Collections of diagnostics

A collection gathers diagnostics in the order in which they are found. It
can be **sorted** – by file, a diagnostic without a file before every named
one and names by their bytes, and within a file by where the span starts, a
diagnostic without a span counting as at the start. Sorting is stable, so
diagnostics that agree on both keep the order in which they were found.
-/

namespace ScriptLexer

namespace Diagnostic

/-- What the sort looks at first: the bytes of the file name. No file comes
before every file. -/
def fileKey (d : Diagnostic) : Option Bytes :=
  d.file.map encode

/-- What the sort looks at next: where the span starts, zero without one. -/
def startKey (d : Diagnostic) : Position :=
  (d.span.map Span.start).getD 0

/-- **The sort order**: whether `a` may stand before `b`. -/
def precedes (a b : Diagnostic) : Bool :=
  match compare a.fileKey b.fileKey with
  | .lt => true
  | .gt => false
  | .eq => a.startKey ≤ b.startKey

end Diagnostic

/-- **A collection of diagnostics**, oldest first. -/
structure Collection where
  /-- The diagnostics held. -/
  toList : List Diagnostic := []
  deriving DecidableEq, Repr

namespace Collection

/-- The collection that holds nothing. -/
def empty : Collection := {}

/-- How many diagnostics are held. -/
def size (c : Collection) : Nat :=
  c.toList.length

/-- Whether nothing is held. -/
def isEmpty (c : Collection) : Bool :=
  c.toList.isEmpty

/-- Add a diagnostic at the end. -/
def add (c : Collection) (d : Diagnostic) : Collection :=
  ⟨c.toList ++ [d]⟩

/-- Put the diagnostics into the sort order, keeping ties as they were. -/
def sort (c : Collection) : Collection :=
  ⟨c.toList.mergeSort Diagnostic.precedes⟩

/-- Take every diagnostic out and put them back in the opposite order. -/
def turn (c : Collection) : Collection :=
  ⟨c.toList.reverse⟩

/-- How many of the diagnostics held are errors. -/
def errorCount (c : Collection) : Nat :=
  c.toList.countP Diagnostic.isError

@[simp] theorem toList_empty : empty.toList = [] := rfl

@[simp] theorem toList_add (c : Collection) (d : Diagnostic) :
    (c.add d).toList = c.toList ++ [d] := rfl

@[simp] theorem toList_turn (c : Collection) :
    c.turn.toList = c.toList.reverse := rfl

@[simp] theorem size_add (c : Collection) (d : Diagnostic) :
    (c.add d).size = c.size + 1 := by
  simp [size]

/-- Sorting loses and invents nothing. -/
theorem sort_perm (c : Collection) : c.sort.toList.Perm c.toList :=
  List.mergeSort_perm _ _

/-! ## Runs -/

/-- **A step** in the life of a collection. -/
inductive Step where
  /-- Add a diagnostic. -/
  | add (d : Diagnostic)
  /-- Sort. -/
  | sort
  /-- Take everything out and put it back in the opposite order. -/
  | turn
  deriving DecidableEq, Repr

/-- The collection after a step. -/
def step (c : Collection) : Step → Collection
  | .add d => c.add d
  | .sort => c.sort
  | .turn => c.turn

/-- The collection after each of a list of steps. -/
def run (c : Collection) : List Step → List Collection
  | [] => []
  | s :: ss =>
    let after := c.step s
    after :: run after ss

end Collection

end ScriptLexer

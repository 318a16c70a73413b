import Mathlib.Data.Prod.Lex
import Mathlib.Order.Monotone.Basic
import ScriptLexer.Proofs.LineWalk

/-!
# The place of a position

A line map answers for every position that 32 bits can hold, also for those past the
end of its text. The answer is found by a search in the table of line starts and two
look-ups of what was found, and each of these has a way to go wrong: the search may
find that the position would have to stand in front of the first line, the line found
is held in 32 bits before it is looked up, and the column is a difference of words.

None of this happens. The table is ascending (`LineMap.pairwise_starts`), so whatever
way it is searched in – by this bisection or another – there is one line to find
(`LineMap.Search.lineBefore_eq`); it starts no later than the position; and the place
that comes out is where a walk through the text gets in as many steps
(`LineMap.findsPlace_lineColumn`). As the walk only goes forward (`strictMono_walk`), places are in
the order of positions, and no two positions have the same place.
-/

namespace ScriptLexer

/-- **The walk only goes forward**: into the next column, or into a later line. -/
theorem strictMono_walk (cs : List Char) : StrictMono (fun n => toLex (walk cs n)) := by
  refine strictMono_nat_of_lt_succ fun n => Prod.Lex.toLex_lt_toLex.2 ?_
  show (walk cs n).1 < (walk cs (n + 1)).1 ∨ _
  rw [walk]
  split_ifs
  · exact Or.inl (Nat.lt_succ_self _)
  · exact Or.inr ⟨rfl, Nat.lt_succ_self _⟩

/-- The line and the column of a place, as numbers. -/
def LineColumn.pair (p : LineColumn) : Nat × Nat :=
  (p.line.toNat, p.column.toNat)

namespace LineMap

/-! ## Searching the table -/

/-- **What a search for a position may find** in an ascending table: an index at which
the position stands, or else the index at which it could be put in, all starts before it
being smaller and all others greater. -/
inductive Search (starts : Array Position) (pos : Position) : Except Nat Nat → Prop where
  /-- The position is in the table. -/
  | found {i : Nat} (h : starts[i]? = some pos) : Search starts pos (.ok i)
  /-- It is not, and here it could be put in. -/
  | missing {i : Nat} (hi : i ≤ starts.size)
      (hbefore : ∀ j s, j < i → starts[j]? = some s → s < pos)
      (hbehind : ∀ j s, i ≤ j → starts[j]? = some s → pos < s) : Search starts pos (.error i)

/-- The line that something found stands for: the one that starts at the position, or
the one before the index at which the position could be put in, if there is one
before. -/
def lineBefore? : Except Nat Nat → Option Nat
  | .ok i => some i
  | .error 0 => none
  | .error (i + 1) => some i

/-- **The table of line starts is ascending.** -/
theorem pairwise_startsAfter {i : Nat} {cs : List Char} (hlen : i + cs.length < UInt32.size) :
    (startsAfter i cs).Pairwise (· < ·) := by
  induction cs generalizing i with
  | nil => exact List.Pairwise.nil
  | cons c cs ih =>
    rw [List.length_cons] at hlen
    have hrest := ih (i := i + 1) (by omega)
    rw [startsAfter]
    split_ifs
    · refine List.Pairwise.cons (fun s hs => UInt32.lt_iff_toNat_lt.2 ?_) hrest
      rw [toNat_toUInt32 (by omega)]
      exact (bounds_of_mem_startsAfter (by omega) hs).1
    · exact hrest

theorem pairwise_starts {cs : List Char} (hlen : cs.length < UInt32.size) :
    (0 :: startsAfter 0 cs).Pairwise (· < ·) := by
  refine List.Pairwise.cons (fun s hs => UInt32.lt_iff_toNat_lt.2 ?_)
    (pairwise_startsAfter (by omega))
  exact (bounds_of_mem_startsAfter (by omega) hs).1

section OfText

variable {text : String} (hlen : text.length < UInt32.size) (pos : Position)

include hlen

theorem starts_lt {i j : Nat} {s t : Position} (hij : i < j)
    (hs : (ofText text).starts[i]? = some s) (ht : (ofText text).starts[j]? = some t) : s < t := by
  rw [getElem?_starts_ofText] at hs ht
  obtain ⟨hi, rfl⟩ := List.getElem?_eq_some_iff.1 hs
  obtain ⟨hj, rfl⟩ := List.getElem?_eq_some_iff.1 ht
  exact List.pairwise_iff_getElem.1 (pairwise_starts (String.length_toList ▸ hlen)) i j hi hj hij

/-- The lines up to the one of a position are those that start no later. -/
theorem start_le_iff {j : Nat} {s : Position} (hs : (ofText text).starts[j]? = some s) :
    s ≤ pos ↔ j ≤ ((ofText text).lineIndex pos).val := by
  rw [getElem?_starts_ofText] at hs
  rw [startsAfter_le_iff (String.length_toList ▸ hlen) hs, val_lineIndex hlen, Nat.lt_succ_iff]

/-- **Every search finds the same line.** -/
theorem Search.lineBefore_eq {answer : Except Nat Nat}
    (h : Search (ofText text).starts pos answer) :
    lineBefore? answer = some ((ofText text).lineIndex pos).val := by
  have hline := Array.getElem?_eq_getElem (Fin.isLt ((ofText text).lineIndex pos))
  have hstart := (start_le_iff hlen pos hline).2 (Nat.le_refl _)
  cases h with
  | @found i hi =>
    have hle : i ≤ ((ofText text).lineIndex pos).val :=
      (start_le_iff hlen pos hi).1 (UInt32.le_refl pos)
    obtain hlt | rfl := Nat.lt_or_eq_of_le hle
    · exact absurd (starts_lt hlen hlt hi hline) (UInt32.not_lt.2 hstart)
    · rfl
  | @missing i hi hbefore hbehind =>
    have hlt : ((ofText text).lineIndex pos).val < i := by
      by_contra hge
      exact absurd (hbehind _ _ (Nat.not_lt.1 hge) hline) (UInt32.not_lt.2 hstart)
    cases i with
    | zero => cases hlt
    | succ i =>
      have hstart' := Array.getElem?_eq_getElem (Nat.lt_of_succ_le hi)
      have hle := (start_le_iff hlen pos hstart').1
        (UInt32.le_of_lt (hbefore i _ (Nat.lt_succ_self i) hstart'))
      exact congrArg some (Nat.le_antisymm hle (Nat.lt_succ_iff.1 hlt))

/-- And there is something to find. -/
theorem exists_search : ∃ answer, Search (ofText text).starts pos answer := by
  have hline := Array.getElem?_eq_getElem (Fin.isLt ((ofText text).lineIndex pos))
  have hstart := (start_le_iff hlen pos hline).2 (Nat.le_refl _)
  by_cases hhere : (ofText text).starts[((ofText text).lineIndex pos).val] = pos
  · exact ⟨_, .found (hhere ▸ hline)⟩
  refine ⟨.error (((ofText text).lineIndex pos).val + 1), .missing (Fin.isLt _) ?_ ?_⟩
  · intro j s hj hs
    obtain hlt | rfl := Nat.lt_or_eq_of_le (Nat.lt_succ_iff.1 hj)
    · exact UInt32.lt_of_lt_of_le (starts_lt hlen hlt hs hline) hstart
    · rw [hline, Option.some_inj] at hs
      exact UInt32.lt_of_le_of_ne (hs ▸ hstart) (hs ▸ hhere)
  · intro j s hj hs
    rw [← UInt32.not_le, start_le_iff hlen pos hs]
    omega

end OfText

/-! ## The place found -/

/-- **The place of a position is found.** The search has an answer, and every answer is
for a line; this line is in the table, also after it is held in 32 bits, and starts no
later than the position; and the line and the column are those that a walk through the
text reaches in as many steps. -/
structure FindsPlace (text : String) (pos : Position) : Prop where
  /-- There is an answer. -/
  searchable : ∃ answer, Search (ofText text).starts pos answer
  /-- Every answer is for the line of the position. -/
  lineBefore_eq : ∀ answer, Search (ofText text).starts pos answer →
    lineBefore? answer = some ((ofText text).lineOf pos).toNat
  /-- The line can be looked up, and nothing is lost when its start is taken from the
  position. -/
  column_eq : ∃ start, (ofText text).starts[((ofText text).lineOf pos).toNat]? = some start
    ∧ start ≤ pos
    ∧ (ofText text).lineColumn pos = ⟨(ofText text).lineOf pos, pos - start⟩
  /-- The place is the one that the walk reaches. -/
  walk_eq : ((ofText text).lineColumn pos).pair = walk text.toList pos.toNat
  /-- So the lines before it are as many as there are line feeds. -/
  line_eq_count : ((ofText text).lineOf pos).toNat = (text.toList.take pos.toNat).count '\n'

/-- **A line map finds the place of every position**, in the text or past its end, and
places are in the order of positions: by line, and within a line by column. So no two
positions have the same place. -/
theorem findsPlace_lineColumn {text : String} (hlen : text.length < UInt32.size) :
    (∀ pos : Position, FindsPlace text pos)
      ∧ (∀ p q : Position, p < q →
        toLex ((ofText text).lineColumn p).pair < toLex ((ofText text).lineColumn q).pair)
      ∧ Function.Injective (ofText text).lineColumn := by
  have hwalk : ∀ pos, ((ofText text).lineColumn pos).pair = walk text.toList pos.toNat := by
    intro pos
    obtain ⟨hline, hcolumn⟩ := toNat_lineColumn hlen pos
    exact Prod.ext hline hcolumn
  refine ⟨fun pos => ?_, fun p q hpq => ?_, fun p q hpq => ?_⟩
  · have hindex : ((ofText text).lineOf pos).toNat = ((ofText text).lineIndex pos).val := by
      rw [toNat_lineOf hlen, val_lineIndex hlen]
    have hline := Array.getElem?_eq_getElem (Fin.isLt ((ofText text).lineIndex pos))
    exact {
      searchable := exists_search hlen pos
      lineBefore_eq := fun answer h => by rw [h.lineBefore_eq hlen, hindex]
      column_eq := ⟨(ofText text).starts[(ofText text).lineIndex pos], by rw [hindex]; exact hline,
        (start_le_iff hlen pos hline).2 (Nat.le_refl _), rfl⟩
      walk_eq := hwalk pos
      line_eq_count := by rw [toNat_lineOf hlen, walk_fst_eq_count] }
  · rw [hwalk, hwalk]
    exact strictMono_walk text.toList (UInt32.lt_iff_toNat_lt.1 hpq)
  · have hsame := (hwalk p).symm.trans ((congrArg LineColumn.pair hpq).trans (hwalk q))
    exact UInt32.toNat_inj.1 ((strictMono_walk text.toList).injective (congrArg toLex hsame))

/-- Past the end of two lines, behind which an empty one begins, and before it. -/
theorem findsPlace_lineColumn_past_end :
    "¡\nx\n".length < UInt32.size
      ∧ FindsPlace "¡\nx\n" 9 ∧ ((ofText "¡\nx\n").lineColumn 9).pair = (2, 5)
      ∧ (3 : Position) < 9 ∧ toLex ((ofText "¡\nx\n").lineColumn 3).pair
        < toLex ((ofText "¡\nx\n").lineColumn 9).pair := by
  have hlen : "¡\nx\n".length < UInt32.size := by decide
  have hlt : (3 : Position) < 9 := by decide
  obtain ⟨hfinds, hlex, -⟩ := findsPlace_lineColumn hlen
  refine ⟨hlen, hfinds 9, ?_, hlt, hlex 3 9 hlt⟩
  rw [(hfinds 9).walk_eq]
  decide

end LineMap

end ScriptLexer

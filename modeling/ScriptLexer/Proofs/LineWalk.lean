import Mathlib.Tactic.SplitIfs
import ScriptLexer.Source.LineMap

/-!
# Lines and columns, counted on foot

A line map finds the place of a position by bisection in a table of line starts.
The same place is reached by walking from the start of the text, a character at a
time (`walk`): over a line feed into the next line, over anything else into the next
column, and past the end into columns without a character.

The table holds, for the first `n` characters, one start more than the walk over
them has passed lines, and the last of these starts and the column of the walk add
up to `n` (`LineMap.length_startsAfter_take`, `LineMap.getLast?_startsAfter_take`). The
starts behind them are all greater than `n`, so the bisection has one place to end
(`LineMap.val_bisect`), and this is where the walk is (`LineMap.toNat_lineColumn`).

The walk also tells where a character stands among the pieces of the text between
its line feeds (`exists_piece_of_walk`).
-/

namespace ScriptLexer

/-- **Walking through a text**: the line and the column after so many steps, both
counted from zero. -/
def walk (cs : List Char) : Nat → Nat × Nat
  | 0 => (0, 0)
  | n + 1 =>
    if cs[n]? = some '\n' then ((walk cs n).1 + 1, 0)
    else ((walk cs n).1, (walk cs n).2 + 1)

/-- No more lines and columns are walked than steps are taken. -/
theorem walk_le (cs : List Char) (n : Nat) : (walk cs n).1 + (walk cs n).2 ≤ n := by
  induction n with
  | zero => exact Nat.le_refl 0
  | succ n ih =>
    rw [walk]
    split_ifs
    · show (walk cs n).1 + 1 + 0 ≤ n + 1
      omega
    · show (walk cs n).1 + ((walk cs n).2 + 1) ≤ n + 1
      omega

/-- **The walk passes a line for each line feed.** -/
theorem walk_fst_eq_count (cs : List Char) (n : Nat) :
    (walk cs n).1 = (cs.take n).count '\n' := by
  induction n with
  | zero => rfl
  | succ n ih =>
    rw [walk, List.take_add_one, List.count_append, ← ih]
    split_ifs with hfeed
    · rw [hfeed]
      rfl
    · have hnone : cs[n]?.toList.count '\n' = 0 := by
        rw [List.count_eq_zero, Option.mem_toList]
        exact hfeed
      rw [hnone]
      rfl

theorem toNat_toUInt32 {n : Nat} (h : n < UInt32.size) : n.toUInt32.toNat = n :=
  Nat.mod_eq_of_lt h

namespace LineMap

/-! ## The table of line starts -/

theorem startsAfter_append (i : Nat) (cs ds : List Char) :
    startsAfter i (cs ++ ds) = startsAfter i cs ++ startsAfter (i + cs.length) ds := by
  induction cs generalizing i with
  | nil => rfl
  | cons c cs ih =>
    have hplace : i + (c :: cs).length = i + 1 + cs.length := by
      rw [List.length_cons]
      omega
    rw [List.cons_append, startsAfter, startsAfter, ih, hplace]
    split_ifs <;> rfl

/-- A line starts behind a character of the text, if that text is not too long. -/
theorem bounds_of_mem_startsAfter {i : Nat} {cs : List Char} {s : Position}
    (hlen : i + cs.length < UInt32.size) (hs : s ∈ startsAfter i cs) :
    i < s.toNat ∧ s.toNat ≤ i + cs.length := by
  induction cs generalizing i with
  | nil => cases hs
  | cons c cs ih =>
    rw [List.length_cons] at hlen ⊢
    have hrest : s ∈ startsAfter (i + 1) cs → i < s.toNat ∧ s.toNat ≤ i + (cs.length + 1) := by
      intro hs
      have hbounds := ih (by omega) hs
      omega
    rw [startsAfter] at hs
    split_ifs at hs
    · obtain rfl | hs := List.mem_cons.1 hs
      · rw [toNat_toUInt32 (by omega)]
        omega
      · exact hrest hs
    · exact hrest hs

/-- What one more character adds to the table. -/
theorem startsAfter_take_succ (cs : List Char) (n : Nat) :
    startsAfter 0 (cs.take (n + 1))
      = startsAfter 0 (cs.take n)
        ++ if cs[n]? = some '\n' then [(n + 1).toUInt32] else [] := by
  rw [List.take_add_one]
  cases hc : cs[n]? with
  | none =>
    rw [if_neg (Option.some_ne_none _).symm, Option.toList_none, List.append_nil,
      List.append_nil]
  | some c =>
    have hlen : (cs.take n).length = n :=
      List.length_take_of_le (Nat.le_of_lt (List.getElem?_eq_some_iff.1 hc).1)
    rw [startsAfter_append, hlen, Nat.zero_add, Option.toList_some, startsAfter]
    simp only [Option.some_inj]
    rfl

/-- **The walk counts the line starts.** -/
theorem length_startsAfter_take (cs : List Char) (n : Nat) :
    (startsAfter 0 (cs.take n)).length = (walk cs n).1 := by
  induction n with
  | zero => rfl
  | succ n ih =>
    rw [startsAfter_take_succ, List.length_append, ih, walk]
    split_ifs <;> rfl

/-- **And it counts the columns from the last of them.** -/
theorem getLast?_startsAfter_take {cs : List Char} (hlen : cs.length < UInt32.size) (n : Nat) :
    ∃ s, (0 :: startsAfter 0 (cs.take n)).getLast? = some s ∧ s.toNat + (walk cs n).2 = n := by
  induction n with
  | zero => exact ⟨0, rfl, rfl⟩
  | succ n ih =>
    rw [startsAfter_take_succ, walk]
    split_ifs with hfeed
    · have hn : n < cs.length := (List.getElem?_eq_some_iff.1 hfeed).1
      refine ⟨(n + 1).toUInt32, ?_, ?_⟩
      · rw [← List.cons_append, List.getLast?_concat]
      · show (n + 1).toUInt32.toNat + 0 = n + 1
        rw [toNat_toUInt32 (by omega)]
    · obtain ⟨s, hs, hcolumn⟩ := ih
      refine ⟨s, ?_, ?_⟩
      · rw [List.append_nil, hs]
      · show s.toNat + ((walk cs n).2 + 1) = n + 1
        omega

/-- So the start of the line that the walk has reached is in the table. -/
theorem exists_start_of_walk {cs : List Char} (hlen : cs.length < UInt32.size) (n : Nat) :
    ∃ s, (0 :: startsAfter 0 cs)[(walk cs n).1]? = some s ∧ s.toNat + (walk cs n).2 = n := by
  obtain ⟨s, hs, hcolumn⟩ := getLast?_startsAfter_take hlen n
  refine ⟨s, ?_, hcolumn⟩
  have hlast : (0 :: startsAfter 0 (cs.take n)).length = (walk cs n).1 + 1 := by
    rw [List.length_cons, length_startsAfter_take]
  rw [List.getLast?_eq_getElem?, hlast, Nat.add_sub_cancel] at hs
  have htable : startsAfter 0 cs
      = startsAfter 0 (cs.take n) ++ startsAfter (0 + (cs.take n).length) (cs.drop n) := by
    rw [← startsAfter_append, List.take_append_drop]
  rw [htable, ← List.cons_append, List.getElem?_append_left (by omega), hs]

/-- **The line starts up to a position** are those that the characters before it
make. -/
theorem startsAfter_le_iff {cs : List Char} (hlen : cs.length < UInt32.size) {pos : Position}
    {j : Nat} {s : Position} (hs : (0 :: startsAfter 0 cs)[j]? = some s) :
    s ≤ pos ↔ j < (walk cs pos.toNat).1 + 1 := by
  rw [← length_startsAfter_take, ← List.length_cons, UInt32.le_iff_toNat_le]
  have hcut : (cs.take pos.toNat).length + (cs.drop pos.toNat).length = cs.length := by
    rw [← List.length_append, List.take_append_drop]
  have hle : (cs.take pos.toNat).length ≤ pos.toNat := List.length_take_le _ _
  rw [← List.take_append_drop pos.toNat cs, startsAfter_append, Nat.zero_add,
    ← List.cons_append] at hs
  by_cases hj : j < (0 :: startsAfter 0 (cs.take pos.toNat)).length
  · rw [List.getElem?_append_left hj] at hs
    refine iff_of_true ?_ hj
    obtain rfl | hmem := List.mem_cons.1 (List.mem_of_getElem? hs)
    · exact Nat.zero_le _
    · have hbounds := bounds_of_mem_startsAfter (by omega) hmem
      omega
  · rw [List.getElem?_append_right (by omega)] at hs
    refine iff_of_false (fun hspos => ?_) hj
    have hmem := List.mem_of_getElem? hs
    have hbounds := bounds_of_mem_startsAfter (by omega) hmem
    -- a line starts behind the position, so the position is in the text
    have hrest : 0 < (cs.drop pos.toNat).length := by omega
    rw [List.length_drop] at hrest
    rw [List.length_take] at hbounds
    omega

/-! ## The bisection -/

/-- **Bisection ends where the starts get too large**, if the first `k` of them are
the ones that do not exceed the position. -/
theorem val_bisect {m : LineMap} {pos : Position} {k lo hi : Nat} (hlo : lo < m.starts.size)
    (hhi : hi ≤ m.starts.size) (hk : ∀ j (hj : j < m.starts.size), m.starts[j] ≤ pos ↔ j < k)
    (hlok : lo < k) (hkhi : k ≤ hi) : (m.bisect pos lo hi hlo hhi).val + 1 = k := by
  fun_induction bisect m pos lo hi hlo hhi with
  | case1 lo hi hlo hhi _ mid hle ih => exact ih ((hk mid _).1 hle) hkhi
  | case2 lo hi hlo hhi _ mid hlt ih =>
    have hmid : ¬ mid < k := fun h => hlt ((hk mid _).2 h)
    exact ih hlok (by omega)
  | case3 lo hi hlo hhi hend =>
    show lo + 1 = k
    omega

/-! ## The place of a position -/

theorem getElem?_starts_ofText (text : String) (j : Nat) :
    (ofText text).starts[j]? = (0 :: startsAfter 0 text.toList)[j]? :=
  List.getElem?_toArray

section OfText

variable {text : String} (hlen : text.length < UInt32.size) (pos : Position)

include hlen

/-- **The line found is the one that the walk is in.** -/
theorem val_lineIndex : ((ofText text).lineIndex pos).val = (walk text.toList pos.toNat).1 := by
  rw [← String.length_toList] at hlen
  obtain ⟨s, hs, _⟩ := exists_start_of_walk hlen pos.toNat
  rw [← getElem?_starts_ofText] at hs
  obtain ⟨hsize, _⟩ := Array.getElem?_eq_some_iff.1 hs
  have hk : ∀ j (hj : j < (ofText text).starts.size),
      (ofText text).starts[j] ≤ pos ↔ j < (walk text.toList pos.toNat).1 + 1 := by
    intro j hj
    refine startsAfter_le_iff hlen ?_
    rw [← getElem?_starts_ofText, Array.getElem?_eq_getElem hj]
  exact Nat.succ.inj (val_bisect _ _ hk (Nat.succ_pos _) hsize)

/-- Counting it in a position loses nothing. -/
theorem toNat_lineOf : ((ofText text).lineOf pos).toNat = (walk text.toList pos.toNat).1 := by
  have hle := walk_le text.toList pos.toNat
  have hpos := pos.toNat_lt_size
  rw [lineOf, val_lineIndex hlen, toNat_toUInt32 (by omega)]

/-- That line starts no later than the position, and as much earlier as the column of
the walk says. -/
theorem toNat_start_add : ((ofText text).starts[(ofText text).lineIndex pos]).toNat
    + (walk text.toList pos.toNat).2 = pos.toNat := by
  obtain ⟨s, hs, hcolumn⟩ := exists_start_of_walk (String.length_toList ▸ hlen) pos.toNat
  rw [← getElem?_starts_ofText, ← val_lineIndex hlen, Array.getElem?_eq_getElem (Fin.isLt _),
    Option.some_inj] at hs
  rw [Fin.getElem_fin, hs, hcolumn]

/-- **A line map agrees with the walk**, at every position of a text and past its
end. -/
theorem toNat_lineColumn :
    ((ofText text).lineColumn pos).line.toNat = (walk text.toList pos.toNat).1
      ∧ ((ofText text).lineColumn pos).column.toNat = (walk text.toList pos.toNat).2 := by
  refine ⟨toNat_lineOf hlen pos, ?_⟩
  have hstart := toNat_start_add hlen pos
  have hle : (ofText text).starts[(ofText text).lineIndex pos] ≤ pos :=
    UInt32.le_iff_toNat_le.2 (by omega)
  show (pos - (ofText text).starts[(ofText text).lineIndex pos]).toNat = _
  rw [UInt32.toNat_sub_of_le _ _ hle]
  omega

end OfText

end LineMap

/-! ## The pieces between line feeds -/

section Pieces

variable {cs ds : List Char} {ps rs : List (List Char)} {q r : List Char}

/-- At a seam, the last piece before it and the first behind it are one. -/
theorem splitOn_append (hcs : cs.splitOn '\n' = ps ++ [q]) (hds : ds.splitOn '\n' = r :: rs) :
    (cs ++ ds).splitOn '\n' = ps ++ (q ++ r) :: rs := by
  induction cs generalizing ps q with
  | nil =>
    rw [List.splitOn_nil] at hcs
    obtain ⟨rfl, hq⟩ := (List.append_eq_singleton_iff.1 hcs.symm).resolve_right (by simp)
    rw [(List.cons.inj hq).1]
    exact hds
  | cons c cs ih =>
    rw [List.splitOn_cons_eq_if_modifyHead] at hcs
    rw [List.cons_append, List.splitOn_cons_eq_if_modifyHead]
    split_ifs at hcs ⊢
    · cases ps with
      | nil => exact absurd (List.cons.inj hcs).2 (List.splitOn_ne_nil _ cs)
      | cons p ps =>
        obtain ⟨rfl, htail⟩ := List.cons.inj hcs
        rw [ih htail]
        rfl
    · obtain ⟨s, ss, hsplit⟩ := List.exists_cons_of_ne_nil (List.splitOn_ne_nil '\n' cs)
      rw [hsplit, List.modifyHead_cons] at hcs
      cases ps with
      | nil =>
        obtain ⟨rfl, rfl⟩ := List.cons.inj hcs
        have hone : cs.splitOn '\n' = [] ++ [s] := hsplit
        rw [ih hone]
        rfl
      | cons p ps =>
        obtain ⟨rfl, rfl⟩ := List.cons.inj hcs
        have hmore : cs.splitOn '\n' = (s :: ps) ++ [q] := hsplit
        rw [ih hmore]
        rfl

/-- **The pieces of the first `n` characters**: as many as the walk has passed lines,
and a last one as long as its column. -/
theorem exists_splitOn_take {n : Nat} (hn : n ≤ cs.length) :
    ∃ ps q, (cs.take n).splitOn '\n' = ps ++ [q] ∧ ps.length = (walk cs n).1
      ∧ q.length = (walk cs n).2 ∧ ps.flatMap (· ++ ['\n']) ++ q = cs.take n := by
  induction n with
  | zero => exact ⟨[], [], rfl, rfl, rfl, rfl⟩
  | succ n ih =>
    obtain ⟨ps, q, hsplit, hps, hq, hjoin⟩ := ih (by omega)
    have hc : cs[n]? = some cs[n] := List.getElem?_eq_getElem hn
    have htake : cs.take (n + 1) = cs.take n ++ [cs[n]] := by
      rw [List.take_add_one, hc, Option.toList_some]
    rw [htake, walk]
    split_ifs with hfeed
    · rw [hc, Option.some_inj] at hfeed
      have hfeeds : [cs[n]].splitOn '\n' = [[], []] := by
        rw [hfeed]
        rfl
      refine ⟨ps ++ [q], [], ?_, ?_, rfl, ?_⟩
      · rw [splitOn_append hsplit hfeeds, List.append_nil, List.append_assoc]
        rfl
      · rw [List.length_append, hps]
        rfl
      · rw [← hjoin, List.flatMap_append, List.flatMap_singleton, hfeed, List.append_nil,
          List.append_assoc]
    · rw [hc, Option.some_inj] at hfeed
      have hsingle : [cs[n]].splitOn '\n' = [[cs[n]]] :=
        List.splitOn_eq_singleton (by simpa using Ne.symm hfeed)
      refine ⟨ps, q ++ [cs[n]], splitOn_append hsplit hsingle, hps, ?_, ?_⟩
      · rw [List.length_append, hq]
        rfl
      · rw [← hjoin, List.append_assoc]

/-- **The place of a character in the pieces.** A character that is no line feed is in
the piece and at the place there that the walk gives, and what lies before it is the
pieces before, with their line feeds, and the start of this piece. -/
theorem exists_piece_of_walk {n : Nat} {c : Char} (hc : cs[n]? = some c) (hne : c ≠ '\n') :
    ∃ piece, (cs.splitOn '\n')[(walk cs n).1]? = some piece
      ∧ piece[(walk cs n).2]? = some c
      ∧ ((cs.splitOn '\n').take (walk cs n).1).flatMap (· ++ ['\n'])
        ++ piece.take (walk cs n).2 = cs.take n := by
  obtain ⟨hn, rfl⟩ := List.getElem?_eq_some_iff.1 hc
  obtain ⟨ps, q, hsplit, hps, hq, hjoin⟩ := exists_splitOn_take (Nat.le_of_lt hn)
  obtain ⟨r, rs, hrest⟩ := List.exists_cons_of_ne_nil
    (List.splitOn_ne_nil '\n' (cs.drop (n + 1)))
  have hfrom : (cs.drop n).splitOn '\n' = (cs[n] :: r) :: rs := by
    rw [List.drop_eq_getElem_cons hn, List.splitOn_cons_eq_if_modifyHead,
      if_neg (by simpa using hne), hrest]
    rfl
  have hwhole : cs.splitOn '\n' = ps ++ (q ++ cs[n] :: r) :: rs := by
    rw [← splitOn_append hsplit hfrom, List.take_append_drop]
  rw [hwhole, ← hps, ← hq]
  refine ⟨q ++ cs[n] :: r, ?_, ?_, ?_⟩
  · simp
  · simp
  · rw [List.take_left, List.take_left, hjoin]

end Pieces

end ScriptLexer

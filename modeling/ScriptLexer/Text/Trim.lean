import ScriptLexer.Text.CharClass

/-!
# Trimming blanks

Cutting the blanks off the ends of a text – what a session does before
it compares a line with its closing command, and before it logs one.
-/

namespace ScriptLexer

/-- `cs` without the blanks it begins with. -/
def dropBlanks (cs : List Char) : List Char :=
  cs.dropWhile isBlank

/-- `cs` without the blanks it ends with. -/
def dropBlanksRight (cs : List Char) : List Char :=
  (dropBlanks cs.reverse).reverse

/-- The text without the blanks at its end. -/
def trimRight (s : String) : String :=
  String.ofList (dropBlanksRight s.toList)

/-- The text without the blanks at either end. -/
def trimBoth (s : String) : String :=
  String.ofList (dropBlanksRight (dropBlanks s.toList))

@[simp] theorem dropBlanks_nil : dropBlanks [] = [] := rfl

theorem dropBlanks_cons (c : Char) (cs : List Char) :
    dropBlanks (c :: cs) = if isBlank c then dropBlanks cs else c :: cs := by
  simp [dropBlanks, List.dropWhile_cons]

/-- Trimming never lengthens. -/
theorem length_dropBlanks_le (cs : List Char) :
    (dropBlanks cs).length ≤ cs.length :=
  (List.dropWhile_sublist _).length_le

/-- What is left after the leading blanks begins with no blank. -/
theorem isBlank_head_dropBlanks {c : Char} {cs ds : List Char}
    (h : dropBlanks cs = c :: ds) : isBlank c = false := by
  induction cs with
  | nil => simp at h
  | cons d cs ih =>
    rw [dropBlanks_cons] at h
    split at h
    · exact ih h
    · rename_i hd
      cases h
      simpa using hd

/-- What trimming takes away at the start is blank. -/
theorem exists_eq_append_dropBlanks (cs : List Char) :
    ∃ before, (∀ c ∈ before, isBlank c = true) ∧ cs = before ++ dropBlanks cs :=
  ⟨cs.takeWhile isBlank, List.all_eq_true.1 List.all_takeWhile,
    List.takeWhile_append_dropWhile.symm⟩

/-- So is what it takes away at the end. -/
theorem exists_eq_append_dropBlanksRight (cs : List Char) :
    ∃ after, (∀ c ∈ after, isBlank c = true) ∧ cs = dropBlanksRight cs ++ after := by
  obtain ⟨before, hbefore, heq⟩ := exists_eq_append_dropBlanks cs.reverse
  refine ⟨before.reverse, fun c hc => hbefore c (List.mem_reverse.1 hc), ?_⟩
  rw [dropBlanksRight, ← List.reverse_append, ← heq, List.reverse_reverse]

/-- Blanks in front of a character that is none are all taken away. -/
theorem dropBlanks_append {before body : List Char} {c : Char}
    (hbefore : ∀ c ∈ before, isBlank c = true) (hc : isBlank c = false) :
    dropBlanks (before ++ c :: body) = c :: body := by
  rw [dropBlanks, List.dropWhile_append_of_pos hbefore, List.dropWhile_cons_of_neg (by simp [hc])]

/-- So are blanks behind one. -/
theorem dropBlanksRight_append {body after : List Char} {c : Char}
    (hafter : ∀ c ∈ after, isBlank c = true) (hc : isBlank c = false) :
    dropBlanksRight (body ++ c :: after) = body ++ [c] := by
  have hreverse : (body ++ c :: after).reverse = after.reverse ++ c :: body.reverse := by simp
  have hblank : ∀ c ∈ after.reverse, isBlank c = true :=
    fun c hc => hafter c (List.mem_reverse.1 hc)
  rw [dropBlanksRight, hreverse, dropBlanks_append hblank hc, List.reverse_cons,
    List.reverse_reverse]

end ScriptLexer

import ScriptLexer.Proofs.CallHistory
import ScriptLexer.Proofs.MaximalMunch

/-!
# The place of a lexer in its text

A lexer holds what is left of its text, and a number. What a single read does to the
two is said once (`Lexer.Cut`): it cuts what is left into blanks, the text of a token
and a rest, moves by the lengths of the first two, and records the token. At the end of
the input the text of the token is empty and so is the rest.

So the number is an index into the text and stays in step with what is left
(`Lexer.StandsIn`), through every kind of token, at every end, and over every call.
-/

namespace ScriptLexer

namespace Lexer

/-! ## One read -/

/-- **What a read cuts off** what is left: blanks, and the text of a token behind them. -/
structure Cut (l : Lexer) (gap lexeme : List Char) : Prop where
  /-- These stand at the start of what is left, and the rest stays. -/
  rest : l.rest = gap ++ (lexeme ++ l.step.2.rest)
  /-- Before the token are only blanks. -/
  blank : ∀ c ∈ gap, isBlank c = true
  /-- The token has the text that is cut off. -/
  literal : l.step.1.token.literal = String.ofList lexeme
  /-- It starts behind the blanks. -/
  start : l.step.1.start = l.position + gap.length
  /-- The lexer is left behind it. -/
  stop : l.step.2.position = l.step.1.start + lexeme.length
  /-- It is recorded. -/
  recorded : l.step.2.diagnostics = record l.diagnostics l.step.1
  /-- It is scannable, or the input is at its end. -/
  scannable_or_end : l.step.1.token.Scannable
    ∨ (l.step.1.token = .eof ∧ lexeme = [] ∧ l.step.2.rest = [])

/-- **Every read cuts.** -/
theorem exists_cut (l : Lexer) : ∃ gap lexeme, Cut l gap lexeme := by
  have hcut : l.rest.takeWhile isBlank ++ dropBlanks l.rest = l.rest :=
    List.takeWhile_append_dropWhile
  have hblank : ∀ c ∈ l.rest.takeWhile isBlank, isBlank c = true :=
    fun c hc => List.mem_takeWhile_imp hc
  refine ⟨l.rest.takeWhile isBlank, l.step.1.token.literal.toList, ?_⟩
  cases hdrop : dropBlanks l.rest with
  | nil =>
    have hstep := step_of_nil hdrop
    rw [hdrop] at hcut
    exact {
      rest := by rw [hstep]; exact hcut.symm
      blank := hblank
      literal := String.ofList_toList.symm
      start := by rw [hstep]
      stop := by rw [hstep]; rfl
      recorded := by rw [hstep]; rfl
      scannable_or_end := by rw [hstep]; exact Or.inr ⟨rfl, rfl, rfl⟩ }
  | cons c cs =>
    have hstep := step_of_cons hdrop
    exact {
      rest := by rw [hstep, munch_append, ← hdrop, hcut]
      blank := hblank
      literal := String.ofList_toList.symm
      start := by rw [hstep]
      stop := by rw [hstep, String.length_toList]
      recorded := by rw [hstep]
      scannable_or_end := by
        rw [hstep]
        exact Or.inl (munch_scannable (isBlank_head_dropBlanks hdrop) cs) }

variable {text gap lexeme : List Char} {l m : Lexer}

/-- A token that is not the end of the input starts with a character that is no blank. -/
theorem Cut.exists_first (h : Cut l gap lexeme) (hnot : l.step.1.token.isEof = false) :
    ∃ c cs, lexeme = c :: cs ∧ isBlank c = false := by
  obtain hscan | ⟨heof, -, -⟩ := h.scannable_or_end
  · have hlexeme := hscan.isLexeme
    rw [h.literal, String.toList_ofList] at hlexeme
    obtain ⟨c, cs, rfl⟩ := List.exists_cons_of_ne_nil hlexeme.ne_nil
    exact ⟨c, cs, rfl, hlexeme.isBlank_eq_false List.mem_cons_self⟩
  · rw [heof] at hnot
    cases hnot

/-- At the end of the input nothing but the blanks is cut off. -/
theorem Cut.of_isEof (h : Cut l gap lexeme) (hend : l.step.1.token.isEof = true) :
    l.step.1.token = .eof ∧ lexeme = [] ∧ l.step.2.rest = [] := by
  obtain hscan | hend' := h.scannable_or_end
  · rw [hscan.isEof_eq_false] at hend
    cases hend
  · exact hend'

/-! ## In step with the text -/

/-- **The lexer stands in the text**: what is left of it is what is behind its place. -/
structure StandsIn (text : List Char) (l : Lexer) : Prop where
  /-- The place is in the text or at its end. -/
  position_le : l.position ≤ text.length
  /-- What is left is what is behind it. -/
  rest : l.rest = text.drop l.position

theorem standsIn_ofText (text : String) : StandsIn text.toList (ofText text) :=
  ⟨Nat.zero_le _, rfl⟩

/-- What is behind the blanks that a read cuts off. -/
theorem StandsIn.drop_start (h : StandsIn text l) (hcut : Cut l gap lexeme) :
    text.drop l.step.1.start = lexeme ++ l.step.2.rest := by
  rw [hcut.start, ← List.drop_drop, ← h.rest, hcut.rest, List.drop_left]

/-- The text up to the place of a lexer after a read. -/
theorem StandsIn.take_step (h : StandsIn text l) (hcut : Cut l gap lexeme) :
    text.take l.step.2.position = text.take l.position ++ gap ++ lexeme := by
  rw [hcut.stop, hcut.start, List.take_add, List.take_add, ← h.rest, hcut.rest, List.take_left,
    ← List.drop_drop, ← h.rest, hcut.rest, List.drop_left, List.take_left]

/-- **A read keeps it.** -/
theorem StandsIn.step (h : StandsIn text l) : StandsIn text l.step.2 := by
  obtain ⟨gap, lexeme, hcut⟩ := l.exists_cut
  have hdrop : text.drop l.step.2.position = l.step.2.rest := by
    rw [hcut.stop, ← List.drop_drop, h.drop_start hcut, List.drop_left]
  have hlen : l.rest.length = gap.length + (lexeme.length + l.step.2.rest.length) := by
    rw [hcut.rest, List.length_append, List.length_append]
  have hle := h.position_le
  have hstop := hcut.stop
  have hstart := hcut.start
  rw [h.rest, List.length_drop] at hlen
  exact ⟨by omega, hdrop.symm⟩

theorem StandsIn.reads (h : StandsIn text l) {ts : List Located} (hreads : Reads l ts m) :
    StandsIn text m := by
  induction hreads with
  | refl l => exact h
  | token _ _ ih => exact ih h.step
  | stop _ => exact h.step

/-- **So does every call.** -/
theorem StandsIn.perform (h : StandsIn text l) (c : Call) : StandsIn text (l.perform c).2 := by
  by_cases hc : c = .takeDiagnostics
  · rw [hc]
    exact ⟨h.position_le, h.rest⟩
  · obtain ⟨ts, -, hreads⟩ := l.perform_reads hc
    exact h.reads hreads

/-- **And every run of calls.** -/
theorem StandsIn.run (h : StandsIn text l) (calls : List Call) :
    StandsIn text (l.leftBy (l.run calls)) := by
  induction calls generalizing l with
  | nil => exact h
  | cons c calls ih =>
    rw [Lexer.run, leftBy_cons]
    exact ih (h.perform c)

end Lexer

end ScriptLexer

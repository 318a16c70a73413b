import ScriptLexer.Proofs.Cursor

/-!
# The place of a cursor

That the two indices of a cursor are one apart and point into the text, that the
characters it tells are those that stand there, and that the place handed to the log is
where the token stands, is read off the lexer it is in step with (`Cursor.yields_run`).
What a read passes over is what the step of the lexer cuts off (`Lexer.Cut`), and of this
the places of a token in the text (`Cursor.ReadsAt`) are arithmetic. Since the text of a
token starts with a character that is no blank, each read uses one up, which bounds how
many reads there are before the end of the input (`Lexer.eof_of_solidLeft_le`).
-/

namespace ScriptLexer

namespace Cursor

variable {text : List Char} {i : Nat} {ds : Collection} {log : Array Event} {l : Lexer}

/-! ## What a cursor tells -/

/-- **The cursor is right**: what it holds and tells about its place is so. -/
structure InText (text : List Char) (c : Cursor) : Prop where
  /-- It keeps its text. -/
  keeps : c.text.toList = text
  /-- The two indices are one apart. -/
  readPosition : c.readPosition = c.position + 1
  /-- The place is in the text or at its end. -/
  position_le : c.position ≤ text.length
  /-- The current character stands there. -/
  current : c.current? = text[c.position]?
  /-- There is none at the end, and only there. -/
  current_none : c.current? = none ↔ c.position = text.length
  /-- That is when the text is exhausted. -/
  isExhausted : c.isExhausted = true ↔ c.position = text.length
  /-- The character after it stands behind. -/
  peek : c.peek? = text[c.position + 1]?

/-- **What the next read reads**: from its place a cursor in a text passes over blanks up
to an index, reads a token there, and is left behind it. -/
structure ReadsAt (text : List Char) (c : Cursor) (t : Token) (start : Nat) (after : Cursor) :
    Prop where
  /-- The read ends, and gives the token. -/
  yields : nextToken.Yields c t after
  /-- Nothing is read twice. -/
  position_le : c.position ≤ start
  /-- The token stands before the place that the cursor is left at. -/
  start_le : start ≤ after.position
  /-- That place is in the text or at its end. -/
  stop_le : after.position ≤ text.length
  /-- Before the token are only blanks. -/
  blanks : ∀ ch ∈ between text c.position start, isBlank ch = true
  /-- It does not start with one. -/
  first : ∀ ch, text[start]? = some ch → isBlank ch = false
  /-- Its text is what stands between the two indices. -/
  literal : t.literal = String.ofList (between text start after.position)
  /-- The log is handed the token and its place, and nothing else. -/
  event : after.log = c.log.push (.scannedToken ⟨t, start⟩)
  /-- Either something is read, or this is the end of the input and of the text. -/
  progress : (t.isEof = false ∧ start < after.position)
    ∨ (t = .eof ∧ start = after.position ∧ start = text.length)

/-- A cursor in step is right. -/
theorem inText_placed (h : i ≤ text.length) : InText text (placed text i ds log) := by
  have hnone : text[i]? = none ↔ i = text.length := by
    rw [List.getElem?_eq_none_iff]
    omega
  exact {
    keeps := rfl
    readPosition := rfl
    position_le := h
    current := rfl
    current_none := hnone
    isExhausted := Option.isNone_iff_eq_none.trans hnone
    peek := List.getElem?_toArray }

section Cut

variable {gap lexeme : List Char}

/-- Between the place of a lexer and the token of its next read are the blanks. -/
theorem between_blanks (h : Lexer.StandsIn text l) (hcut : l.Cut gap lexeme) :
    between text l.position l.step.1.start = gap := by
  rw [between, List.drop_take, hcut.start, Nat.add_sub_cancel_left, ← h.rest, hcut.rest,
    List.take_left]

/-- Between the start of the token and the place behind it is its text. -/
theorem between_token (h : Lexer.StandsIn text l) (hcut : l.Cut gap lexeme) :
    between text l.step.1.start l.step.2.position = lexeme := by
  rw [between, List.drop_take, hcut.stop, Nat.add_sub_cancel_left, h.drop_start hcut,
    List.take_left]

/-- The token does not start with a blank, nor is there one where the text ends. -/
theorem isBlank_start (h : Lexer.StandsIn text l) (hcut : l.Cut gap lexeme) {ch : Char}
    (hch : text[l.step.1.start]? = some ch) : isBlank ch = false := by
  rw [← List.head?_drop, h.drop_start hcut] at hch
  cases hend : l.step.1.token.isEof with
  | true =>
    obtain ⟨-, rfl, hnil⟩ := hcut.of_isEof hend
    rw [hnil] at hch
    cases hch
  | false =>
    obtain ⟨d, cs, rfl, hd⟩ := hcut.exists_first hend
    obtain rfl : d = ch := Option.some.inj hch
    exact hd

/-- A token of the text takes the lexer on; that of the end stands where the text ends. -/
theorem progress_step (h : Lexer.StandsIn text l) (hcut : l.Cut gap lexeme) :
    (l.step.1.token.isEof = false ∧ l.step.1.start < l.step.2.position)
      ∨ (l.step.1.token = .eof ∧ l.step.1.start = l.step.2.position
        ∧ l.step.1.start = text.length) := by
  have hstop := hcut.stop
  cases hend : l.step.1.token.isEof with
  | false =>
    obtain ⟨d, cs, rfl, -⟩ := hcut.exists_first hend
    rw [List.length_cons] at hstop
    exact Or.inl ⟨rfl, by omega⟩
  | true =>
    -- nothing is left, so the place behind the blanks is the end of the text
    obtain ⟨heof, rfl, hnil⟩ := hcut.of_isEof hend
    have hlast := List.drop_eq_nil_iff.1 (h.step.rest.symm.trans hnil)
    have hle := h.step.position_le
    rw [List.length_nil, Nat.add_zero] at hstop
    exact Or.inr ⟨heof, hstop.symm, by omega⟩

end Cut

/-- **The next read has its place in the text.** -/
theorem exists_readsAt (h : Lexer.StandsIn text l) (log : Array Event) :
    ∃ t start after, ReadsAt text (standing text l log) t start after := by
  obtain ⟨gap, lexeme, hcut⟩ := l.exists_cut
  refine ⟨l.step.1.token, l.step.1.start,
    standing text l.step.2 (log.push (.scannedToken l.step.1)), ?_⟩
  exact {
    yields := yields_nextToken h log
    position_le := Nat.le.intro hcut.start.symm
    start_le := Nat.le.intro hcut.stop.symm
    stop_le := h.step.position_le
    blanks := fun ch hch => hcut.blank ch (between_blanks h hcut ▸ hch)
    first := fun _ => isBlank_start h hcut
    literal := hcut.literal.trans (congrArg String.ofList (between_token h hcut).symm)
    event := rfl
    progress := progress_step h hcut }

end Cursor

/-! ## Progress -/

namespace Lexer

variable {l : Lexer}

/-- The number of characters left that are no blanks. -/
def solidLeft (l : Lexer) : Nat :=
  l.rest.countP (fun c => !isBlank c)

/-- **Each token uses one up.** -/
theorem solidLeft_step_lt (h : l.step.1.token.isEof = false) :
    l.step.2.solidLeft < l.solidLeft := by
  obtain ⟨gap, lexeme, hcut⟩ := l.exists_cut
  obtain ⟨c, cs, rfl, hc⟩ := hcut.exists_first h
  rw [solidLeft, solidLeft, hcut.rest, List.countP_append, List.countP_append,
    List.countP_cons_of_pos (by simp [hc])]
  omega

/-- **The end of the input is met** by as many reads as there are such characters, and
one. -/
theorem eof_of_solidLeft_le (k : Nat) (h : l.solidLeft ≤ k) :
    ((l.run (List.replicate (k + 1) .nextToken))[k]?).map Prod.fst = some (.token .eof) := by
  induction k generalizing l with
  | zero =>
    cases hend : l.step.1.token.isEof with
    | true => exact congrArg (fun t => some (Reply.token t)) (token_step_of_isEof hend)
    | false =>
      have hlt := solidLeft_step_lt hend
      omega
  | succ k ih =>
    rw [List.replicate_succ, run, List.getElem?_cons_succ]
    refine ih ?_
    show l.step.2.solidLeft ≤ k
    cases hend : l.step.1.token.isEof with
    | true =>
      rw [solidLeft, rest_step_of_isEof hend]
      exact Nat.zero_le k
    | false =>
      have hlt := solidLeft_step_lt hend
      omega

end Lexer

/-! ## All histories -/

namespace Cursor

/-- **The cursor stays in step, and every read makes progress.** Any calls on a cursor that
has been set on a text come to an end, without asking for a stretch outside the text, and
are answered as a lexer answers them. What the cursor then holds and tells about its place
is what stands in the text; the next read passes over blanks, and its token, the place
handed to the log and the place the cursor is left at are those of one piece of the text,
which is empty at the end only; and if so many characters are left that are no blanks, the
end of the input is met at the latest by one read more. All tokens of a text can be had
at once, and the events are those of a scan. -/
theorem run_in_text (text : String) (calls : List Lexer.Call) :
    ∃ history c, (run calls).Yields (ofText text) history c
      ∧ history.map Prod.fst = ((Lexer.ofText text).run calls).map Prod.fst
      ∧ InText text.toList c
      ∧ (∃ t start after, ReadsAt text.toList c t start after)
      ∧ (∀ k, (text.toList.drop c.position).countP (fun ch => !isBlank ch) ≤ k →
        ∃ answers after, (run (List.replicate (k + 1) .nextToken)).Yields c answers after
          ∧ (answers[k]?).map Prod.fst = some (.token .eof))
      ∧ ∃ after, tokenize.Yields (ofText text) (Lexer.tokenize text) after
        ∧ after.log.toList = Event.ofScan text := by
  have hstart := Lexer.standsIn_ofText text
  obtain ⟨history, log, hrun, hanswers⟩ := yields_run hstart calls #[.createdLexer text.length]
  rw [← ofText_eq] at hrun
  have hl := hstart.run calls
  refine ⟨history, _, hrun, map_fst_of_forall₂ hanswers, inText_placed hl.position_le,
    exists_readsAt hl log, fun k hk => ?_, _, yields_tokenize text, rfl⟩
  obtain ⟨answers, log', hreads, hanswers'⟩ :=
    yields_run hl (List.replicate (k + 1) .nextToken) log
  refine ⟨answers, _, hreads, ?_⟩
  rw [← List.getElem?_map, map_fst_of_forall₂ hanswers', List.getElem?_map]
  exact Lexer.eof_of_solidLeft_le k (by rwa [Lexer.solidLeft, hl.rest])

end Cursor

end ScriptLexer

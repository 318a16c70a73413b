import ScriptLexer.Proofs.MaximalMunch

/-!
# The tokens of a concatenation

The tokens of two texts put together are the tokens of the one and the tokens
of the other, unless the seam **glues** (`SeamGlues`). Two letters glue there,
and so do two digits. An `=` is less local: whether it glues to the character
before depends on how that character was paired, so that `==` does not glue
to a following `=`, but `===` does. The condition therefore asks for a token
of the first text, and where it lies.

`Lexer.tokens_append` shows that this is exactly when the tokens differ, and
that in every case the tokens of the first text but its last stand whatever
follows. Both parts are about one decomposition: what lies before the last
segment of the first text keeps its lexing, because the next character there
stays the same, and the last segment is read anew together with the second
text.
-/

namespace ScriptLexer

/-- **The token covers the character at an index.** -/
def Located.Covers (t : Located) (i : Nat) : Prop :=
  t.start ≤ i ∧ i < t.start + t.token.literal.length

/-- **The seam between two texts glues**: the last character of the first and
the first character of the second are both letters, or both digits, or the
second text starts with an `=` and the last character of the first belongs to
a token of it that an `=` extends. -/
def SeamGlues (a b : String) : Prop :=
  ∃ c d, a.toList.getLast? = some c ∧ b.toList.head? = some d
    ∧ ((isLetter c = true ∧ isLetter d = true) ∨ (isDigit c = true ∧ isDigit d = true)
      ∨ (d = '=' ∧ ∃ t ∈ (Lexer.ofText a).drain.1,
          t.token.kind.isOpen = true ∧ t.Covers (a.length - 1)))

/-! ## Where tokens lie -/

theorem locate_append (i : Nat) (ps qs : List Segment) :
    locate i (ps ++ qs) = locate i ps ++ locate (i + (joinSegments ps).length) qs := by
  induction ps generalizing i with
  | nil => rfl
  | cons p ps ih =>
    rw [List.cons_append, locate, locate, List.cons_append, ih, joinSegments_cons,
      ← List.append_assoc, List.length_append, ← Nat.add_assoc]
    rfl

/-- Every token ends no later than its segments do. -/
theorem Located.stop_le_of_mem_locate {t : Located} {i : Nat} {ps : List Segment}
    (h : t ∈ locate i ps) :
    t.start + t.token.literal.length ≤ i + (joinSegments ps).length := by
  induction ps generalizing i with
  | nil => cases h
  | cons p ps ih =>
    have hlen : (joinSegments (p :: ps)).length = p.chars.length + (joinSegments ps).length := by
      rw [joinSegments_cons, ← List.append_assoc, List.length_append]
      rfl
    rw [hlen]
    obtain rfl | h := List.mem_cons.1 h
    · show i + (String.ofList p.lexeme).length ≤ _
      rw [String.length_ofList, Segment.chars, List.length_append]
      omega
    · have hle := ih h
      omega

/-! ## The lexing of a concatenation -/

namespace Lexing

section LastSegment

variable {lead : List Char} {ps : List Segment} {p : Segment} {a : List Char}

theorem IsOf.isLexeme_last (h : IsOf ⟨lead, ps ++ [p]⟩ a) : IsLexeme p.lexeme :=
  (greedy_cons_iff.1 h.greedy.of_append).1

theorem IsOf.last_gap_blank (h : IsOf ⟨lead, ps ++ [p]⟩ a) : ∀ c ∈ p.gap, isBlank c = true :=
  (greedy_cons_iff.1 h.greedy.of_append).2.1

/-- The text ends with the last lexeme and the blanks behind it. -/
theorem IsOf.eq_append_last (h : IsOf ⟨lead, ps ++ [p]⟩ a) :
    a = lead ++ joinSegments ps ++ p.lexeme ++ p.gap := by
  rw [← h.join, joinSegments_append, joinSegments_cons, joinSegments_nil, List.append_nil]
  simp only [List.append_assoc]

end LastSegment

/-- Before a text, blanks only add to the blanks at its start. -/
theorem IsOf.append_of_blank {lead : List Char} {y : Lexing} {a b : List Char}
    (hx : IsOf ⟨lead, []⟩ a) (hy : y.IsOf b) :
    IsOf ⟨lead ++ y.lead, y.segments⟩ (a ++ b) := by
  refine ⟨?_, fun c hc => ?_, hy.greedy⟩
  · rw [List.append_assoc, hy.join, ← hx.join, joinSegments_nil, List.append_nil]
  · exact (List.mem_append.1 hc).elim (hx.lead_blank c) (hy.lead_blank c)

/-- **The segments before the last stand whatever follows**: from the last
segment on, the text is read anew together with what follows it. -/
theorem IsOf.append {lead : List Char} {ps qs : List Segment} {p : Segment}
    {a b : List Char} (h : IsOf ⟨lead, ps ++ [p]⟩ a) (hq : IsOf ⟨[], qs⟩ (p.chars ++ b)) :
    IsOf ⟨lead, ps ++ qs⟩ (a ++ b) := by
  have hjoin : joinSegments qs = p.chars ++ b := hq.join
  have hlast : joinSegments [p] = p.chars := List.append_nil p.chars
  refine ⟨?_, h.lead_blank, h.greedy.append_of_head?_eq ?_ hq.greedy⟩
  · have ha := h.join
    simp only [joinSegments_append, hlast] at ha
    simp only [joinSegments_append, hjoin, ← ha, List.append_assoc]
  · -- the last lexeme is not empty, so the same character comes next
    have hl := h.isLexeme_last
    rw [hlast, hjoin, Segment.chars, List.append_assoc, hl.head?_append, hl.head?_append]

/-- **A seam where nothing lengthens the last lexeme** leaves both lexings as
they are; the blanks on its two sides become one gap. -/
theorem IsOf.append_of_stops {lead : List Char} {ps : List Segment} {p : Segment}
    {y : Lexing} {a b : List Char} (hx : IsOf ⟨lead, ps ++ [p]⟩ a) (hy : y.IsOf b)
    (hstop : p.gap = [] → ∀ d ∈ b.head?, ¬ IsLexeme (p.lexeme ++ [d])) :
    IsOf ⟨lead, ps ++ ⟨p.lexeme, p.gap ++ y.lead⟩ :: y.segments⟩ (a ++ b) := by
  refine hx.append ⟨?_, by simp, greedy_cons_iff.2 ⟨hx.isLexeme_last, ?_, ?_, hy.greedy⟩⟩
  · rw [List.nil_append, joinSegments_cons, List.append_assoc, hy.join, Segment.chars,
      List.append_assoc]
  · intro c hc
    obtain hc | hc := List.mem_append.1 hc
    · exact hx.last_gap_blank c hc
    · exact hy.lead_blank c hc
  · intro hnil
    obtain ⟨hpnil, hynil⟩ := List.append_eq_nil_iff.1 hnil
    have hb : joinSegments y.segments = b := by
      rw [← hy.join, hynil, List.nil_append]
    rw [hb]
    exact hstop hpnil

/-- **Whatever follows**, there is a lexing that agrees up to the last lexeme,
and has there the longest that now begins. -/
theorem IsOf.exists_append {lead : List Char} {ps : List Segment} {p : Segment}
    {a : List Char} (hx : IsOf ⟨lead, ps ++ [p]⟩ a) (b : List Char) :
    ∃ q qs, IsOf ⟨lead, ps ++ q :: qs⟩ (a ++ b) ∧ IsLongest q.lexeme (p.chars ++ b) := by
  have hl := hx.isLexeme_last
  obtain ⟨c, cs, hcs⟩ := List.exists_cons_of_ne_nil hl.ne_nil
  have hb : isBlank c = false := hl.isBlank_eq_false (hcs ▸ List.mem_cons_self)
  have hchars : p.chars ++ b = c :: (cs ++ (p.gap ++ b)) := by
    rw [Segment.chars, hcs, List.append_assoc, List.cons_append]
  obtain ⟨⟨lead', qs⟩, hz⟩ := exists_isOf (p.chars ++ b)
  have hnil : (p.chars ++ b).takeWhile isBlank = [] := by
    rw [hchars, List.takeWhile_cons_of_neg (by simp [hb])]
  obtain rfl : lead' = [] := hz.takeWhile_isBlank.symm.trans hnil
  cases qs with
  | nil =>
    have hempty := hz.join
    rw [hchars] at hempty
    cases hempty
  | cons q qs => exact ⟨q, qs, hx.append hz, hz.join ▸ hz.greedy.2.1⟩

/-- **The tokens stay as they are exactly if the last lexeme does.** If the
second text lengthens it, then another lexeme stands in its place. -/
theorem IsOf.tokens_append_iff {lead : List Char} {ps : List Segment} {p : Segment}
    {y z : Lexing} {a b : List Char} (hx : IsOf ⟨lead, ps ++ [p]⟩ a) (hy : y.IsOf b)
    (hz : z.IsOf (a ++ b)) :
    z.tokens = tokens ⟨lead, ps ++ [p]⟩ ++ y.tokens
      ↔ ¬ (p.gap = [] ∧ ∃ d ∈ b.head?, IsLexeme (p.lexeme ++ [d])) := by
  constructor
  · rintro heq ⟨hnil, d, hd, hlonger⟩
    obtain ⟨q, qs, hab, hq⟩ := hx.exists_append b
    obtain ⟨tail, rfl⟩ := List.head?_eq_some_iff.1 hd
    have hprefix : p.lexeme ++ [d] <+: p.chars ++ d :: tail :=
      ⟨tail, by rw [Segment.chars, hnil, List.append_nil, List.append_assoc]; rfl⟩
    have hle : (p.lexeme ++ [d]).length ≤ q.lexeme.length := hq.length_le _ hlonger hprefix
    -- but the tokens say that the lexeme is the same
    rw [hz.unique hab] at heq
    simp only [tokens, List.map_append, List.map_cons, List.map_nil, List.append_assoc,
      List.singleton_append] at heq
    have hsame : q.token = p.token := (List.cons.inj (List.append_cancel_left heq)).1
    have hlexeme : q.lexeme = p.lexeme := String.ofList_injective (congrArg Token.literal hsame)
    rw [hlexeme, List.length_append, List.length_singleton] at hle
    omega
  · intro hnot
    have hab := hx.append_of_stops hy (fun hnil d hd hlonger => hnot ⟨hnil, d, hd, hlonger⟩)
    rw [hz.unique hab]
    simp only [tokens, List.map_append, List.map_cons, List.map_nil, List.append_assoc,
      List.singleton_append]
    rfl

/-- **The tokens but the last stand whatever follows.** -/
theorem IsOf.dropLast_tokens_prefix {x z : Lexing} {a b : List Char} (hx : x.IsOf a)
    (hz : z.IsOf (a ++ b)) : x.tokens.dropLast <+: z.tokens := by
  obtain ⟨lead, ps⟩ := x
  obtain rfl | ⟨ps, p, rfl⟩ := List.eq_nil_or_concat' ps
  · exact List.nil_prefix
  · obtain ⟨q, qs, hab, _⟩ := hx.exists_append b
    rw [hz.unique hab, tokens, tokens, List.map_append, List.map_append, List.map_singleton,
      List.dropLast_concat]
    exact List.prefix_append _ _

end Lexing

/-! ## When a seam glues -/

section Seam

variable {lead : List Char} {ps : List Segment} {p : Segment} {a : List Char}

/-- Without blanks behind it, the last lexeme ends the text. -/
theorem Lexing.IsOf.getLast?_of_gap_eq_nil (h : IsOf ⟨lead, ps ++ [p]⟩ a) (hnil : p.gap = []) :
    a.getLast? = p.lexeme.getLast? := by
  rw [h.eq_append_last, hnil, List.append_nil,
    List.getLast?_append_of_ne_nil _ h.isLexeme_last.ne_nil]

/-- The last character of a text that does not end in a blank is in its last
lexeme. -/
theorem Lexing.IsOf.mem_of_getLast? (h : IsOf ⟨lead, ps ++ [p]⟩ a) {c : Char}
    (hc : a.getLast? = some c) (hb : isBlank c = false) : p.gap = [] ∧ c ∈ p.lexeme := by
  cases hg : p.gap with
  | nil =>
    rw [h.getLast?_of_gap_eq_nil hg] at hc
    exact ⟨rfl, List.mem_of_getLast? hc⟩
  | cons e es =>
    -- the last character would be a blank
    rw [h.eq_append_last, List.getLast?_append_of_ne_nil _ (by simp [hg])] at hc
    rw [h.last_gap_blank c (List.mem_of_getLast? hc)] at hb
    cases hb

/-- **The last character of a text belongs to a token** exactly if no blank is
behind its last one, and it belongs to that one. -/
theorem Lexing.IsOf.exists_covers_last_iff (h : IsOf ⟨lead, ps ++ [p]⟩ a) (P : Token → Prop) :
    (∃ t ∈ locate lead.length (ps ++ [p]), P t.token ∧ t.Covers (a.length - 1))
      ↔ p.gap = [] ∧ P p.token := by
  have hpos : 0 < p.lexeme.length := List.length_pos_iff.2 h.isLexeme_last.ne_nil
  have hlit : p.token.literal.length = p.lexeme.length := String.length_ofList
  have hlen : a.length
      = lead.length + (joinSegments ps).length + p.lexeme.length + p.gap.length := by
    rw [h.eq_append_last, List.length_append, List.length_append, List.length_append]
  have hlocate : locate lead.length (ps ++ [p])
      = locate lead.length ps ++ [⟨p.token, lead.length + (joinSegments ps).length⟩] :=
    locate_append _ _ _
  rw [hlocate]
  constructor
  · rintro ⟨t, ht, hP, _, hhi⟩
    obtain ht | ht := List.mem_append.1 ht
    · -- a token before the last ends before the last lexeme starts
      have hstop := Located.stop_le_of_mem_locate ht
      omega
    · obtain rfl := List.mem_singleton.1 ht
      simp only [hlit] at hhi
      exact ⟨List.length_eq_zero_iff.1 (by omega), hP⟩
  · rintro ⟨hnil, hP⟩
    rw [hnil, List.length_nil] at hlen
    refine ⟨_, List.mem_append_right _ (List.mem_singleton_self _), hP, ?_, ?_⟩
    · show lead.length + (joinSegments ps).length ≤ a.length - 1
      omega
    · show a.length - 1 < lead.length + (joinSegments ps).length + p.token.literal.length
      omega

/-- A token that an `=` extends is an open symbol. -/
theorem Segment.isOpen_token_iff (hl : IsLexeme p.lexeme) :
    p.token.kind.isOpen = true ↔ ∃ c ∈ openChars, p.lexeme = [c] := by
  have hiff := (Token.scannable_of_isLexeme hl).isOpen_iff
  rwa [String.toList_ofList] at hiff

/-- **A seam glues exactly if the second text lengthens the last lexeme of the
first.** -/
theorem seamGlues_iff {s t : String} (h : Lexing.IsOf ⟨lead, ps ++ [p]⟩ s.toList) :
    SeamGlues s t ↔ p.gap = [] ∧ ∃ d ∈ t.toList.head?, IsLexeme (p.lexeme ++ [d]) := by
  have hl := h.isLexeme_last
  have hnext := isLexeme_append_singleton_iff hl.ne_nil
  have hopen : (∃ u ∈ (Lexer.ofText s).drain.1,
        u.token.kind.isOpen = true ∧ u.Covers (s.length - 1))
      ↔ p.gap = [] ∧ ∃ c ∈ openChars, p.lexeme = [c] := by
    rw [Lexer.drain_ofText_of_isOf h, ← String.length_toList,
      h.exists_covers_last_iff (fun u => u.kind.isOpen = true), Segment.isOpen_token_iff hl]
  constructor
  · rintro ⟨c, d, hc, hd, ⟨hcl, hdl⟩ | ⟨hcd, hdd⟩ | ⟨rfl, hu⟩⟩
    · obtain ⟨hnil, hmem⟩ := h.mem_of_getLast? hc (isBlank_eq_false_of_isLetter hcl)
      exact ⟨hnil, d, hd, (hnext d).2 (Or.inl ⟨hl.run_of_mem (Or.inl rfl) hmem hcl, hdl⟩)⟩
    · obtain ⟨hnil, hmem⟩ := h.mem_of_getLast? hc (isBlank_eq_false_of_isDigit hcd)
      exact ⟨hnil, d, hd,
        (hnext d).2 (Or.inr (Or.inl ⟨hl.run_of_mem (Or.inr rfl) hmem hcd, hdd⟩))⟩
    · obtain ⟨hnil, hsymbol⟩ := hopen.1 hu
      exact ⟨hnil, '=', hd, (hnext '=').2 (Or.inr (Or.inr ⟨hsymbol, rfl⟩))⟩
  · rintro ⟨hnil, d, hd, hlonger⟩
    have hlast := List.getLast?_eq_some_getLast hl.ne_nil
    have hmem := List.getLast_mem hl.ne_nil
    refine ⟨p.lexeme.getLast hl.ne_nil, d, (h.getLast?_of_gap_eq_nil hnil).trans hlast, hd, ?_⟩
    obtain ⟨hw, hletter⟩ | ⟨hn, hdigit⟩ | ⟨hsymbol, rfl⟩ := (hnext d).1 hlonger
    · exact Or.inl ⟨hw _ hmem, hletter⟩
    · exact Or.inr (Or.inl ⟨hn _ hmem, hdigit⟩)
    · exact Or.inr (Or.inr ⟨rfl, hopen.2 ⟨hnil, hsymbol⟩⟩)

end Seam

/-- Nothing glues to a text without tokens. -/
theorem not_seamGlues_of_blank {lead : List Char} {a b : String}
    (h : Lexing.IsOf ⟨lead, []⟩ a.toList) : ¬ SeamGlues a b := by
  have ha : a.toList = lead := by rw [← h.join, joinSegments_nil, List.append_nil]
  rintro ⟨c, d, hc, _, hglue⟩
  have hb : isBlank c = true := h.lead_blank c (ha ▸ List.mem_of_getLast? hc)
  obtain ⟨hletter, _⟩ | ⟨hdigit, _⟩ | ⟨_, t, ht, _⟩ := hglue
  · rw [isLetter_eq_false_of_isBlank hb] at hletter
    cases hletter
  · rw [isDigit_eq_false_of_isBlank hb] at hdigit
    cases hdigit
  · rw [Lexer.drain_ofText_of_isOf h] at ht
    cases ht

namespace Lexer

/-- **The tokens of a concatenation.** Without the ends of the input, they are
the tokens of the two texts exactly if the seam does not glue; and the tokens
of the first text but its last stand whatever follows. -/
theorem tokens_append (a b : String) :
    ((tokenize (a ++ b)).dropLast = (tokenize a).dropLast ++ (tokenize b).dropLast
        ↔ ¬ SeamGlues a b)
      ∧ (tokenize a).dropLast.dropLast <+: (tokenize (a ++ b)).dropLast := by
  obtain ⟨x, hx⟩ := Lexing.exists_isOf a.toList
  obtain ⟨y, hy⟩ := Lexing.exists_isOf b.toList
  obtain ⟨z, hz⟩ := Lexing.exists_isOf (a ++ b).toList
  rw [dropLast_tokenize_of_isOf hx, dropLast_tokenize_of_isOf hy, dropLast_tokenize_of_isOf hz]
  rw [String.toList_append] at hz
  refine ⟨?_, hx.dropLast_tokens_prefix hz⟩
  obtain ⟨lead, ps⟩ := x
  obtain rfl | ⟨ps, p, rfl⟩ := List.eq_nil_or_concat' ps
  · -- the first text is blank, and has no token that could change
    rw [hz.unique (hx.append_of_blank hy)]
    exact ⟨fun _ => not_seamGlues_of_blank hx, fun _ => rfl⟩
  · rw [seamGlues_iff hx]
    exact hx.tokens_append_iff hy hz

end Lexer

end ScriptLexer

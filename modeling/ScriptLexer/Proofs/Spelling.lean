import ScriptLexer.Proofs.IllegalCharacters
import ScriptLexer.Proofs.Rendering

/-!
# How kinds are spelled

The spelling of a kind is written down in three places. The lexer knows the symbols
by their characters, one at a time; a table goes from words to the kinds of the
reserved ones; and a table goes from kinds to their texts. Nothing makes them agree:
a word could be reserved with the spelling of another kind, and a run or an illegal
character could have the text of a symbol.

They do agree (`Token.Agrees`), and they leave no token out: a token can come out of
a text if and only if it agrees with the tables (`Token.scannable_iff_agrees`,
`Lexer.exists_mem_tokenize_iff`). In particular a text alone says which kind it is
of, wherever it is read (`Lexer.kinds_agree_with_spellings`).
-/

namespace ScriptLexer

/-! ## The tables -/

/-- **The two tables of words agree**: one gives a word's kind exactly where the other
gives the kind of a reserved word this spelling. -/
theorem Kind.ofKeyword?_eq_some_iff {k : Kind} {s : String} :
    ofKeyword? s = some k ↔ k.isKeyword = true ∧ k.spelling? = some s :=
  ⟨of_ofKeyword?, fun h => (letters_of_isKeyword h.1 h.2).1⟩

/-- **A kind whose spelling is fixed** is a reserved word, an operator or a
delimiter. -/
theorem Kind.word_or_symbol_of_spelling? {k : Kind} {s : String} (h : k.spelling? = some s) :
    k.isKeyword = true ∨ k.isOperator = true ∨ k.isPunctuation = true := by
  cases k <;> cases h <;> decide

/-! ## A token and the tables -/

theorem isRun_ofList {p : Char → Bool} {l : List Char} (hne : l ≠ [])
    (h : ∀ c ∈ l, p c = true) : IsRun p (String.ofList l) := by
  refine isRun_of_forall ?_ ?_
  · rwa [String.toList_ofList]
  · rwa [String.toList_ofList]

theorem IsRun.toList_ne_nil {p : Char → Bool} {s : String} (h : IsRun p s) : s.toList ≠ [] :=
  mt String.toList_eq_nil_iff.1 h.1

namespace Token

/-- **A token with a text of its own**: of a kind that has no fixed spelling, with a
text that is as the kind has it. -/
inductive IsFree : Token → Prop where
  /-- A run of letters that is not reserved. -/
  | ident {s : String} (hrun : IsRun isLetter s) (hword : Kind.ofKeyword? s = none) :
      IsFree ⟨.ident, s⟩
  /-- A run of digits. -/
  | int {s : String} (hrun : IsRun isDigit s) : IsFree ⟨.int, s⟩
  /-- A single illegal character. -/
  | illegal {c : Char} (hc : IllegalChar c) : IsFree ⟨.illegal, String.singleton c⟩

/-- **A token agrees with the tables of spellings.** -/
structure Agrees (t : Token) : Prop where
  /-- If its kind has a fixed spelling, this is its text. -/
  literal_eq : ∀ s, t.kind.spelling? = some s → t.literal = s
  /-- If its text is the spelling of a kind, this is its kind. -/
  kind_eq : ∀ k : Kind, k.spelling? = some t.literal → t.kind = k
  /-- If its kind has no fixed spelling, its text is as the kind has it. -/
  free : t.kind.spelling? = none → t.IsFree

/-- A scannable token has the spelling of its kind, if the kind has one. -/
theorem Scannable.literal_eq {t : Token} (h : t.Scannable) {s : String}
    (hs : t.kind.spelling? = some s) : t.literal = s := by
  cases h with
  | keyword _ hs' => exact Option.some_inj.1 (hs'.symm.trans hs)
  | ident _ _ _ => cases hs
  | int _ _ => cases hs
  | symbol _ hs' => exact Option.some_inj.1 (hs'.symm.trans hs)
  | illegal _ _ _ _ => cases hs

/-- A scannable token of another kind has a text of its own. -/
theorem Scannable.isFree {t : Token} (h : t.Scannable) (hnone : t.kind.spelling? = none) :
    t.IsFree := by
  cases h with
  | keyword _ hs => exact absurd (hs.symm.trans hnone) (Option.some_ne_none _)
  | @ident l hne hl hk =>
    refine .ident (isRun_ofList hne hl) (Option.eq_none_iff_forall_ne_some.2 fun k hword => ?_)
    obtain ⟨hkey, hs⟩ := Kind.ofKeyword?_eq_some_iff.1 hword
    exact hk k hkey hs
  | int hne hd => exact .int (isRun_ofList hne hd)
  | symbol _ hs => exact absurd (hs.symm.trans hnone) (Option.some_ne_none _)
  | illegal hb hl hd hs => exact .illegal ⟨hb, hl, hd, hs⟩

/-- A token with a text of its own is scannable. -/
theorem IsFree.scannable {t : Token} (h : t.IsFree) : t.Scannable := by
  cases h with
  | @ident s hrun hword =>
    rw [← String.ofList_toList (s := s)]
    refine .ident hrun.toList_ne_nil hrun.2 (fun k hk hs => ?_)
    rw [String.ofList_toList] at hs
    rw [Kind.ofKeyword?_eq_some_iff.2 ⟨hk, hs⟩] at hword
    cases hword
  | @int s hrun =>
    rw [← String.ofList_toList (s := s)]
    exact .int hrun.toList_ne_nil hrun.2
  | illegal hc => exact .illegal hc.1 hc.2.1 hc.2.2.1 hc.2.2.2

/-- **The scannable tokens are those that agree with the tables.** -/
theorem scannable_iff_agrees {t : Token} : t.Scannable ↔ t.Agrees := by
  constructor
  · intro h
    exact ⟨fun s => h.literal_eq, fun k hk => h.kind_eq.trans (lexemeKind_of_spelling? hk),
      h.isFree⟩
  · intro h
    cases hs : t.kind.spelling? with
    | none => exact (h.free hs).scannable
    | some s =>
      obtain ⟨k, l⟩ := t
      obtain rfl : l = s := h.literal_eq s hs
      obtain hk | hk := Kind.word_or_symbol_of_spelling? hs
      · exact .keyword hk hs
      · exact .symbol hk hs

end Token

/-! ## The tokens of texts -/

/-- A lexeme by itself is a text with one segment. -/
theorem IsLexeme.isOf {l : List Char} (h : IsLexeme l) : Lexing.IsOf ⟨[], [⟨l, []⟩]⟩ l where
  join := by simp
  lead_blank := by simp
  greedy := greedy_cons_iff.2 ⟨h, by simp, by simp, trivial⟩

namespace Lexer

/-- A token of a text is scannable, or the end of the input. -/
theorem scannable_or_eq_eof {text : String} {t : Token} (h : t ∈ tokenize text) :
    t.Scannable ∨ t = Token.eof := by
  obtain ⟨x, hx⟩ := Lexing.exists_isOf text.toList
  rw [tokenize_of_isOf hx, List.mem_append, List.mem_singleton] at h
  exact h.imp_left (hx.greedy.scannable t)

theorem scannable_of_mem_tokenize {text : String} {t : Token} (h : t ∈ tokenize text)
    (hkind : t.kind ≠ .eof) : t.Scannable :=
  (scannable_or_eq_eof h).resolve_right (fun heof => hkind (congrArg Token.kind heof))

/-- **The tokens there are**: a token comes out of some text if and only if it agrees
with the tables or is the end of the input. -/
theorem exists_mem_tokenize_iff {t : Token} :
    (∃ text, t ∈ tokenize text) ↔ t.Agrees ∨ t = Token.eof := by
  rw [← Token.scannable_iff_agrees]
  constructor
  · rintro ⟨text, h⟩
    exact scannable_or_eq_eof h
  · rintro (h | rfl)
    · -- the token's own text will do
      obtain ⟨k, s⟩ := t
      obtain rfl : k = lexemeKind s.toList := h.kind_eq
      refine ⟨s, ?_⟩
      rw [tokenize_of_isOf h.isLexeme.isOf]
      exact List.mem_append_left _ (by simp [Lexing.tokens, Segment.token])
    · exact ⟨"", by simp [tokenize]⟩

/-- **A text says its kind.** Every token of a text but the end of the input agrees with
the tables of spellings. So tokens with the same text are of the same kind, whatever
texts they come from. -/
theorem kinds_agree_with_spellings :
    (∀ text : String, ∀ t ∈ tokenize text, t.kind ≠ .eof → t.Agrees)
      ∧ ∀ text text' : String, ∀ t ∈ tokenize text, ∀ u ∈ tokenize text',
        t.kind ≠ .eof → u.kind ≠ .eof → t.literal = u.literal → t.kind = u.kind := by
  constructor
  · intro text t ht hkind
    exact Token.scannable_iff_agrees.1 (scannable_of_mem_tokenize ht hkind)
  · intro text text' t ht u hu htkind hukind hliteral
    rw [(scannable_of_mem_tokenize ht htkind).kind_eq,
      (scannable_of_mem_tokenize hu hukind).kind_eq, hliteral]

/-- A pair between an illegal character and a number, and the same pair behind a word. -/
theorem kinds_agree_with_spellings_pair :
    ∃ t ∈ tokenize "iff é<=01", ∃ u ∈ tokenize "if<==",
      (t.kind ≠ .eof ∧ u.kind ≠ .eof ∧ t.literal = "<=" ∧ u.literal = "<=")
        ∧ t.Agrees ∧ t.kind = u.kind := by
  have ht : ⟨.ltEq, "<="⟩ ∈ tokenize "iff é<=01" := by decide +kernel
  have hu : ⟨.ltEq, "<="⟩ ∈ tokenize "if<==" := by decide +kernel
  obtain ⟨hagrees, hsame⟩ := kinds_agree_with_spellings
  exact ⟨_, ht, _, hu, ⟨Kind.noConfusion, Kind.noConfusion, rfl, rfl⟩,
    hagrees _ _ ht Kind.noConfusion,
    hsame _ _ _ ht _ hu Kind.noConfusion Kind.noConfusion rfl⟩

end Lexer

end ScriptLexer

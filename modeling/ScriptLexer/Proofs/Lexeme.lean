import Mathlib.Data.List.Infix
import Mathlib.Data.List.TakeWhile
import ScriptLexer.Lexer.Munch

/-!
# Lexemes

What can be a token's text, said without saying how it is read: a run of
letters, a run of digits, one of the symbols, one of the four pairs that end
in `=`, or any other character that is no blank. A lexer is to cut off, at
each place, the *longest* lexeme that begins there – a condition on every
prefix of the text. It can be met by looking one character ahead, and the
reason is a property of these lexemes and not of the lexer: if a lexeme can
be lengthened to another by several characters, then already by the first of
them (`IsLexeme.of_append_cons`). So a lexeme is the longest at its place
exactly if it and the next character are no lexeme (`isLongest_append_iff`).

The kind of a token is a function of its text (`lexemeKind`), and the tokens
that can come out of a text – the **scannable** ones – are the pairs of a
lexeme with its kind (`Token.scannable_iff`). What `munch` reads is such a
token, and its text is the longest lexeme there is (`munch_scannable`,
`munch_isLongest`).
-/

namespace ScriptLexer

/-! ## The grammar -/

/-- The symbols that a following `=` extends. -/
def openChars : List Char := ['=', '<', '>', '!']

/-- The characters that are a symbol by themselves. -/
def symbolChars : List Char :=
  ['=', '<', '>', '!', '+', '-', '/', '*', '(', ')', '{', '}', ',', ';']

/-- **A lexeme**: a text that a token can have. -/
inductive IsLexeme : List Char → Prop where
  /-- A run of letters. -/
  | word {l : List Char} (hne : l ≠ []) (h : ∀ c ∈ l, isLetter c = true) : IsLexeme l
  /-- A run of digits. -/
  | number {l : List Char} (hne : l ≠ []) (h : ∀ c ∈ l, isDigit c = true) : IsLexeme l
  /-- A symbol and the `=` that extends it. -/
  | pair {c : Char} (h : c ∈ openChars) : IsLexeme [c, '=']
  /-- A symbol. -/
  | symbol {c : Char} (h : c ∈ symbolChars) : IsLexeme [c]
  /-- Any other character that is no blank. -/
  | other {c : Char} (hb : isBlank c = false) (hl : isLetter c = false)
      (hd : isDigit c = false) (hs : c ∉ symbolChars) : IsLexeme [c]

/-- **The longest lexeme at a place**: a lexeme with which the text begins,
no shorter than any other. -/
structure IsLongest (l text : List Char) : Prop where
  /-- It is a lexeme. -/
  isLexeme : IsLexeme l
  /-- The text begins with it. -/
  isPrefix : l <+: text
  /-- No lexeme with which the text begins is longer. -/
  length_le : ∀ m, IsLexeme m → m <+: text → m.length ≤ l.length

/-- A place has at most one longest lexeme. -/
theorem IsLongest.unique {l m text : List Char} (hl : IsLongest l text)
    (hm : IsLongest m text) : l = m := by
  have hle : l.length ≤ m.length := hm.length_le l hl.isLexeme hl.isPrefix
  have hge : m.length ≤ l.length := hl.length_le m hm.isLexeme hm.isPrefix
  exact (List.prefix_of_prefix_length_le hl.isPrefix hm.isPrefix hle).eq_of_length
    (Nat.le_antisymm hle hge)

/-! ## The classes of the characters of a lexeme -/

theorem isBlank_eq_false_of_isLetter {c : Char} (h : isLetter c = true) :
    isBlank c = false := by
  by_contra hb
  rw [isLetter_eq_false_of_isBlank (by simpa using hb)] at h
  cases h

theorem isBlank_eq_false_of_isDigit {c : Char} (h : isDigit c = true) :
    isBlank c = false := by
  by_contra hb
  rw [isDigit_eq_false_of_isBlank (by simpa using hb)] at h
  cases h

/-- A list of characters is checked one by one. Evaluating the bounded
statement itself would go through all characters there are. -/
theorem forall_mem_of_all {P : Char → Prop} [DecidablePred P] {l : List Char}
    (h : l.all (fun c => P c) = true) : ∀ c ∈ l, P c :=
  fun c hc => of_decide_eq_true (List.all_eq_true.1 h c hc)

/-- A symbol is in none of the three classes. -/
theorem classes_of_mem_symbolChars : ∀ c ∈ symbolChars,
    isBlank c = false ∧ isLetter c = false ∧ isDigit c = false :=
  forall_mem_of_all (by decide)

theorem openChars_subset_symbolChars : openChars ⊆ symbolChars := by
  decide

/-- A pair is made of symbols. -/
theorem mem_symbolChars_of_mem_pair {c e : Char} (h : c ∈ openChars) (he : e ∈ [c, '=']) :
    e ∈ symbolChars := by
  obtain rfl | rfl := List.mem_pair.1 he
  · exact openChars_subset_symbolChars h
  · exact List.mem_cons_self

theorem IsLexeme.ne_nil {l : List Char} (h : IsLexeme l) : l ≠ [] := by
  cases h with
  | word hne _ => exact hne
  | number hne _ => exact hne
  | pair _ => exact List.cons_ne_nil _ _
  | symbol _ => exact List.cons_ne_nil _ _
  | other _ _ _ _ => exact List.cons_ne_nil _ _

/-- No blank is part of a lexeme. -/
theorem IsLexeme.isBlank_eq_false {l : List Char} (h : IsLexeme l) {c : Char}
    (hc : c ∈ l) : isBlank c = false := by
  cases h with
  | word _ hw => exact isBlank_eq_false_of_isLetter (hw c hc)
  | number _ hn => exact isBlank_eq_false_of_isDigit (hn c hc)
  | pair ho => exact (classes_of_mem_symbolChars c (mem_symbolChars_of_mem_pair ho hc)).1
  | symbol hs =>
    rw [List.mem_singleton.1 hc]
    exact (classes_of_mem_symbolChars _ hs).1
  | other hb _ _ _ =>
    rw [List.mem_singleton.1 hc]
    exact hb

/-- **A letter or a digit makes the lexeme a run**: the characters of a lexeme
that has one are all of its class. -/
theorem IsLexeme.run_of_mem {p : Char → Bool} (hp : p = isLetter ∨ p = isDigit)
    {l : List Char} (h : IsLexeme l) {c : Char} (hc : c ∈ l) (hpc : p c = true) :
    ∀ e ∈ l, p e = true := by
  cases h with
  | word _ hw =>
    obtain rfl | rfl := hp
    · exact hw
    · exact absurd (hw c hc) (by simp [isLetter_eq_false_of_isDigit hpc])
  | number _ hn =>
    obtain rfl | rfl := hp
    · exact absurd hpc (by simp [isLetter_eq_false_of_isDigit (hn c hc)])
    · exact hn
  | pair ho =>
    obtain ⟨_, hletter, hdigit⟩ :=
      classes_of_mem_symbolChars c (mem_symbolChars_of_mem_pair ho hc)
    obtain rfl | rfl := hp
    · exact absurd hpc (Bool.eq_false_iff.1 hletter)
    · exact absurd hpc (Bool.eq_false_iff.1 hdigit)
  | symbol _ =>
    intro e he
    rwa [List.mem_singleton.1 he, ← List.mem_singleton.1 hc]
  | other _ _ _ _ =>
    intro e he
    rwa [List.mem_singleton.1 he, ← List.mem_singleton.1 hc]

/-! ## One character ahead is enough -/

/-- **Lengthening by one character.** Only runs and the four open symbols are
lengthened to another lexeme by a character behind them. -/
theorem isLexeme_append_singleton_iff {l : List Char} (hne : l ≠ []) (d : Char) :
    IsLexeme (l ++ [d])
      ↔ ((∀ c ∈ l, isLetter c = true) ∧ isLetter d = true)
        ∨ ((∀ c ∈ l, isDigit c = true) ∧ isDigit d = true)
        ∨ ((∃ c ∈ openChars, l = [c]) ∧ d = '=') := by
  constructor
  · intro h
    generalize htext : l ++ [d] = text at h
    cases h with
    | word _ hw =>
      subst htext
      exact Or.inl ⟨fun c hc => hw c (List.mem_append_left _ hc), hw d (by simp)⟩
    | number _ hn =>
      subst htext
      exact Or.inr (Or.inl
        ⟨fun c hc => hn c (List.mem_append_left _ hc), hn d (by simp)⟩)
    | pair ho =>
      have hcut : l ++ [d] = [_] ++ ['='] := htext
      obtain ⟨hl, hd⟩ := List.append_inj' hcut rfl
      exact Or.inr (Or.inr ⟨⟨_, ho, hl⟩, List.singleton_inj.1 hd⟩)
    | symbol _ => exact absurd (List.append_eq_singleton_iff.1 htext) (by simp [hne])
    | other _ _ _ _ =>
      exact absurd (List.append_eq_singleton_iff.1 htext) (by simp [hne])
  · rintro (⟨hw, hd⟩ | ⟨hn, hd⟩ | ⟨⟨c, ho, rfl⟩, rfl⟩)
    · refine IsLexeme.word (by simp) (List.forall_mem_append.2 ⟨hw, ?_⟩)
      exact List.forall_mem_singleton.2 hd
    · refine IsLexeme.number (by simp) (List.forall_mem_append.2 ⟨hn, ?_⟩)
      exact List.forall_mem_singleton.2 hd
    · exact IsLexeme.pair ho

/-- **One character ahead is enough.** If characters behind a text make it a
lexeme, then the first of them and the text are one, unless there is no
text. -/
theorem IsLexeme.of_append_cons {l m : List Char} {d : Char} (hne : l ≠ [])
    (h : IsLexeme (l ++ d :: m)) : IsLexeme (l ++ [d]) := by
  have hprefix : l ++ [d] <+: l ++ d :: m := ⟨m, by simp⟩
  have hsub := hprefix.subset
  have hlen : (l ++ d :: m).length = l.length + m.length + 1 := by
    simp [Nat.add_assoc]
  have hpos : 0 < l.length := List.length_pos_iff.2 hne
  generalize htext : l ++ d :: m = text at h hsub hlen
  cases h with
  | word _ hw => exact IsLexeme.word (by simp) (fun c hc => hw c (hsub hc))
  | number _ hn => exact IsLexeme.number (by simp) (fun c hc => hn c (hsub hc))
  | pair ho =>
    -- two characters in all, so nothing is behind the second
    have hm : m = [] := by
      rw [← List.length_eq_zero_iff]
      simp only [List.length_cons, List.length_nil] at hlen
      omega
    rw [hm] at htext
    rw [htext]
    exact IsLexeme.pair ho
  | symbol _ => simp only [List.length_cons, List.length_nil] at hlen; omega
  | other _ _ _ _ => simp only [List.length_cons, List.length_nil] at hlen; omega

/-- **The longest lexeme is the one that the next character does not
lengthen.** -/
theorem isLongest_append_iff {l rest : List Char} :
    IsLongest l (l ++ rest) ↔ IsLexeme l ∧ ∀ d ∈ rest.head?, ¬ IsLexeme (l ++ [d]) := by
  constructor
  · intro h
    refine ⟨h.isLexeme, fun d hd hlonger => ?_⟩
    have hprefix : l ++ [d] <+: l ++ rest := by
      rw [List.prefix_append_right_inj]
      obtain ⟨tail, rfl⟩ := List.head?_eq_some_iff.1 hd
      exact ⟨tail, rfl⟩
    have hle := h.length_le _ hlonger hprefix
    rw [List.length_append, List.length_singleton] at hle
    omega
  · rintro ⟨hl, hnext⟩
    refine ⟨hl, List.prefix_append l rest, fun m hm hprefix => ?_⟩
    by_contra hlt
    -- a longer lexeme begins with `l` and the next character
    obtain ⟨tail, rfl⟩ := List.prefix_of_prefix_length_le (List.prefix_append l rest)
      hprefix (by omega)
    cases tail with
    | nil => simp at hlt
    | cons d tail =>
      refine hnext d ?_ (hm.of_append_cons hl.ne_nil)
      obtain ⟨more, hmore⟩ := (List.prefix_append_right_inj l).1 hprefix
      rw [← hmore]
      rfl

/-! ## The kind of a lexeme -/

/-- **The kind of a lexeme**: the kind with that spelling, if there is one;
else the class of its characters decides. -/
def lexemeKind (l : List Char) : Kind :=
  match Kind.all.find? (fun k => k.spelling? == some (String.ofList l)) with
  | some k => k
  | none => if l.all isLetter then .ident else if l.all isDigit then .int else .illegal

/-- No two kinds share a spelling. -/
theorem lexemeKind_of_spelling? {k : Kind} {s : String} (h : k.spelling? = some s) :
    lexemeKind s.toList = k := by
  cases k <;> cases h <;> decide

theorem lexemeKind_of_forall {l : List Char}
    (h : ∀ k : Kind, k.spelling? ≠ some (String.ofList l)) :
    lexemeKind l
      = if l.all isLetter then .ident else if l.all isDigit then .int else .illegal := by
  have hnone : Kind.all.find? (fun k => k.spelling? == some (String.ofList l)) = none := by
    rw [List.find?_eq_none]
    intro k _
    simpa using h k
  rw [lexemeKind, hnone]

/-- A reserved word is a run of letters, and the lexer's table knows it. -/
theorem Kind.letters_of_isKeyword {k : Kind} {s : String} (hk : k.isKeyword = true)
    (h : k.spelling? = some s) :
    ofKeyword? s = some k ∧ s.toList ≠ [] ∧ ∀ c ∈ s.toList, isLetter c = true := by
  rw [← List.all_eq_true]
  cases k <;> cases hk <;> cases h <;> decide

/-- A fixed spelling that is no reserved word is a symbol, or a pair that
ends in `=`, of an operator or a delimiter. -/
theorem Kind.symbol_of_not_isKeyword {k : Kind} {s : String} (hk : k.isKeyword = false)
    (h : k.spelling? = some s) :
    (k.isOperator = true ∨ k.isPunctuation = true)
      ∧ ((∃ c ∈ openChars, s.toList = [c, '=']) ∨ ∃ c ∈ symbolChars, s.toList = [c]) := by
  refine ⟨by cases k <;> cases hk <;> cases h <;> decide, ?_⟩
  cases k <;> cases hk <;> cases h <;>
    first
    | exact Or.inl ⟨_, by decide, rfl⟩
    | exact Or.inr ⟨_, by decide, rfl⟩

/-- The lexer's table of words has no word but the reserved ones. -/
theorem Kind.of_ofKeyword? {k : Kind} {s : String} (h : ofKeyword? s = some k) :
    k.isKeyword = true ∧ k.spelling? = some s := by
  unfold ofKeyword? at h
  split at h <;> cases h <;> exact ⟨rfl, rfl⟩

/-- A fixed spelling has a first character, which is a letter or a symbol. -/
theorem Kind.head_of_spelling? {k : Kind} {s : String} (h : k.spelling? = some s) :
    ∃ c ∈ s.toList, (k.isKeyword = true ∧ isLetter c = true) ∨ c ∈ symbolChars := by
  cases hk : k.isKeyword with
  | true =>
    obtain ⟨_, hne, hletters⟩ := letters_of_isKeyword hk h
    obtain ⟨c, hc⟩ := List.exists_mem_of_ne_nil _ hne
    exact ⟨c, hc, Or.inl ⟨rfl, hletters c hc⟩⟩
  | false =>
    obtain ⟨c, ho, hs⟩ | ⟨c, hm, hs⟩ := (symbol_of_not_isKeyword hk h).2
    · exact ⟨c, by simp [hs], Or.inr (openChars_subset_symbolChars ho)⟩
    · exact ⟨c, by simp [hs], Or.inr hm⟩

/-- Each symbol is the spelling of an operator or a delimiter. -/
theorem Kind.exists_symbol : ∀ c ∈ symbolChars, ∃ k ∈ all,
    (k.isOperator = true ∨ k.isPunctuation = true)
      ∧ k.spelling? = some (String.ofList [c]) :=
  forall_mem_of_all (by decide)

/-- So is each pair. -/
theorem Kind.exists_pair : ∀ c ∈ openChars, ∃ k ∈ all,
    (k.isOperator = true ∨ k.isPunctuation = true)
      ∧ k.spelling? = some (String.ofList [c, '=']) :=
  forall_mem_of_all (by decide)

/-- Operators and delimiters are no reserved words. -/
theorem Kind.isKeyword_eq_false {k : Kind}
    (h : k.isOperator = true ∨ k.isPunctuation = true) : k.isKeyword = false := by
  cases k <;> simp_all [isOperator, isPunctuation, isKeyword]

/-! ## Scannable tokens -/

/-- **A scannable token**: one that can come out of a text. -/
inductive Token.Scannable : Token → Prop where
  /-- A reserved word. -/
  | keyword {k : Kind} {s : String} (hk : k.isKeyword = true)
      (hs : k.spelling? = some s) : Scannable ⟨k, s⟩
  /-- A run of letters that is no reserved word. -/
  | ident {l : List Char} (hne : l ≠ []) (h : ∀ c ∈ l, isLetter c = true)
      (hk : ∀ k : Kind, k.isKeyword = true → k.spelling? ≠ some (String.ofList l)) :
      Scannable ⟨.ident, String.ofList l⟩
  /-- A run of digits. -/
  | int {l : List Char} (hne : l ≠ []) (h : ∀ c ∈ l, isDigit c = true) :
      Scannable ⟨.int, String.ofList l⟩
  /-- An operator or a delimiter. -/
  | symbol {k : Kind} {s : String} (hk : k.isOperator = true ∨ k.isPunctuation = true)
      (hs : k.spelling? = some s) : Scannable ⟨k, s⟩
  /-- A character that is no blank and no part of the other tokens. -/
  | illegal {c : Char} (hb : isBlank c = false) (hl : isLetter c = false)
      (hd : isDigit c = false) (hs : c ∉ symbolChars) :
      Scannable ⟨.illegal, String.ofList [c]⟩

namespace Token

/-- The text of a scannable token is a lexeme. -/
theorem Scannable.isLexeme {t : Token} (h : t.Scannable) : IsLexeme t.literal.toList := by
  cases h with
  | keyword hk hs =>
    obtain ⟨_, hne, hletters⟩ := Kind.letters_of_isKeyword hk hs
    exact IsLexeme.word hne hletters
  | ident hne hl _ =>
    rw [String.toList_ofList]
    exact IsLexeme.word hne hl
  | int hne hd =>
    rw [String.toList_ofList]
    exact IsLexeme.number hne hd
  | symbol hk hs =>
    obtain ⟨c, ho, hc⟩ | ⟨c, hm, hc⟩ :=
      (Kind.symbol_of_not_isKeyword (Kind.isKeyword_eq_false hk) hs).2
    · rw [hc]
      exact IsLexeme.pair ho
    · rw [hc]
      exact IsLexeme.symbol hm
  | illegal hb hl hd hs =>
    rw [String.toList_ofList]
    exact IsLexeme.other hb hl hd hs

/-- **The kind is a function of the text.** -/
theorem Scannable.kind_eq {t : Token} (h : t.Scannable) :
    t.kind = lexemeKind t.literal.toList := by
  cases h with
  | keyword _ hs => exact (lexemeKind_of_spelling? hs).symm
  | symbol _ hs => exact (lexemeKind_of_spelling? hs).symm
  | @ident l hne hl hk =>
    have hfree : ∀ k : Kind, k.spelling? ≠ some (String.ofList l) := by
      intro k hs
      obtain ⟨c, hc, ⟨hkey, _⟩ | hm⟩ := Kind.head_of_spelling? hs
      · exact hk k hkey hs
      · rw [String.toList_ofList] at hc
        exact Bool.eq_false_iff.1 (classes_of_mem_symbolChars c hm).2.1 (hl c hc)
    rw [String.toList_ofList, lexemeKind_of_forall hfree, if_pos (List.all_eq_true.2 hl)]
  | @int l hne hd =>
    have hnot : ∀ c ∈ l, isLetter c = false :=
      fun c hc => isLetter_eq_false_of_isDigit (hd c hc)
    have hfree : ∀ k : Kind, k.spelling? ≠ some (String.ofList l) := by
      intro k hs
      obtain ⟨c, hc, ⟨_, hletter⟩ | hm⟩ := Kind.head_of_spelling? hs
      · rw [String.toList_ofList] at hc
        exact Bool.eq_false_iff.1 (hnot c hc) hletter
      · rw [String.toList_ofList] at hc
        exact Bool.eq_false_iff.1 (classes_of_mem_symbolChars c hm).2.2 (hd c hc)
    obtain ⟨c, hc⟩ := List.exists_mem_of_ne_nil _ hne
    rw [String.toList_ofList, lexemeKind_of_forall hfree,
      if_neg (fun hall => Bool.eq_false_iff.1 (hnot c hc) (List.all_eq_true.1 hall c hc)),
      if_pos (List.all_eq_true.2 hd)]
  | @illegal c hb hl hd hs =>
    have hfree : ∀ k : Kind, k.spelling? ≠ some (String.ofList [c]) := by
      intro k hs'
      obtain ⟨e, he, ⟨_, hletter⟩ | hm⟩ := Kind.head_of_spelling? hs'
      · rw [String.toList_ofList, List.mem_singleton] at he
        exact Bool.eq_false_iff.1 hl (he ▸ hletter)
      · rw [String.toList_ofList, List.mem_singleton] at he
        exact hs (he ▸ hm)
    rw [String.toList_ofList, lexemeKind_of_forall hfree]
    simp [hl, hd]

/-- A lexeme with its kind is scannable. -/
theorem scannable_of_isLexeme {l : List Char} (h : IsLexeme l) :
    Scannable ⟨lexemeKind l, String.ofList l⟩ := by
  -- it is enough to find the token with this text that the grammar has
  have key : ∀ t : Token, t.Scannable → t.literal = String.ofList l →
      Scannable ⟨lexemeKind l, String.ofList l⟩ := by
    intro t ht htext
    have hk := ht.kind_eq
    rw [htext, String.toList_ofList] at hk
    rw [← hk, ← htext]
    exact ht
  cases h with
  | word hne hl =>
    by_cases hres : ∃ k : Kind, k.isKeyword = true ∧ k.spelling? = some (String.ofList l)
    · obtain ⟨k, hk, hs⟩ := hres
      exact key _ (Scannable.keyword hk hs) rfl
    · exact key _ (Scannable.ident hne hl (fun k hk hs => hres ⟨k, hk, hs⟩)) rfl
  | number hne hd => exact key _ (Scannable.int hne hd) rfl
  | pair ho =>
    obtain ⟨k, _, hk, hs⟩ := Kind.exists_pair _ ho
    exact key _ (Scannable.symbol hk hs) rfl
  | symbol hm =>
    obtain ⟨k, _, hk, hs⟩ := Kind.exists_symbol _ hm
    exact key _ (Scannable.symbol hk hs) rfl
  | other hb hl hd hs => exact key _ (Scannable.illegal hb hl hd hs) rfl

/-- **The scannable tokens are the lexemes with their kinds.** -/
theorem scannable_iff {t : Token} :
    t.Scannable ↔ IsLexeme t.literal.toList ∧ t.kind = lexemeKind t.literal.toList := by
  constructor
  · exact fun h => ⟨h.isLexeme, h.kind_eq⟩
  · rintro ⟨hl, hk⟩
    have h := scannable_of_isLexeme hl
    rw [← hk, String.ofList_toList] at h
    exact h

end Token

/-- Whether an `=` behind a token of the kind is read with it. -/
def Kind.isOpen : Kind → Bool
  | assign | lt | gt | negation => true
  | _ => false

/-- The tokens of these kinds are the open symbols. -/
theorem Token.Scannable.isOpen_iff {t : Token} (h : t.Scannable) :
    t.kind.isOpen = true ↔ ∃ c ∈ openChars, t.literal.toList = [c] := by
  constructor
  · intro ho
    cases h with
    | @keyword k s hk hs => cases k <;> cases hk <;> cases ho
    | ident _ _ _ => cases ho
    | int _ _ => cases ho
    | @symbol k s hk hs =>
      cases k <;> cases ho <;> cases hs <;> exact ⟨_, by decide, rfl⟩
    | illegal _ _ _ _ => cases ho
  · rintro ⟨c, ho, hc⟩
    have hopen : ∀ e ∈ openChars, (lexemeKind [e]).isOpen = true :=
      forall_mem_of_all (by decide)
    rw [h.kind_eq, hc]
    exact hopen c ho

/-! ## What is read is the longest lexeme -/

theorem openSymbol?_eq_some {c : Char} {alone extended : Kind}
    (h : openSymbol? c = some (alone, extended)) :
    c ∈ openChars
      ∧ (alone.isOperator = true ∧ alone.spelling? = some (String.ofList [c]))
      ∧ extended.isOperator = true
      ∧ extended.spelling? = some (String.ofList [c, '=']) := by
  unfold openSymbol? at h
  split at h <;> cases h <;> decide

theorem loneSymbol?_eq_some {c : Char} {k : Kind} (h : loneSymbol? c = some k) :
    (c ∈ symbolChars ∧ c ∉ openChars)
      ∧ (k.isOperator = true ∨ k.isPunctuation = true)
      ∧ k.spelling? = some (String.ofList [c]) := by
  unfold loneSymbol? at h
  split at h <;> cases h <;> decide

/-- Every symbol is open or complete as it stands. -/
theorem not_mem_symbolChars {c : Char} (ho : openSymbol? c = none) (hk : loneSymbol? c = none) :
    c ∉ symbolChars := by
  have hknown : ∀ c ∈ symbolChars, (openSymbol? c).isSome = true ∨ (loneSymbol? c).isSome = true :=
    forall_mem_of_all (by decide)
  intro hc
  have hsome := hknown c hc
  rw [ho, hk] at hsome
  exact absurd hsome (by decide)

/-- A word read by the lexer is scannable. -/
theorem wordToken_scannable {w : List Char} (hne : w ≠ [])
    (hw : ∀ c ∈ w, isLetter c = true) : (wordToken w).Scannable := by
  show Token.Scannable ⟨(Kind.ofKeyword? (String.ofList w)).getD .ident, String.ofList w⟩
  cases hk : Kind.ofKeyword? (String.ofList w) with
  | some k =>
    obtain ⟨hkey, hs⟩ := Kind.of_ofKeyword? hk
    exact Token.Scannable.keyword hkey hs
  | none =>
    refine Token.Scannable.ident hne hw (fun k hkey hs => ?_)
    rw [(Kind.letters_of_isKeyword hkey hs).1] at hk
    cases hk

/-- **Every token read is scannable.** -/
theorem munch_scannable {c : Char} (hb : isBlank c = false) (cs : List Char) :
    (munch c cs).1.Scannable := by
  unfold munch
  split
  · rename_i hl
    refine wordToken_scannable (List.cons_ne_nil _ _) (List.forall_mem_cons.2 ⟨hl, ?_⟩)
    exact fun e he => List.mem_takeWhile_imp he
  · rename_i hl
    split
    · rename_i hd
      refine Token.Scannable.int (List.cons_ne_nil _ _) (List.forall_mem_cons.2 ⟨hd, ?_⟩)
      exact fun e he => List.mem_takeWhile_imp he
    · rename_i hd
      unfold munchSymbol
      split
      · rename_i alone extended ho
        obtain ⟨_, ⟨ha, hsa⟩, he, hse⟩ := openSymbol?_eq_some ho
        split
        · exact Token.Scannable.symbol (Or.inl he) hse
        · exact Token.Scannable.symbol (Or.inl ha) hsa
      · rename_i ho
        split
        · rename_i k hk
          obtain ⟨_, hkind, hs⟩ := loneSymbol?_eq_some hk
          exact Token.Scannable.symbol hkind hs
        · rename_i hk
          exact Token.Scannable.illegal hb (by simpa using hl) (by simpa using hd)
            (not_mem_symbolChars ho hk)

/-- The first character of what is left behind a run is not of the run's
class. -/
theorem eq_false_of_mem_head?_dropWhile {p : Char → Bool} {cs : List Char} {d : Char}
    (h : d ∈ (cs.dropWhile p).head?) : p d = false := by
  have hnot := List.head?_dropWhile_not p cs
  rw [h] at hnot
  exact hnot

/-- The first character of a lexeme decides which character lengthens it. -/
theorem IsLexeme.class_of_next {c d : Char} {l : List Char}
    (h : IsLexeme (c :: l ++ [d])) :
    (isLetter c = true ∧ isLetter d = true) ∨ (isDigit c = true ∧ isDigit d = true)
      ∨ (c ∈ openChars ∧ l = [] ∧ d = '=') := by
  rw [isLexeme_append_singleton_iff (List.cons_ne_nil _ _)] at h
  obtain ⟨hw, hd⟩ | ⟨hn, hd⟩ | ⟨⟨e, he, hce⟩, hd⟩ := h
  · exact Or.inl ⟨hw c List.mem_cons_self, hd⟩
  · exact Or.inr (Or.inl ⟨hn c List.mem_cons_self, hd⟩)
  · obtain ⟨rfl, rfl⟩ := List.cons.inj hce
    exact Or.inr (Or.inr ⟨he, rfl, hd⟩)

/-- An open symbol is neither letter nor digit. -/
theorem classes_of_mem_openChars {c : Char} (h : c ∈ openChars) :
    isLetter c = false ∧ isDigit c = false :=
  (classes_of_mem_symbolChars c (openChars_subset_symbolChars h)).2

/-- No symbol or illegal character that is read is cut short: an `=` behind
an open symbol is read with it. -/
theorem munchSymbol_stops {c : Char} (hl : isLetter c = false) (hd : isDigit c = false)
    (cs : List Char) :
    ∀ d ∈ (munchSymbol c cs).2.head?,
      ¬ IsLexeme ((munchSymbol c cs).1.literal.toList ++ [d]) := by
  -- only the open symbol by itself is left to look at
  have key : ∀ (l : List Char) (d : Char), (c ∈ openChars → l = [] → d ≠ '=') →
      ¬ IsLexeme (c :: l ++ [d]) := by
    intro l d hopen h
    obtain ⟨hc, _⟩ | ⟨hc, _⟩ | ⟨hc, hnil, heq⟩ := h.class_of_next
    · exact Bool.eq_false_iff.1 hl hc
    · exact Bool.eq_false_iff.1 hd hc
    · exact hopen hc hnil heq
  unfold munchSymbol
  split
  · split
    · intro d _
      rw [String.toList_ofList]
      exact key ['='] d (fun _ hnil => absurd hnil (List.cons_ne_nil _ _))
    · rename_i hnext
      intro d hd
      rw [String.toList_ofList]
      refine key [] d (fun _ _ heq => ?_)
      obtain ⟨ds, hcs⟩ := List.head?_eq_some_iff.1 hd
      exact hnext ds (heq ▸ hcs)
  · rename_i hnone
    have hopen : c ∉ openChars := by
      intro hc
      simp only [openChars, List.mem_cons, List.not_mem_nil, or_false] at hc
      obtain rfl | rfl | rfl | rfl := hc <;> cases hnone
    split
    · intro d _
      rw [String.toList_ofList]
      exact key [] d (fun hc => absurd hc hopen)
    · intro d _
      rw [String.toList_ofList]
      exact key [] d (fun hc => absurd hc hopen)

/-- **No token read is cut short**: its text and the next character are no
lexeme. -/
theorem munch_stops (c : Char) (cs : List Char) :
    ∀ d ∈ (munch c cs).2.head?, ¬ IsLexeme ((munch c cs).1.literal.toList ++ [d]) := by
  unfold munch
  split
  · rename_i hc
    intro d hd h
    simp only [wordToken, String.toList_ofList] at h
    obtain ⟨_, hletter⟩ | ⟨hdigit, _⟩ | ⟨hopen, _⟩ := h.class_of_next
    · exact Bool.eq_false_iff.1 (eq_false_of_mem_head?_dropWhile hd) hletter
    · exact Bool.eq_false_iff.1 (isLetter_eq_false_of_isDigit hdigit) hc
    · exact Bool.eq_false_iff.1 (classes_of_mem_openChars hopen).1 hc
  · rename_i hc
    split
    · rename_i hdigit
      intro d hd h
      rw [String.toList_ofList] at h
      obtain ⟨hletter, _⟩ | ⟨_, hnext⟩ | ⟨hopen, _⟩ := h.class_of_next
      · exact hc hletter
      · exact Bool.eq_false_iff.1 (eq_false_of_mem_head?_dropWhile hd) hnext
      · exact Bool.eq_false_iff.1 (classes_of_mem_openChars hopen).2 hdigit
    · rename_i hdigit
      exact munchSymbol_stops (by simpa using hc) (by simpa using hdigit) cs

/-- **What is read is the longest lexeme.** -/
theorem munch_isLongest {c : Char} (hb : isBlank c = false) (cs : List Char) :
    IsLongest (munch c cs).1.literal.toList (c :: cs) := by
  have h : IsLongest (munch c cs).1.literal.toList
      ((munch c cs).1.literal.toList ++ (munch c cs).2) :=
    isLongest_append_iff.2 ⟨(munch_scannable hb cs).isLexeme, munch_stops c cs⟩
  rwa [munch_append] at h

end ScriptLexer

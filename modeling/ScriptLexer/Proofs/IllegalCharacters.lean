import ScriptLexer.Proofs.Place

/-!
# Every illegal character is reported once

A lexer reports an illegal character twice over: as a token, and as a
diagnostic that it keeps until it is taken out. Which characters these are is
a property of the text alone (`illegalsFrom`), but the reports are scattered
over a history of calls. Some tokens come out one by one and others many at a
time, and diagnostics can be taken out between any two of them.

What stays true throughout is an account (`Lexer.Accounted`): the diagnostics
taken out so far together with those still held are those of the characters
read so far, and so are the illegal tokens handed out. One step keeps it. A
token that is not illegal covers no illegal character, which has to be seen
for runs and for pairs as well (`Token.Scannable.illegal_or`), and the blanks
before it are none either. Taking the diagnostics out only moves them from one
side of the account to the other.
-/

namespace ScriptLexer

/-! ## The illegal characters of a text -/

/-- **An illegal character**: no blank, no letter, no digit and no symbol. -/
def IllegalChar (c : Char) : Prop :=
  isBlank c = false ∧ isLetter c = false ∧ isDigit c = false ∧ c ∉ symbolChars

instance : DecidablePred IllegalChar :=
  fun c => inferInstanceAs (Decidable (_ ∧ _ ∧ _ ∧ c ∉ symbolChars))

/-- **The illegal characters of a text**, each with its index, where the first
character of the text has index `i`. -/
def illegalsFrom (i : Nat) (cs : List Char) : List (Char × Nat) :=
  (cs.zipIdx i).filter (fun p => IllegalChar p.1)

/-- **The diagnostic for an illegal character** at an index. -/
def illegalDiagnostic (p : Char × Nat) : Diagnostic where
  file := none
  span := some ⟨UInt32.ofNat (p.2 % UInt32.size), 1⟩
  text := "Invalid character '" ++ String.singleton p.1 ++ "'."
  code := 1127
  severity := .error

/-- The texts of the illegal tokens among some tokens. -/
def illegalLiterals (ts : List Token) : List String :=
  (ts.filter (fun t => t.kind = .illegal)).map Token.literal

theorem illegalsFrom_append (i : Nat) (cs ds : List Char) :
    illegalsFrom i (cs ++ ds) = illegalsFrom i cs ++ illegalsFrom (i + cs.length) ds := by
  rw [illegalsFrom, List.zipIdx_append, List.filter_append]
  rfl

/-- A text without illegal characters has none at any index. -/
theorem illegalsFrom_eq_nil {cs : List Char} (h : ∀ c ∈ cs, ¬ IllegalChar c) (i : Nat) :
    illegalsFrom i cs = [] := by
  refine List.filter_eq_nil_iff.2 (fun p hp => ?_)
  have hmem : p.1 ∈ cs := by
    rw [← List.zipIdx_map_fst i cs]
    exact List.mem_map_of_mem hp
  simpa using h p.1 hmem

theorem illegalsFrom_singleton {c : Char} (h : IllegalChar c) (i : Nat) :
    illegalsFrom i [c] = [(c, i)] :=
  List.filter_cons_of_pos (decide_eq_true h)

theorem illegalLiterals_append (ts us : List Token) :
    illegalLiterals (ts ++ us) = illegalLiterals ts ++ illegalLiterals us := by
  rw [illegalLiterals, List.filter_append, List.map_append]
  rfl

/-! ## One token -/

/-- **A token is illegal or covers no illegal character.** -/
theorem Token.Scannable.illegal_or {t : Token} (h : t.Scannable) :
    (∃ c, IllegalChar c ∧ t = ⟨.illegal, String.singleton c⟩)
      ∨ (t.kind ≠ .illegal ∧ ∀ c ∈ t.literal.toList, ¬ IllegalChar c) := by
  have hsymbol : ∀ c ∈ symbolChars, ¬ IllegalChar c := fun c hc hi => hi.2.2.2 hc
  cases h with
  | keyword hk hs =>
    obtain ⟨_, _, hletters⟩ := Kind.letters_of_isKeyword hk hs
    refine Or.inr ⟨?_, fun c hc hi => Bool.eq_false_iff.1 hi.2.1 (hletters c hc)⟩
    rintro rfl
    cases hk
  | ident _ hl _ =>
    refine Or.inr ⟨Kind.noConfusion, fun c hc hi => ?_⟩
    rw [String.toList_ofList] at hc
    exact Bool.eq_false_iff.1 hi.2.1 (hl c hc)
  | int _ hd =>
    refine Or.inr ⟨Kind.noConfusion, fun c hc hi => ?_⟩
    rw [String.toList_ofList] at hc
    exact Bool.eq_false_iff.1 hi.2.2.1 (hd c hc)
  | symbol hk hs =>
    refine Or.inr ⟨?_, fun c hc => ?_⟩
    · rintro rfl
      cases hs
    · obtain ⟨e, ho, he⟩ | ⟨e, hm, he⟩ :=
        (Kind.symbol_of_not_isKeyword (Kind.isKeyword_eq_false hk) hs).2
      · rw [he] at hc
        exact hsymbol c (mem_symbolChars_of_mem_pair ho hc)
      · rw [he, List.mem_singleton] at hc
        exact hsymbol c (hc ▸ hm)
  | illegal hb hl hd hs => exact Or.inl ⟨_, ⟨hb, hl, hd, hs⟩, rfl⟩

/-- The illegal tokens' texts are the illegal characters of the text covered. -/
theorem Token.Scannable.illegalLiterals_eq {t : Token} (h : t.Scannable) (i : Nat) :
    illegalLiterals [t]
      = (illegalsFrom i t.literal.toList).map (fun p => String.singleton p.1) := by
  obtain ⟨c, hc, rfl⟩ | ⟨hkind, hnone⟩ := h.illegal_or
  · rw [String.toList_singleton, illegalsFrom_singleton hc]
    rfl
  · rw [illegalsFrom_eq_nil hnone, illegalLiterals,
      List.filter_cons_of_neg (by simpa using hkind)]
    rfl

/-- The wording for an illegal character. The placeholder is its only
one, and the argument is not searched again. -/
theorem format_invalidCharacter (c : Char) :
    Template.format Message.invalidCharacter.template [String.singleton c]
      = "Invalid character '" ++ String.singleton c ++ "'." := by
  have hcut : Message.invalidCharacter.template.toList
      = "Invalid character '".toList ++ ('{' :: ['0', '}'] ++ ("'.".toList ++ [])) := by
    decide
  have hfill : Template.fill 0 [c] Message.invalidCharacter.template.toList
      = "Invalid character '".toList ++ ([c] ++ "'.".toList) := by
    show replaceAll '{' ['0', '}'] [c] Message.invalidCharacter.template.toList = _
    rw [hcut, replaceAll_append_of_not_mem _ _ (by decide), replaceAll_pattern_append,
      replaceAll_append_of_not_mem _ _ (by decide), replaceAll, List.append_nil]
  refine String.toList_injective ?_
  rw [Template.format, String.toList_ofList, String.toList_append, String.toList_append,
    String.toList_singleton, List.append_assoc, ← hfill, List.map_singleton,
    String.toList_singleton]
  rfl

theorem Lexer.illegalAt_singleton (c : Char) (i : Nat) :
    illegalAt i (String.singleton c) = illegalDiagnostic (c, i) := by
  have hwrap : UInt32.ofNat (i % UInt32.size) = UInt32.ofNat i := UInt32.ofNat_mod_size
  rw [illegalAt, Diagnostic.atSpan, Diagnostic.ofMessage, format_invalidCharacter,
    illegalDiagnostic, hwrap]
  rfl

/-- **A token is recorded if it is illegal.** -/
theorem Token.Scannable.toList_record {t : Token} (h : t.Scannable) (ds : Collection) (i : Nat) :
    (Lexer.record ds ⟨t, i⟩).toList
      = ds.toList ++ (illegalsFrom i t.literal.toList).map illegalDiagnostic := by
  rw [Lexer.record]
  obtain ⟨c, hc, rfl⟩ | ⟨hkind, hnone⟩ := h.illegal_or
  · rw [if_pos rfl, Collection.toList_add, Lexer.illegalAt_singleton,
      String.toList_singleton, illegalsFrom_singleton hc]
    rfl
  · rw [if_neg hkind, illegalsFrom_eq_nil hnone]
    exact (List.append_nil _).symm

namespace Lexer

/-! ## One step -/

section Step

variable {gap lexeme : List Char} {l : Lexer}

/-- **What a step adds to the diagnostics**: those for the illegal characters of the text
that it cuts off. -/
theorem Cut.toList_diagnostics (h : Cut l gap lexeme) :
    l.step.2.diagnostics.toList
      = l.diagnostics.toList ++ (illegalsFrom l.step.1.start lexeme).map illegalDiagnostic := by
  rw [h.recorded]
  obtain hscan | ⟨heof, rfl, -⟩ := h.scannable_or_end
  · have hrecord := hscan.toList_record l.diagnostics l.step.1.start
    rwa [h.literal, String.toList_ofList] at hrecord
  · rw [record, heof, if_neg Kind.noConfusion]
    exact (List.append_nil _).symm

/-- **The token's text is the illegal character**, if there is one. -/
theorem Cut.illegalLiterals_eq (h : Cut l gap lexeme) :
    illegalLiterals [l.step.1.token]
      = (illegalsFrom l.step.1.start lexeme).map (fun p => String.singleton p.1) := by
  obtain hscan | ⟨heof, rfl, -⟩ := h.scannable_or_end
  · rw [hscan.illegalLiterals_eq l.step.1.start, h.literal, String.toList_ofList]
  · rw [heof]
    rfl

end Step

/-! ## The account -/

/-- **The account of a lexer** on a text, from which these diagnostics have been
taken out and these tokens have been read. -/
structure Accounted (text : List Char) (out : List Diagnostic) (ts : List Token)
    (l : Lexer) : Prop where
  /-- The lexer's place is its place in the text. -/
  stands : StandsIn text l
  /-- One diagnostic was made for each illegal character read. -/
  diagnostics : out ++ l.diagnostics.toList
    = (illegalsFrom 0 (text.take l.position)).map illegalDiagnostic
  /-- The illegal tokens read are the illegal characters read. -/
  literals : illegalLiterals ts
    = (illegalsFrom 0 (text.take l.position)).map (fun p => String.singleton p.1)

/-- A lexer at the start of a text has nothing to account for. -/
theorem accounted_ofText (text : String) : Accounted text.toList [] [] (ofText text) :=
  ⟨standsIn_ofText text, rfl, rfl⟩

variable {text : List Char} {out : List Diagnostic} {ts : List Token} {l m : Lexer}

/-- **A step keeps the account.** -/
theorem Accounted.step (h : Accounted text out ts l) :
    Accounted text out (ts ++ [l.step.1.token]) l.step.2 := by
  obtain ⟨gap, lexeme, hcut⟩ := l.exists_cut
  have hblanks : ∀ c ∈ gap, ¬ IllegalChar c :=
    fun c hc hi => Bool.eq_false_iff.1 hi.1 (hcut.blank c hc)
  have hstart : 0 + (text.take l.position ++ gap).length = l.step.1.start := by
    rw [List.length_append, List.length_take_of_le h.stands.position_le, Nat.zero_add, hcut.start]
  have hfound : illegalsFrom 0 (text.take l.step.2.position)
      = illegalsFrom 0 (text.take l.position) ++ illegalsFrom l.step.1.start lexeme := by
    rw [h.stands.take_step hcut, illegalsFrom_append, hstart, illegalsFrom_append,
      illegalsFrom_eq_nil hblanks, List.append_nil]
  refine ⟨h.stands.step, ?_, ?_⟩
  · rw [hfound, hcut.toList_diagnostics, List.map_append, ← List.append_assoc, h.diagnostics]
  · rw [hfound, illegalLiterals_append, hcut.illegalLiterals_eq, List.map_append, h.literals]

/-- The end of the input is no illegal token. -/
theorem illegalLiterals_append_of_isEof {t : Token} (ht : t.isEof = true) (ts : List Token) :
    illegalLiterals (ts ++ [t]) = illegalLiterals ts := by
  have hkind : t.kind ≠ .illegal := by
    rw [(Token.isEof_iff t).1 ht]
    exact Kind.noConfusion
  rw [illegalLiterals_append, illegalLiterals, illegalLiterals,
    List.filter_cons_of_neg (by simpa using hkind)]
  exact List.append_nil _

/-- **So do steps in a row.** -/
theorem Accounted.reads (h : Accounted text out ts l) {us : List Located}
    (hreads : Reads l us m) : Accounted text out (ts ++ us.map Located.token) m := by
  induction hreads generalizing ts with
  | refl l =>
    rw [List.map_nil, List.append_nil]
    exact h
  | @token l m us _ _ ih =>
    have hrest := ih h.step
    rwa [List.append_assoc, List.singleton_append] at hrest
  | stop hend =>
    obtain ⟨hstands, hdiagnostics, hliterals⟩ := h.step
    rw [illegalLiterals_append_of_isEof hend] at hliterals
    rw [List.map_nil, List.append_nil]
    exact ⟨hstands, hdiagnostics, hliterals⟩

/-- The diagnostics that a call takes out. -/
def taken : Call × Reply → List Diagnostic
  | (.takeDiagnostics, .diagnostics ds) => ds.toList
  | _ => []

/-- No other call takes any out. -/
theorem taken_eq_nil {c : Call} (hc : c ≠ .takeDiagnostics) (r : Reply) : taken (c, r) = [] := by
  cases c with
  | takeDiagnostics => exact absurd rfl hc
  | _ => rfl

/-- **Every call keeps the account**, with what it takes out and what it delivers
entered. -/
theorem Accounted.perform (h : Accounted text out ts l) (c : Call) :
    Accounted text (out ++ taken (c, (l.perform c).1)) (ts ++ (l.perform c).1.delivered)
      (l.perform c).2 := by
  by_cases hc : c = .takeDiagnostics
  · rw [hc, perform_takeDiagnostics]
    refine ⟨h.stands.perform .takeDiagnostics, ?_, ?_⟩
    · show out ++ l.diagnostics.toList ++ [] = _
      rw [List.append_nil, h.diagnostics]
    · show illegalLiterals (ts ++ []) = _
      rw [List.append_nil, h.literals]
  · obtain ⟨us, hus, hreads⟩ := l.perform_reads hc
    rw [taken_eq_nil hc, hus, List.append_nil]
    exact h.reads hreads

/-- **No diagnostic is lost, duplicated, misplaced or spurious.** After every
number of calls on a lexer for a text, the diagnostics taken out so far, and
behind them those still held, are one for each illegal character before the
lexer's place, in the order of the text; and the illegal tokens delivered
so far are these characters. -/
theorem diagnostics_accounted (text : String) (calls : List Call) (n : Nat) :
    let history := ((ofText text).run calls).take n
    let past := exchanges calls history
    let l := (ofText text).leftBy history
    let found := illegalsFrom 0 (text.toList.take l.position)
    past.flatMap taken ++ l.diagnostics.toList = found.map illegalDiagnostic
      ∧ illegalLiterals (past.flatMap (fun e => e.2.delivered))
        = found.map (fun p => String.singleton p.1) := by
  intro history past l found
  let I : List (Call × Reply) → Lexer → Prop := fun past m =>
    Accounted text.toList (past.flatMap taken) (past.flatMap (fun e => e.2.delivered)) m
  have hcall : ∀ past m c, I past m → I (past ++ [(c, (m.perform c).1)]) (m.perform c).2 := by
    intro past m c h
    show Accounted _ _ _ _
    rw [List.flatMap_append, List.flatMap_append, List.flatMap_singleton, List.flatMap_singleton]
    exact h.perform c
  have hinv : I past l := run_invariant hcall [] (accounted_ofText text) calls n
  exact ⟨hinv.diagnostics, hinv.literals⟩

end Lexer

end ScriptLexer

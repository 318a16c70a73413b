import ScriptLexer.Lexer.Basic
import ScriptLexer.Proofs.Lexeme

/-!
# Tokens by maximal munch

A text can be cut into blanks and lexemes in many ways. One of them is
distinguished without any mention of a lexer: the one in which every lexeme
is the longest that begins at its place. This module proves that every text
has exactly one such **lexing** (`Lexing.exists_isOf`, `Lexing.IsOf.unique`),
and that reading a text from its start gives the lexemes of that lexing with
their kinds, each at its place (`Lexer.drain_of_isOf`).

Everything else about whole texts goes through this statement rather than
through the lexer: to know the tokens of a text it is enough to exhibit a
lexing of it. For that, the condition on every prefix of the rest is traded
for one on the next character (`greedy_cons_iff`), and a lexing can be
continued differently behind any of its lexemes as long as the continuation
begins alike (`Greedy.append_of_head?_eq`).
-/

namespace ScriptLexer

/-! ## Segments -/

/-- **A segment of a text**: a lexeme and the blanks behind it. -/
structure Segment where
  /-- The characters of the lexeme. -/
  lexeme : List Char
  /-- The blanks up to the next lexeme or the end. -/
  gap : List Char
  deriving DecidableEq, Repr

namespace Segment

/-- The characters of the segment. -/
def chars (p : Segment) : List Char :=
  p.lexeme ++ p.gap

/-- The token of the segment: the lexeme with its kind. -/
def token (p : Segment) : Token :=
  ⟨lexemeKind p.lexeme, String.ofList p.lexeme⟩

end Segment

/-- The text that segments make up. -/
def joinSegments (ps : List Segment) : List Char :=
  ps.flatMap Segment.chars

@[simp] theorem joinSegments_nil : joinSegments [] = [] := rfl

@[simp] theorem joinSegments_cons (p : Segment) (ps : List Segment) :
    joinSegments (p :: ps) = p.lexeme ++ (p.gap ++ joinSegments ps) := by
  rw [joinSegments, List.flatMap_cons, Segment.chars, List.append_assoc]
  rfl

@[simp] theorem joinSegments_append (ps qs : List Segment) :
    joinSegments (ps ++ qs) = joinSegments ps ++ joinSegments qs :=
  List.flatMap_append

/-- **Every lexeme is the longest at its place.** It starts with no blank, it
is the longest lexeme with which the text from there on begins, and the rest
of its segment is blanks. -/
def Greedy : List Segment → Prop
  | [] => True
  | p :: ps =>
    (∀ c ∈ p.lexeme.head?, isBlank c = false) ∧ IsLongest p.lexeme (joinSegments (p :: ps))
      ∧ (∀ c ∈ p.gap, isBlank c = true) ∧ Greedy ps

/-- **A lexing**: a text cut into blanks, and segments behind them. -/
structure Lexing where
  /-- The blanks before the first lexeme. -/
  lead : List Char
  /-- The lexemes, each with the blanks behind it. -/
  segments : List Segment
  deriving DecidableEq, Repr

namespace Lexing

/-- The tokens of a lexing. -/
def tokens (x : Lexing) : List Token :=
  x.segments.map Segment.token

/-- **The lexing is a maximal-munch lexing of the text.** -/
structure IsOf (x : Lexing) (text : List Char) : Prop where
  /-- Nothing is lost and nothing is added. -/
  join : x.lead ++ joinSegments x.segments = text
  /-- Before the first lexeme are only blanks. -/
  lead_blank : ∀ c ∈ x.lead, isBlank c = true
  /-- Every lexeme is the longest at its place. -/
  greedy : Greedy x.segments

end Lexing

/-! ## Greediness by the next character -/

/-- A lexeme before which a text has no blank begins the text. -/
theorem IsLexeme.head?_append {l : List Char} (h : IsLexeme l) (rest : List Char) :
    (l ++ rest).head? = l.head? := by
  obtain ⟨c, l, rfl⟩ := List.exists_cons_of_ne_nil h.ne_nil
  rfl

/-- Behind a lexeme only the next character counts, and only where there is
no gap. -/
theorem greedy_cons_iff {p : Segment} {ps : List Segment} :
    Greedy (p :: ps)
      ↔ IsLexeme p.lexeme ∧ (∀ c ∈ p.gap, isBlank c = true)
        ∧ (p.gap = [] → ∀ d ∈ (joinSegments ps).head?, ¬ IsLexeme (p.lexeme ++ [d]))
        ∧ Greedy ps := by
  rw [Greedy, joinSegments_cons, isLongest_append_iff]
  constructor
  · rintro ⟨_, ⟨hl, hnext⟩, hgap, hps⟩
    refine ⟨hl, hgap, fun hnil => ?_, hps⟩
    rwa [hnil] at hnext
  · rintro ⟨hl, hgap, hnext, hps⟩
    refine ⟨fun c hc => hl.isBlank_eq_false (List.mem_of_mem_head? hc), ⟨hl, ?_⟩, hgap, hps⟩
    cases hg : p.gap with
    | nil => exact hnext hg
    | cons b bs =>
      -- the next character is a blank, and no lexeme has one
      intro d hd hlonger
      obtain rfl : b = d := by simpa using hd
      have hblank := hgap b (hg ▸ List.mem_cons_self)
      rw [hlonger.isBlank_eq_false (by simp)] at hblank
      cases hblank

/-- A text made up of segments begins with a lexeme, hence with no blank. -/
theorem Greedy.head?_joinSegments {ps : List Segment} (h : Greedy ps) {c : Char}
    (hc : c ∈ (joinSegments ps).head?) : isBlank c = false := by
  cases ps with
  | nil => cases hc
  | cons p ps =>
    have hl := (greedy_cons_iff.1 h).1
    rw [joinSegments_cons, hl.head?_append] at hc
    exact hl.isBlank_eq_false (List.mem_of_mem_head? hc)

/-- Being greedy looks only ahead. -/
theorem Greedy.of_append {ps qs : List Segment} (h : Greedy (ps ++ qs)) : Greedy qs := by
  induction ps with
  | nil => exact h
  | cons p ps ih => exact ih h.2.2.2

/-- **A different continuation.** What follows greedy segments can be exchanged
for greedy segments that begin with the same character. -/
theorem Greedy.append_of_head?_eq {ps qs rs : List Segment}
    (hhead : (joinSegments qs).head? = (joinSegments rs).head?) (h : Greedy (ps ++ qs))
    (hrs : Greedy rs) : Greedy (ps ++ rs) := by
  induction ps with
  | nil => exact hrs
  | cons p ps ih =>
    rw [List.cons_append] at h ⊢
    obtain ⟨hl, hgap, hnext, hps⟩ := greedy_cons_iff.1 h
    refine greedy_cons_iff.2 ⟨hl, hgap, fun hnil => ?_, ih hps⟩
    have hsame : (joinSegments (ps ++ qs)).head? = (joinSegments (ps ++ rs)).head? := by
      rw [joinSegments_append, joinSegments_append, List.head?_append, List.head?_append, hhead]
    rw [← hsame]
    exact hnext hnil

/-! ## Every text has exactly one lexing -/

namespace Lexing

/-- The blanks at the start of a text are what a lexing has before its first
lexeme. -/
theorem IsOf.takeWhile_isBlank {x : Lexing} {text : List Char} (h : x.IsOf text) :
    text.takeWhile isBlank = x.lead := by
  rw [← h.join, List.takeWhile_append_of_pos h.lead_blank]
  cases hjoin : joinSegments x.segments with
  | nil => simp
  | cons c cs =>
    have hc : isBlank c = false := h.greedy.head?_joinSegments (by rw [hjoin]; rfl)
    rw [List.takeWhile_cons_of_neg (by simp [hc]), List.append_nil]

/-- What is left without these blanks are its segments. -/
theorem IsOf.dropBlanks_eq {x : Lexing} {text : List Char} (h : x.IsOf text) :
    dropBlanks text = joinSegments x.segments := by
  have hcut : text.takeWhile isBlank ++ dropBlanks text = text :=
    List.takeWhile_append_dropWhile
  rw [h.takeWhile_isBlank] at hcut
  exact List.append_cancel_left (hcut.trans h.join.symm)

/-- Behind the first lexeme of a lexing stands the lexing of the rest. -/
theorem IsOf.tail {lead : List Char} {p : Segment} {ps : List Segment} {text : List Char}
    (h : IsOf ⟨lead, p :: ps⟩ text) : IsOf ⟨p.gap, ps⟩ (p.gap ++ joinSegments ps) :=
  ⟨rfl, h.greedy.2.2.1, h.greedy.2.2.2⟩

/-- **A text has at most one lexing.** -/
theorem IsOf.unique {x y : Lexing} {text : List Char} (hx : x.IsOf text)
    (hy : y.IsOf text) : x = y := by
  obtain ⟨lead, ps⟩ := x
  induction ps generalizing lead text y with
  | nil =>
    obtain ⟨lead', qs⟩ := y
    have hlead := hx.takeWhile_isBlank.symm.trans hy.takeWhile_isBlank
    have hjoin := hx.dropBlanks_eq.symm.trans hy.dropBlanks_eq
    cases qs with
    | nil => exact congrArg (Lexing.mk · []) hlead
    | cons q qs =>
      rw [joinSegments_nil, joinSegments_cons] at hjoin
      exact absurd (List.append_eq_nil_iff.1 hjoin.symm).1 (greedy_cons_iff.1 hy.greedy).1.ne_nil
  | cons p ps ih =>
    obtain ⟨lead', qs⟩ := y
    have hlead := hx.takeWhile_isBlank.symm.trans hy.takeWhile_isBlank
    have hjoin := hx.dropBlanks_eq.symm.trans hy.dropBlanks_eq
    cases qs with
    | nil =>
      rw [joinSegments_nil, joinSegments_cons] at hjoin
      exact absurd (List.append_eq_nil_iff.1 hjoin).1 (greedy_cons_iff.1 hx.greedy).1.ne_nil
    | cons q qs =>
      -- both first lexemes are the longest of the same text
      have hlongest : IsLongest p.lexeme (joinSegments (q :: qs)) := hjoin ▸ hx.greedy.2.1
      have hlexeme : p.lexeme = q.lexeme := hlongest.unique hy.greedy.2.1
      have hrest : p.gap ++ joinSegments ps = q.gap ++ joinSegments qs := by
        rw [joinSegments_cons, joinSegments_cons, hlexeme] at hjoin
        exact List.append_cancel_left hjoin
      have hsame := ih (hrest ▸ hy.tail) p.gap hx.tail
      obtain ⟨hgap, hps⟩ := Lexing.mk.inj hsame
      obtain ⟨l, g⟩ := p
      obtain ⟨m, k⟩ := q
      obtain rfl : l = m := hlexeme
      obtain rfl : g = k := hgap
      rw [hps]
      exact congrArg (Lexing.mk · _) hlead

/-- **Every text has a lexing**: the one that reading it token by token
makes. -/
theorem exists_isOf (text : List Char) : ∃ x : Lexing, x.IsOf text := by
  induction hn : text.length using Nat.strong_induction_on generalizing text with
  | _ n ih =>
    cases hdrop : dropBlanks text with
    | nil => exact ⟨⟨text, []⟩, List.append_nil text, List.dropWhile_eq_nil_iff.1 hdrop, trivial⟩
    | cons c cs =>
      have hb : isBlank c = false := isBlank_head_dropBlanks hdrop
      have hless : (munch c cs).2.length < n := by
        have hle := length_dropBlanks_le text
        have hcut := munch_length_le c cs
        rw [hdrop, List.length_cons] at hle
        omega
      obtain ⟨x, hx⟩ := ih _ hless _ rfl
      have hjoin : joinSegments (⟨(munch c cs).1.literal.toList, x.lead⟩ :: x.segments)
          = c :: cs := by
        rw [joinSegments_cons, hx.join, munch_append]
      refine ⟨⟨text.takeWhile isBlank, ⟨(munch c cs).1.literal.toList, x.lead⟩ :: x.segments⟩,
        ?_, fun e he => List.mem_takeWhile_imp he, ?_⟩
      · rw [hjoin, ← hdrop]
        exact List.takeWhile_append_dropWhile
      · have hlongest := munch_isLongest hb cs
        refine ⟨fun e he => hlongest.isLexeme.isBlank_eq_false (List.mem_of_mem_head? he), ?_,
          hx.lead_blank, hx.greedy⟩
        rw [hjoin]
        exact hlongest

end Lexing

/-! ## Reading gives the lexing -/

/-- No scannable token is the end of the input. -/
theorem Token.Scannable.isEof_eq_false {t : Token} (h : t.Scannable) : t.isEof = false := by
  rw [Bool.eq_false_iff, Ne, Token.isEof_iff]
  cases h with
  | keyword hk _ =>
    rintro rfl
    cases hk
  | ident _ _ _ => exact Kind.noConfusion
  | int _ _ => exact Kind.noConfusion
  | symbol hk _ =>
    rintro rfl
    obtain hk | hk := hk <;> cases hk
  | illegal _ _ _ _ => exact Kind.noConfusion

/-- The tokens of a lexing are scannable. -/
theorem Greedy.scannable {ps : List Segment} (h : Greedy ps) :
    ∀ t ∈ ps.map Segment.token, t.Scannable := by
  induction ps with
  | nil => simp
  | cons p ps ih =>
    obtain ⟨hl, _, _, hps⟩ := greedy_cons_iff.1 h
    intro t ht
    obtain rfl | ht := List.mem_cons.1 ht
    · exact Token.scannable_of_isLexeme hl
    · exact ih hps t ht

/-- **The first token read is the first segment**, and the rest of the segments is
left. -/
theorem munch_of_greedy {p : Segment} {ps : List Segment} {c : Char} {cs : List Char}
    (h : Greedy (p :: ps)) (hcs : joinSegments (p :: ps) = c :: cs) :
    munch c cs = (p.token, p.gap ++ joinSegments ps) := by
  obtain ⟨hstart, hlongest, _, _⟩ := h
  have hb : isBlank c = false := by
    refine hstart c ?_
    rw [← hlongest.isLexeme.head?_append (p.gap ++ joinSegments ps), ← joinSegments_cons, hcs]
    rfl
  have htext : (munch c cs).1.literal.toList = p.lexeme :=
    (munch_isLongest hb cs).unique (hcs ▸ hlongest)
  refine Prod.ext ?_ ?_
  · have hkind := (munch_scannable hb cs).kind_eq
    rw [htext] at hkind
    show (munch c cs).1 = ⟨lexemeKind p.lexeme, String.ofList p.lexeme⟩
    rw [← hkind, ← htext, String.ofList_toList]
  · have happend := munch_append c cs
    rw [htext, ← hcs, joinSegments_cons] at happend
    exact List.append_cancel_left happend

/-- The tokens of segments, each with its place, where the first segment starts at
index `i`. -/
def locate (i : Nat) : List Segment → List Located
  | [] => []
  | p :: ps => ⟨p.token, i⟩ :: locate (i + p.chars.length) ps

@[simp] theorem map_token_locate (i : Nat) (ps : List Segment) :
    (locate i ps).map Located.token = ps.map Segment.token := by
  induction ps generalizing i with
  | nil => rfl
  | cons p ps ih =>
    rw [locate, List.map_cons, List.map_cons, ih]

namespace Lexer

/-- A step where only blanks are left meets the end of the input. -/
theorem step_of_nil {l : Lexer} (h : dropBlanks l.rest = []) :
    l.step = (⟨.eof, l.position + (l.rest.takeWhile isBlank).length⟩,
      ⟨l.position + (l.rest.takeWhile isBlank).length, [], l.diagnostics⟩) := by
  rw [step, h]

/-- A step where something else is left reads a token. -/
theorem step_of_cons {l : Lexer} {c : Char} {cs : List Char}
    (h : dropBlanks l.rest = c :: cs) :
    l.step = (⟨(munch c cs).1, l.position + (l.rest.takeWhile isBlank).length⟩,
      ⟨l.position + (l.rest.takeWhile isBlank).length + (munch c cs).1.literal.length,
        (munch c cs).2, record l.diagnostics
          ⟨(munch c cs).1, l.position + (l.rest.takeWhile isBlank).length⟩⟩) := by
  rw [step, h]

/-- A step meets the end of the input only where nothing but blanks is left. -/
theorem dropBlanks_rest_of_isEof {l : Lexer} (h : l.step.1.token.isEof = true) :
    dropBlanks l.rest = [] := by
  cases hdrop : dropBlanks l.rest with
  | nil => rfl
  | cons c cs =>
    rw [step_of_cons hdrop] at h
    rw [(munch_scannable (isBlank_head_dropBlanks hdrop) cs).isEof_eq_false] at h
    cases h

/-- The token is always the same. -/
theorem token_step_of_isEof {l : Lexer} (h : l.step.1.token.isEof = true) :
    l.step.1.token = .eof := by
  rw [step_of_nil (dropBlanks_rest_of_isEof h)]

/-- Nothing is left then. -/
theorem rest_step_of_isEof {l : Lexer} (h : l.step.1.token.isEof = true) :
    l.step.2.rest = [] := by
  rw [step_of_nil (dropBlanks_rest_of_isEof h)]

/-- So does reading to the end. -/
theorem rest_drain (l : Lexer) : l.drain.2.rest = [] := by
  induction l using drain.induct with
  | case1 l read hend =>
    rw [drain_of_isEof hend]
    exact rest_step_of_isEof hend
  | case2 l read hnot _ ih =>
    rw [drain_of_not_isEof (Bool.eq_false_iff.2 hnot)]
    exact ih

/-- **Reading to the end gives the lexing**: the lexemes of what is left, with
their kinds and their places. -/
theorem drain_of_isOf {l : Lexer} {x : Lexing} (h : x.IsOf l.rest) :
    l.drain.1 = locate (l.position + x.lead.length) x.segments := by
  obtain ⟨lead, ps⟩ := x
  induction ps generalizing l lead with
  | nil =>
    rw [drain_of_isEof (by rw [step_of_nil h.dropBlanks_eq]; rfl)]
    rfl
  | cons p ps ih =>
    have hl : IsLexeme p.lexeme := (greedy_cons_iff.1 h.greedy).1
    obtain ⟨c, cs, hcs⟩ : ∃ c cs, joinSegments (p :: ps) = c :: cs := by
      rw [joinSegments_cons]
      exact List.exists_cons_of_ne_nil (List.append_ne_nil_of_left_ne_nil hl.ne_nil _)
    have hstep := step_of_cons (h.dropBlanks_eq.trans hcs)
    rw [munch_of_greedy h.greedy hcs, h.takeWhile_isBlank] at hstep
    have hnot : l.step.1.token.isEof = false := by
      rw [hstep]
      exact (Token.scannable_of_isLexeme hl).isEof_eq_false
    have hrest : l.step.2.rest = p.gap ++ joinSegments ps := by rw [hstep]
    have hplace : l.step.2.position + p.gap.length
        = l.position + lead.length + p.chars.length := by
      rw [hstep, Segment.chars, List.length_append, ← Nat.add_assoc]
      simp [Segment.token]
    rw [drain_of_not_isEof hnot, ih p.gap (hrest ▸ h.tail), hplace, hstep]
    rfl

theorem drain_ofText_of_isOf {text : String} {x : Lexing} (h : x.IsOf text.toList) :
    (ofText text).drain.1 = locate x.lead.length x.segments := by
  have hdrain := drain_of_isOf (l := ofText text) h
  rwa [show (ofText text).position = 0 from rfl, Nat.zero_add] at hdrain

/-- The tokens of a text are those of its lexing, and the end of the
input. -/
theorem tokenize_of_isOf {text : String} {x : Lexing} (h : x.IsOf text.toList) :
    tokenize text = x.tokens ++ [Token.eof] := by
  rw [tokenize, collect, drain_ofText_of_isOf h, map_token_locate]
  rfl

/-- Without the end of the input, they are the tokens of its lexing. -/
theorem dropLast_tokenize_of_isOf {text : String} {x : Lexing} (h : x.IsOf text.toList) :
    (tokenize text).dropLast = x.tokens := by
  rw [tokenize_of_isOf h, List.dropLast_concat]

/-- Leaving out the end of the input leaves out nothing else. -/
theorem filter_isEof_tokenize_of_isOf {text : String} {x : Lexing} (h : x.IsOf text.toList) :
    (tokenize text).filter (fun t => !t.isEof) = x.tokens := by
  have hkept : x.tokens.filter (fun t => !t.isEof) = x.tokens := by
    refine List.filter_eq_self.2 (fun t ht => ?_)
    rw [(h.greedy.scannable t ht).isEof_eq_false]
    rfl
  rw [tokenize_of_isOf h, List.filter_append, hkept]
  exact List.append_nil _

/-- **Tokens by maximal munch.** Every text has one and only one cut into
blanks and lexemes, each lexeme the longest at its place; the tokens of the
text are these lexemes with their kinds, in order, and one end of the input
behind them. -/
theorem tokenize_eq_maximalMunch (text : String) :
    ∃ x : Lexing, x.IsOf text.toList ∧ (∀ y : Lexing, y.IsOf text.toList → y = x)
      ∧ tokenize text
        = x.segments.map (fun p => ⟨lexemeKind p.lexeme, String.ofList p.lexeme⟩)
          ++ [⟨.eof, ""⟩] := by
  obtain ⟨x, hx⟩ := Lexing.exists_isOf text.toList
  exact ⟨x, hx, fun y hy => hy.unique hx, tokenize_of_isOf hx⟩

end Lexer

end ScriptLexer

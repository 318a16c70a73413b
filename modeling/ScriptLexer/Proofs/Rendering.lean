import ScriptLexer.Proofs.MaximalMunch

/-!
# Reading back what was written

Tokens are written by putting their texts one behind the other, with blanks
between them where one likes. Not everywhere may the blanks be left out: two
words run into one, and so do two numbers, and an `=` is taken by an open
symbol before it. These pairs **glue** (`Token.Glues`); all others stay apart
with nothing between them, `==` and `=` or an illegal character and anything
among them.

The main statement (`Lexer.tokenize_rendering`) is that nothing else can go
wrong: a rendering with a blank between glued tokens is read back as exactly
the tokens it was made from. The proof does not follow the lexer. A rendering
is a lexing of its own text – the character behind each token's text does not
lengthen it to another lexeme – and a text has only one.
-/

namespace ScriptLexer

/-- A text that is a non-empty run of characters of a class. -/
def IsRun (p : Char → Bool) (s : String) : Prop :=
  s ≠ "" ∧ ∀ c ∈ s.toList, p c = true

/-- **Gluing**: the two tokens do not stay apart if nothing is between them.
Both are words, or both numbers, or the first can be extended by the `=` with
which the second begins. -/
def Token.Glues (t u : Token) : Prop :=
  (IsRun isLetter t.literal ∧ IsRun isLetter u.literal)
    ∨ (IsRun isDigit t.literal ∧ IsRun isDigit u.literal)
    ∨ (t.kind.isOpen = true ∧ u.literal.toList.head? = some '=')

/-- **A rendering**: scannable tokens, blanks before them and blanks behind
each, with something between the glued ones. -/
structure Rendering where
  /-- The blanks before the first token. -/
  lead : String
  /-- The tokens, each with the blanks behind it. -/
  cells : List (Token × String)
  /-- Only blanks come first. -/
  lead_blank : ∀ c ∈ lead.toList, isBlank c = true
  /-- Each token can come out of a text. -/
  scannable : ∀ p ∈ cells, p.1.Scannable
  /-- Only blanks come behind a token. -/
  gap_blank : ∀ p ∈ cells, ∀ c ∈ p.2.toList, isBlank c = true
  /-- Glued tokens have a blank between them. -/
  apart : cells.IsChain (fun p q => p.1.Glues q.1 → p.2 ≠ "")

namespace Rendering

/-- The tokens of a rendering. -/
def tokens (x : Rendering) : List Token :=
  x.cells.map Prod.fst

/-- The text of a rendering. -/
def text (x : Rendering) : String :=
  x.lead ++ String.join (x.cells.map (fun p => p.1.literal ++ p.2))

end Rendering

/-! ## What glues -/

theorem isRun_of_forall {p : Char → Bool} {s : String} (hne : s.toList ≠ [])
    (h : ∀ c ∈ s.toList, p c = true) : IsRun p s :=
  ⟨fun hnil => hne (by rw [hnil]; rfl), h⟩

/-- **Only gluing tokens lengthen each other.** If the first character of a
token makes the text before it a longer lexeme, then the two tokens glue. -/
theorem Token.glues_of_isLexeme {t u : Token} (ht : t.Scannable) (hu : u.Scannable)
    {d : Char} (hd : u.literal.toList.head? = some d)
    (h : IsLexeme (t.literal.toList ++ [d])) : t.Glues u := by
  have hne := ht.isLexeme.ne_nil
  have hmem : d ∈ u.literal.toList := List.mem_of_mem_head? hd
  rw [isLexeme_append_singleton_iff hne] at h
  obtain ⟨hw, hletter⟩ | ⟨hn, hdigit⟩ | ⟨hopen, rfl⟩ := h
  · exact Or.inl ⟨isRun_of_forall hne hw, isRun_of_forall hu.isLexeme.ne_nil
      (hu.isLexeme.run_of_mem (Or.inl rfl) hmem hletter)⟩
  · exact Or.inr (Or.inl ⟨isRun_of_forall hne hn, isRun_of_forall hu.isLexeme.ne_nil
      (hu.isLexeme.run_of_mem (Or.inr rfl) hmem hdigit)⟩)
  · exact Or.inr (Or.inr ⟨ht.isOpen_iff.2 hopen, hd⟩)

/-! ## A rendering is a lexing -/

/-- The segment of a text that a token with the blanks behind it takes. -/
def segmentOf (p : Token × String) : Segment :=
  ⟨p.1.literal.toList, p.2.toList⟩

theorem token_segmentOf {p : Token × String} (h : p.1.Scannable) :
    (segmentOf p).token = p.1 := by
  obtain ⟨⟨kind, literal⟩, gap⟩ := p
  show (⟨lexemeKind literal.toList, String.ofList literal.toList⟩ : Token) = ⟨kind, literal⟩
  rw [← h.kind_eq, String.ofList_toList]

/-- Tokens written with a blank between the glued ones are greedy segments. -/
theorem greedy_map_segmentOf {ps : List (Token × String)}
    (hs : ∀ p ∈ ps, p.1.Scannable) (hb : ∀ p ∈ ps, ∀ c ∈ p.2.toList, isBlank c = true)
    (hapart : ps.IsChain (fun p q => p.1.Glues q.1 → p.2 ≠ "")) :
    Greedy (ps.map segmentOf) := by
  induction ps with
  | nil => trivial
  | cons p ps ih =>
    have hp : p.1.Scannable := hs p List.mem_cons_self
    rw [List.map_cons, greedy_cons_iff]
    refine ⟨hp.isLexeme, hb p List.mem_cons_self, fun hnil => ?_,
      ih (fun q hq => hs q (List.mem_cons_of_mem p hq))
        (fun q hq => hb q (List.mem_cons_of_mem p hq)) hapart.of_cons⟩
    cases ps with
    | nil => exact fun d hd => absurd hd (by simp)
    | cons q ps =>
      have hq : q.1.Scannable := hs q (by simp)
      intro d hd hlonger
      rw [List.map_cons, joinSegments_cons,
        (show IsLexeme (segmentOf q).lexeme from hq.isLexeme).head?_append] at hd
      have hglue : p.1.Glues q.1 := Token.glues_of_isLexeme hp hq hd hlonger
      exact hapart.rel hglue (String.toList_eq_nil_iff.1 hnil)

namespace Rendering

/-- The lexing that a rendering is. -/
def lexing (x : Rendering) : Lexing :=
  ⟨x.lead.toList, x.cells.map segmentOf⟩

theorem lexing_isOf (x : Rendering) : x.lexing.IsOf x.text.toList := by
  refine ⟨?_, x.lead_blank, greedy_map_segmentOf x.scannable x.gap_blank x.apart⟩
  rw [text, String.toList_append, String.toList_join, List.flatMap_map]
  show x.lead.toList ++ joinSegments (x.cells.map segmentOf) = _
  rw [joinSegments, List.flatMap_map]
  refine congrArg (x.lead.toList ++ ·) (List.flatMap_congr (fun p _ => ?_))
  exact (String.toList_append ..).symm

theorem tokens_lexing (x : Rendering) : x.lexing.tokens = x.tokens := by
  show (x.cells.map segmentOf).map Segment.token = x.cells.map Prod.fst
  rw [List.map_map]
  exact List.map_congr_left (fun p hp => token_segmentOf (x.scannable p hp))

end Rendering

/-! ## Reading a rendering back -/

/-- Joining with a separator and an empty text at the end puts the separator
behind every text. -/
theorem intercalate_append_empty (separator : String) (ss : List String) :
    separator.intercalate (ss ++ [""]) = String.join (ss.map (· ++ separator)) := by
  induction ss with
  | nil => simp
  | cons s ss ih =>
    rw [List.cons_append, String.intercalate_cons_of_ne_nil (by simp), ih, List.map_cons,
      String.join_cons]

/-- Scannable tokens, each with a space behind it. -/
def spaced (ts : List Token) (h : ∀ t ∈ ts, t.Scannable) : Rendering where
  lead := ""
  cells := ts.map (fun t => (t, " "))
  lead_blank := by simp
  scannable := by simpa using h
  gap_blank := by
    intro p hp c hc
    obtain ⟨t, _, rfl⟩ := List.mem_map.1 hp
    obtain rfl : c = ' ' := by simpa using hc
    decide
  apart := by
    refine List.Pairwise.isChain (List.pairwise_map.2 (List.pairwise_of_forall ?_))
    intro t u _
    show " " ≠ ""
    decide

/-- It is the text that joining with spaces gives, where a last empty text
puts a space behind the last token, too. -/
theorem text_spaced (ts : List Token) (h : ∀ t ∈ ts, t.Scannable) :
    (spaced ts h).text = " ".intercalate (ts.map Token.literal ++ [""]) := by
  rw [intercalate_append_empty, List.map_map, Rendering.text, spaced, List.map_map,
    String.empty_append]
  rfl

@[simp] theorem tokens_spaced (ts : List Token) (h : ∀ t ∈ ts, t.Scannable) :
    (spaced ts h).tokens = ts := by
  rw [Rendering.tokens, spaced, List.map_map]
  exact List.map_id ts

namespace Lexer

/-- **Reading back.** A rendering is read as the tokens it was made from, and
the end of the input behind them. So the texts of a text's tokens, joined
with spaces, are read as the same tokens again. -/
theorem tokenize_rendering :
    (∀ x : Rendering, tokenize x.text = x.tokens ++ [Token.eof])
      ∧ ∀ text : String,
        tokenize (" ".intercalate ((tokenize text).map Token.literal)) = tokenize text := by
  have hread : ∀ x : Rendering, tokenize x.text = x.tokens ++ [Token.eof] := by
    intro x
    rw [tokenize_of_isOf x.lexing_isOf, x.tokens_lexing]
  refine ⟨hread, fun text => ?_⟩
  obtain ⟨x, hx⟩ := Lexing.exists_isOf text.toList
  have hscannable : ∀ t ∈ x.tokens, t.Scannable := hx.greedy.scannable
  have hspaced := hread (spaced x.tokens hscannable)
  rw [text_spaced, tokens_spaced] at hspaced
  rw [tokenize_of_isOf hx, List.map_append, List.map_singleton]
  exact hspaced

end Lexer

end ScriptLexer

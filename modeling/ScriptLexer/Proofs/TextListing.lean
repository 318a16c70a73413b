import Mathlib.Data.List.Forall2
import ScriptLexer.Proofs.JsonLine
import ScriptLexer.Proofs.MaximalMunch

/-!
# A text listing can be told apart

A text listing is made to be read by people. Nothing in it is escaped: a token is
shown with its text as it stands in the source, and a file is named as the user named
it. All the same, different tokens of scanned files give different listings.

What makes this so is spread over the program. A line feed is a blank, so no token of
a scanned file has one, and the lines of a listing are its pieces at the line feeds as
long as no file name has one either. A heading begins with `=` and the line of a token
with `T`, also if the token's text looks like a heading. And the name of a kind has no
comma, so the first comma of a token's line is where the name ends (`Token.render_injective`).
The lines of a listing are thus known from its text (`ScannedFile.listingLines_eq`), and
the files from the lines, because the tokens of a file end at the next heading
(`ScannedFile.flatMap_block_eq_iff`).

With one file there is no heading, and then its name is not in the listing at all.
-/

namespace ScriptLexer

/-! ## The line of a token -/

theorem Kind.comma_not_mem_name (k : Kind) : ',' ∉ k.name.toList := by
  cases k <;> decide

theorem Kind.oneLine_name (k : Kind) : OneLine k.name := by
  cases k <;> decide

/-- The line of a token, from the end of the name of its kind on. -/
theorem Token.toList_render (t : Token) :
    t.render.toList = "Type: ".toList
      ++ (t.kind.name.toList ++ ',' :: (" Literal: ".toList ++ t.literal.toList)) := by
  rw [render, String.toList_append, String.toList_append, String.toList_append,
    List.append_assoc, List.append_assoc]
  rfl

/-- **A token is told by its line.** -/
theorem Token.render_injective : Function.Injective Token.render := by
  rintro ⟨k, s⟩ ⟨k', s'⟩ h
  have hline := congrArg String.toList h
  rw [toList_render, toList_render] at hline
  have hfields := List.append_cancel_left hline
  -- the first comma ends the name of the kind
  have hpieces := congrArg (List.splitOn ',') hfields
  rw [List.splitOn_append_cons_self_of_not_mem k.comma_not_mem_name,
    List.splitOn_append_cons_self_of_not_mem k'.comma_not_mem_name] at hpieces
  obtain rfl : k = k' := Kind.name_inj.1 (String.toList_injective (List.cons.inj hpieces).1)
  have hrest := List.tail_eq_of_cons_eq (List.append_cancel_left hfields)
  have hliteral : s = s' := String.toList_injective (List.append_cancel_left hrest)
  rw [hliteral]

/-- A token of a text is shown on one line. -/
theorem Token.Scannable.oneLine_render {t : Token} (h : t.Scannable) : OneLine t.render := by
  have hliteral : OneLine t.literal := by
    intro hfeed
    have hblank := h.isLexeme.isBlank_eq_false hfeed
    exact absurd hblank (by decide)
  exact ((OneLine.append (by decide) t.kind.oneLine_name).append (by decide)).append hliteral

namespace ScannedFile

/-! ## The lines of a listing -/

/-- **A line of a text listing.** -/
inductive Line where
  /-- The line that names a file. -/
  | heading (name : String)
  /-- The line that shows a token. -/
  | token (t : Token)

/-- The text of a line, without its line feed. -/
def Line.text : Line → String
  | heading name => "==> " ++ name ++ " <=="
  | token t => t.render

/-- **A line is told by its text.** -/
theorem Line.text_injective : Function.Injective Line.text := by
  have hdiffer : ∀ (name : String) (t : Token), (heading name).text ≠ (token t).text := by
    intro name t h
    have hfirst := congrArg (fun s => s.toList.head?) h
    simp [Line.text, Token.render] at hfirst
  rintro (name | t) (name' | t') h
  · have hname : "==> " ++ name ++ " <==" = "==> " ++ name' ++ " <==" := h
    simp only [String.append_right_inj, String.append_left_inj] at hname
    rw [hname]
  · exact absurd h (hdiffer name t')
  · exact absurd h.symm (hdiffer name' t)
  · exact congrArg token (Token.render_injective h)

/-- The tokens of a file that a listing shows. -/
def shown (f : ScannedFile) : List Token :=
  f.tokens.filter (fun t => !t.isEof)

/-- The lines for a file, with or without a heading. -/
def block (headed : Bool) (f : ScannedFile) : List Line :=
  (if headed then [.heading f.file] else []) ++ f.shown.map .token

/-- **The lines of the text listing** of files. -/
def listingLines (fs : List ScannedFile) : List Line :=
  fs.flatMap (block (decide (fs.length > 1)))

/-- A text listing is the texts of its lines, a line feed behind each. -/
theorem text_textListing (fs : List ScannedFile) :
    (textListing fs).text = String.join (((listingLines fs).map Line.text).map (· ++ "\n")) := by
  have hblock : ∀ f : ScannedFile,
      ((if fs.length > 1 then [f.heading] else []) ++ f.tokenLines).map Piece.text
        = ((block (decide (fs.length > 1)) f).map Line.text).map (· ++ "\n") := by
    intro f
    have htokens : f.tokenLines.map Piece.text
        = ((f.shown.map Line.token).map Line.text).map (· ++ "\n") := by
      rw [tokenLines, List.map_map, List.map_map, List.map_map]
      rfl
    have hheading : f.heading.text = (Line.heading f.file).text ++ "\n" := by
      show "==> " ++ f.file ++ " <==\n" = "==> " ++ f.file ++ " <==" ++ "\n"
      rw [String.append_assoc, String.append_assoc, String.append_assoc]
      rfl
    rw [List.map_append, htokens, block, List.map_append, List.map_append]
    by_cases hmany : fs.length > 1 <;> simp [hmany, hheading]
  rw [Output.text, textListing, listingLines, List.map_flatMap, List.map_flatMap,
    List.map_flatMap]
  exact congrArg String.join (List.flatMap_congr (fun f _ => hblock f))

/-- **A listing tells its lines**, if each of them is one line. -/
theorem listingLines_eq {fs gs : List ScannedFile}
    (hfs : ∀ l ∈ listingLines fs, OneLine l.text) (hgs : ∀ l ∈ listingLines gs, OneLine l.text)
    (h : (textListing fs).text = (textListing gs).text) : listingLines fs = listingLines gs := by
  have hpieces := congrArg (fun s => s.toList.splitOn '\n') h
  simp only [text_textListing] at hpieces
  rw [splitOn_join_lines (List.forall_mem_map.2 hfs),
    splitOn_join_lines (List.forall_mem_map.2 hgs)] at hpieces
  have htexts : (listingLines fs).map Line.text = (listingLines gs).map Line.text :=
    List.map_injective_iff.2 (fun _ _ => String.toList_injective)
      (List.append_cancel_right hpieces)
  exact List.map_injective_iff.2 Line.text_injective htexts

/-! ## Scanned files -/

/-- **The file is what scanning its source gives.** -/
def IsScan (f : ScannedFile) : Prop :=
  f = scan f.file f.source

theorem isScan_scan (file source : String) : (scan file source).IsScan := rfl

/-- **A listing shows the lexing of the source**: every token but the last. -/
theorem IsScan.exists_isOf_shown {f : ScannedFile} (h : f.IsScan) :
    ∃ x : Lexing, x.IsOf f.source.toList ∧ f.shown = x.tokens
      ∧ f.tokens = x.tokens ++ [Token.eof] := by
  have htokens : f.tokens = Lexer.tokenize f.source := by
    rw [h, tokens_scan, source_scan]
  obtain ⟨x, hx⟩ := Lexing.exists_isOf f.source.toList
  refine ⟨x, hx, ?_, ?_⟩
  · rw [shown, htokens, Lexer.filter_isEof_tokenize_of_isOf hx]
  · rw [htokens, Lexer.tokenize_of_isOf hx]

theorem IsScan.tokens_eq_iff {f g : ScannedFile} (hf : f.IsScan) (hg : g.IsScan) :
    f.tokens = g.tokens ↔ f.shown = g.shown := by
  obtain ⟨x, -, hshown, htokens⟩ := hf.exists_isOf_shown
  obtain ⟨y, -, hshown', htokens'⟩ := hg.exists_isOf_shown
  rw [htokens, htokens', hshown, hshown', List.append_left_inj]

/-- And it shows each of them on one line. -/
theorem IsScan.oneLine_render {f : ScannedFile} (h : f.IsScan) :
    ∀ t ∈ f.shown, OneLine t.render := by
  obtain ⟨x, hx, hshown, -⟩ := h.exists_isOf_shown
  rw [hshown]
  exact fun t ht => (hx.greedy.scannable t ht).oneLine_render

/-- Where there are headings, no name of a file may be broken over two lines. -/
theorem oneLine_of_mem_listingLines {fs : List ScannedFile}
    (h : ∀ f ∈ fs, f.IsScan ∧ (fs.length > 1 → OneLine f.file)) :
    ∀ l ∈ listingLines fs, OneLine l.text := by
  intro l hl
  obtain ⟨f, hf, hmem⟩ := List.mem_flatMap.1 hl
  obtain ⟨hscan, hname⟩ := h f hf
  obtain hheading | htoken := List.mem_append.1 hmem
  · by_cases hmany : fs.length > 1
    · obtain rfl : l = .heading f.file := by simpa [hmany] using hheading
      exact (OneLine.append (by decide) (hname hmany)).append (by decide)
    · simp [hmany] at hheading
  · obtain ⟨t, ht, rfl⟩ := List.mem_map.1 htoken
    exact hscan.oneLine_render t ht

/-! ## From the lines to the files -/

/-- The tokens over the next heading can be told. -/
theorem cancel_tokens {ts us : List Token} {ls ms : List Line}
    (hls : ∀ t, .token t ∉ ls.head?) (hms : ∀ t, .token t ∉ ms.head?)
    (h : ts.map .token ++ ls = us.map .token ++ ms) : ts = us ∧ ls = ms := by
  induction ts generalizing us with
  | nil =>
    cases us with
    | nil => exact ⟨rfl, h⟩
    | cons u us =>
      rw [List.map_nil, List.nil_append] at h
      exact absurd (h ▸ rfl) (hls u)
  | cons t ts ih =>
    cases us with
    | nil =>
      rw [List.map_nil, List.nil_append] at h
      exact absurd (h ▸ rfl) (hms t)
    | cons u us =>
      obtain ⟨hfirst, hrest⟩ := List.cons.inj h
      obtain ⟨rfl, rfl⟩ := ih hrest
      exact ⟨congrArg (· :: ts) (Line.token.inj hfirst), rfl⟩

/-- **Under headings, the lines tell the files**, in their names and in their tokens. -/
theorem flatMap_block_eq_iff {fs gs : List ScannedFile} (hfs : ∀ f ∈ fs, f.IsScan)
    (hgs : ∀ g ∈ gs, g.IsScan) :
    fs.flatMap (block true) = gs.flatMap (block true)
      ↔ List.Forall₂ (fun f g => f.file = g.file ∧ f.tokens = g.tokens) fs gs := by
  have hhead : ∀ (hs : List ScannedFile) (t : Token),
      .token t ∉ (hs.flatMap (block true)).head? := by
    intro hs t
    cases hs <;> simp [block]
  induction fs generalizing gs with
  | nil => cases gs <;> simp [block]
  | cons f fs ih =>
    cases gs with
    | nil => simp [block]
    | cons g gs =>
      obtain ⟨hf, hfs⟩ := List.forall_mem_cons.1 hfs
      obtain ⟨hg, hgs⟩ := List.forall_mem_cons.1 hgs
      have hothers : fs.flatMap (block true) = gs.flatMap (block true) ↔ _ := ih hfs hgs
      rw [List.forall₂_cons, ← hothers, hf.tokens_eq_iff hg]
      show Line.heading f.file :: (f.shown.map .token ++ fs.flatMap (block true))
        = Line.heading g.file :: (g.shown.map .token ++ gs.flatMap (block true)) ↔ _
      constructor
      · intro h
        obtain ⟨hname, hlines⟩ := List.cons.inj h
        obtain ⟨hshown, hrest⟩ := cancel_tokens (hhead fs) (hhead gs) hlines
        exact ⟨⟨Line.heading.inj hname, hshown⟩, hrest⟩
      · rintro ⟨⟨hname, hshown⟩, hrest⟩
        rw [hname, hshown, hrest]

/-- Without, they tell the tokens of the one file. -/
theorem listingLines_singleton_eq_iff {f g : ScannedFile} (hf : f.IsScan) (hg : g.IsScan) :
    listingLines [f] = listingLines [g] ↔ f.tokens = g.tokens := by
  have hlines : ∀ h : ScannedFile, listingLines [h] = h.shown.map .token := by
    intro h
    simp [listingLines, block]
  have htoken : Function.Injective Line.token := fun _ _ h => Line.token.inj h
  rw [hlines, hlines, (List.map_injective_iff.2 htoken).eq_iff, hf.tokens_eq_iff hg]

theorem listingLines_of_two_le {fs : List ScannedFile} (h : 2 ≤ fs.length) :
    listingLines fs = fs.flatMap (block true) := by
  have hmany : fs.length > 1 := h
  rw [listingLines, decide_eq_true hmany]

/-! ## From the text to the files -/

/-- The text of a listing is a function of its lines, so one is known from the other. -/
theorem text_textListing_eq_iff {fs gs : List ScannedFile}
    (hfs : ∀ f ∈ fs, f.IsScan ∧ (fs.length > 1 → OneLine f.file))
    (hgs : ∀ g ∈ gs, g.IsScan ∧ (gs.length > 1 → OneLine g.file)) :
    (textListing fs).text = (textListing gs).text ↔ listingLines fs = listingLines gs := by
  constructor
  · exact listingLines_eq (oneLine_of_mem_listingLines hfs) (oneLine_of_mem_listingLines hgs)
  · intro h
    rw [text_textListing, text_textListing, h]

/-- **A text listing of scanned files is unambiguous.** Two listings of several files
each, none of them with a line feed in its name, are equal exactly if they are of equally
many files, which agree one by one in their names and in their tokens. Two listings of
one file each are equal exactly if the files agree in their tokens. -/
theorem textListing_unambiguous :
    (∀ fs gs : List ScannedFile, 2 ≤ fs.length → 2 ≤ gs.length →
        (∀ f ∈ fs, f.IsScan ∧ OneLine f.file) → (∀ g ∈ gs, g.IsScan ∧ OneLine g.file) →
        ((textListing fs).text = (textListing gs).text
          ↔ List.Forall₂ (fun f g => f.file = g.file ∧ f.tokens = g.tokens) fs gs))
      ∧ ∀ f g : ScannedFile, f.IsScan → g.IsScan →
        ((textListing [f]).text = (textListing [g]).text ↔ f.tokens = g.tokens) := by
  constructor
  · intro fs gs hmany hmany' hfs hgs
    have hlines := text_textListing_eq_iff (fun f hf => (hfs f hf).imp_right fun hname _ => hname)
      (fun g hg => (hgs g hg).imp_right fun hname _ => hname)
    rw [hlines, listingLines_of_two_le hmany, listingLines_of_two_le hmany',
      flatMap_block_eq_iff (fun f hf => (hfs f hf).1) (fun g hg => (hgs g hg).1)]
  · intro f g hf hg
    -- there is no heading, so the names do not matter
    have hone : ∀ h : ScannedFile, h.IsScan →
        ∀ k ∈ [h], k.IsScan ∧ ([h].length > 1 → OneLine k.file) := by
      intro h hscan k hk
      rw [List.mem_singleton.1 hk]
      exact ⟨hscan, fun hmany => absurd hmany (by simp)⟩
    rw [text_textListing_eq_iff (hone f hf) (hone g hg), listingLines_singleton_eq_iff hf hg]

/-- Two files, the second of which holds what looks like a heading; and one file under
two names. -/
theorem textListing_unambiguous_like_heading :
    let fs := [scan "a" "x", scan "b" "==> c <=="]
    let gs := [scan "a" "x", scan "c" ""]
    (2 ≤ fs.length ∧ 2 ≤ gs.length ∧ (∀ f ∈ fs, f.IsScan ∧ OneLine f.file)
        ∧ ∀ g ∈ gs, g.IsScan ∧ OneLine g.file)
      ∧ (textListing fs).text ≠ (textListing gs).text
      ∧ (scan "a" "x").IsScan ∧ (scan "b" "x").IsScan
      ∧ (textListing [scan "a" "x"]).text = (textListing [scan "b" "x"]).text := by
  intro fs gs
  have hfs : ∀ f ∈ fs, f.IsScan ∧ OneLine f.file := by
    simp only [fs, List.forall_mem_cons]
    exact ⟨⟨isScan_scan _ _, by decide⟩, ⟨isScan_scan _ _, by decide⟩, by simp⟩
  have hgs : ∀ g ∈ gs, g.IsScan ∧ OneLine g.file := by
    simp only [gs, List.forall_mem_cons]
    exact ⟨⟨isScan_scan _ _, by decide⟩, ⟨isScan_scan _ _, by decide⟩, by simp⟩
  refine ⟨⟨by simp [fs], by simp [gs], hfs, hgs⟩, fun h => ?_, rfl, rfl, ?_⟩
  · have hsame := (textListing_unambiguous.1 fs gs (by simp [fs]) (by simp [gs]) hfs hgs).1 h
    simp [fs, gs] at hsame
  · exact (textListing_unambiguous.2 _ _ (isScan_scan _ _) (isScan_scan _ _)).2 rfl

end ScannedFile

end ScriptLexer

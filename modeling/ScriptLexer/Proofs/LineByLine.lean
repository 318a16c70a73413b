import ScriptLexer.Proofs.Concatenation
import ScriptLexer.Proofs.Transcript

/-!
# Line by line, and as a whole

A session scans every line with a lexer of its own; a file is scanned as one
text. Both see the same tokens. A line that is ended has a blank at its end, so
no lexeme reaches over the seam behind it (`Lexing.IsOf.tokens_append_of_blank`),
and as cutting at the byte of a line feed never goes through a character, the
cut of the bytes is a cut of the text. Induction over the lines puts the tokens
together (`flatMap_lineTokens`).
-/

namespace ScriptLexer

/-- **No lexeme reaches over a blank**: behind a text that ends in one, the tokens
are those of the two texts. -/
theorem Lexing.IsOf.tokens_append_of_blank {x y z : Lexing} {a b : List Char} {c : Char}
    (hx : x.IsOf (a ++ [c])) (hc : isBlank c = true) (hy : y.IsOf b)
    (hz : z.IsOf (a ++ [c] ++ b)) : z.tokens = x.tokens ++ y.tokens := by
  obtain ⟨lead, ps⟩ := x
  obtain rfl | ⟨ps, p, rfl⟩ := List.eq_nil_or_concat' ps
  · rw [hz.unique (hx.append_of_blank hy)]
    rfl
  · refine (hx.tokens_append_iff hy hz).2 ?_
    rintro ⟨hnil, _⟩
    -- the blank would be the last character of a lexeme
    have hlast : p.lexeme.getLast? = some c := by
      rw [← hx.getLast?_of_gap_eq_nil hnil, List.getLast?_concat]
    rw [hx.isLexeme_last.isBlank_eq_false (List.mem_of_getLast? hlast)] at hc
    cases hc

namespace Session

/-! ## The lines of a text -/

theorem lineTokens_of_isOf {cs : List Char} {x : Lexing} (h : x.IsOf cs) :
    lineTokens (encodeChars cs) = x.tokens := by
  have hdecode : decode? (encodeChars cs) = some (String.ofList cs) := by
    rw [decode?_eq_some_iff, encode, String.toList_ofList]
  rw [lineTokens, hdecode, Option.elim_some]
  exact Lexer.filter_isEof_tokenize_of_isOf (String.toList_ofList ▸ h)

theorem lineTokens_nil : lineTokens [] = [] :=
  lineTokens_of_isOf (x := ⟨[], []⟩) ⟨rfl, by simp, trivial⟩

/-- The tokens behind a line feed are those of the text there. -/
theorem lineTokens_append_feed (first others : List Char) :
    lineTokens (encodeChars (first ++ '\n' :: others))
      = lineTokens (encodeChars (first ++ ['\n'])) ++ lineTokens (encodeChars others) := by
  obtain ⟨x, hx⟩ := Lexing.exists_isOf (first ++ ['\n'])
  obtain ⟨y, hy⟩ := Lexing.exists_isOf others
  obtain ⟨z, hz⟩ := Lexing.exists_isOf (first ++ ['\n'] ++ others)
  rw [List.append_cons, lineTokens_of_isOf hx, lineTokens_of_isOf hy, lineTokens_of_isOf hz]
  exact hx.tokens_append_of_blank (by decide) hy hz

/-- **The tokens of a text are the tokens of its lines**, and these are all texts. -/
theorem flatMap_lineTokens {cs : List Char} {lines : List Bytes}
    (h : IsLineCut (encodeChars cs) lines) :
    lines.flatMap lineTokens = lineTokens (encodeChars cs)
      ∧ ∀ line ∈ lines, ∃ ds, line = encodeChars ds := by
  generalize hinput : encodeChars cs = input at h
  induction h generalizing cs with
  | nil => exact ⟨lineTokens_nil.symm, by simp⟩
  | last _ _ => exact ⟨by simp, by simpa using ⟨cs, hinput.symm⟩⟩
  | @feed body _ lines hbody _ ih =>
    obtain ⟨first, others, hcs, hfirst, hothers⟩ := exists_cut_of_encodeChars hinput hbody
    obtain ⟨htokens, htexts⟩ := ih hothers
    have hline : body ++ [10] = encodeChars (first ++ ['\n']) := by
      rw [encodeChars_append, hfirst]
      rfl
    refine ⟨?_, fun line hmem => ?_⟩
    · rw [List.flatMap_cons, htokens, ← hinput, ← hothers, hcs, lineTokens_append_feed, hline]
    · obtain rfl | hmem := List.mem_cons.1 hmem
      · exact ⟨_, hline⟩
      · exact htexts line hmem

/-! ## A session and a file -/

/-- Lines of a text that are not the closing command do not end a session. -/
theorem endsSession_eq_false {line : Bytes} {text : String} (htext : decode? line = some text)
    (hexit : trimBoth text ≠ closingCommand) : endsSession line = false := by
  rw [Bool.eq_false_iff, Ne, endsSession_iff_trimBoth htext]
  exact hexit

/-- A session over such lines shows the tokens of each of them. -/
theorem tokens_run {prompt : String} {input : Bytes} {lines : List Bytes}
    (hcut : cutLines input = lines ++ []) (hlines : ∀ line ∈ lines, endsSession line = false) :
    (run prompt input).tokens = lines.flatMap lineTokens := by
  have hgreet : Act.token? .greet = none := rfl
  rw [run_eq hcut hlines rfl, Record.tokens, List.filterMap_cons_none hgreet,
    List.filterMap_append, List.filterMap_flatMap]
  simp only [filterMap_token?_answer]
  exact List.append_nil _

/-- Without a prompt, the transcript of lines is the lines of their tokens. -/
theorem transcript_empty (lines : List Bytes) :
    transcript "" lines
      = encode welcome
        ++ Output.bytesOf ((lines.flatMap lineTokens).map ScannedFile.tokenLine) := by
  rw [transcript, encode_empty, List.append_nil, Output.bytesOf, List.flatMap_map,
    List.flatMap_assoc]
  rfl

/-- **A session sees what scanning a file sees.** Over a text with no line that
trims to the closing command, the tokens that a session shows, line by line, are
those that the text listing of a file with this text shows; without a prompt, the
session writes the welcome, that listing, and one line break. -/
theorem run_eq_scan {input : Bytes} {text : String} {lines : List Bytes}
    (htext : decode? input = some text) (hcut : IsLineCut input lines)
    (hexit : ∀ line ∈ lines, ∀ t, decode? line = some t → trimBoth t ≠ ".exit")
    (file : String) :
    (∀ prompt, (run prompt input).tokens.map ScannedFile.tokenLine
        = (ScannedFile.textListing [ScannedFile.scan file text]).pieces
      ∧ (run prompt input).ending = none)
      ∧ (run "" input).output.deliver none
        = ⟨encode welcome
            ++ ((ScannedFile.textListing [ScannedFile.scan file text]).deliver none).bytes
            ++ [10], none⟩ := by
  have hinput : input = encodeChars text.toList := decode?_eq_some_iff.1 htext
  obtain ⟨htokens, htexts⟩ := flatMap_lineTokens (hinput ▸ hcut)
  have hbefore : ∀ line ∈ lines, endsSession line = false := by
    intro line hline
    obtain ⟨ds, hds⟩ := htexts line hline
    have hdecode : decode? line = some (String.ofList ds) := by
      rw [decode?_eq_some_iff, encode, String.toList_ofList, hds]
    exact endsSession_eq_false hdecode (hexit line hline _ hdecode)
  have hlisting : (ScannedFile.textListing [ScannedFile.scan file text]).pieces
      = (lines.flatMap lineTokens).map ScannedFile.tokenLine := by
    rw [htokens, ← hinput, lineTokens, htext]
    exact List.append_nil _
  have hlines : cutLines input = lines ++ [] :=
    hcut.eq_cutLines.symm.trans (List.append_nil lines).symm
  refine ⟨fun prompt => ⟨?_, ?_⟩, ?_⟩
  · rw [tokens_run hlines hbefore, hlisting]
  · rw [run_eq hlines hbefore rfl]
  · rw [deliver_run hlines hbefore rfl, transcript_empty, Output.deliver, hlisting]
    rfl

/-- Three lines, an empty one among them, with characters of more than one byte, and
no line feed at the end. -/
theorem run_eq_scan_three_lines :
    (run "" (encode "let ñ¡\n\nx==1")).output.deliver none
      = ⟨encode welcome
          ++ ((ScannedFile.textListing [ScannedFile.scan "f" "let ñ¡\n\nx==1"]).deliver none).bytes
          ++ [10], none⟩ := by
  have hfirst : 10 ∉ encode "let ñ¡" := by decide
  have hcut : IsLineCut (encode "let ñ¡\n\nx==1") (["let ñ¡\n", "\n", "x==1"].map encode) :=
    .feed hfirst (.feed List.not_mem_nil (.last (by decide) (by decide)))
  have hexit : ∀ s ∈ ["let ñ¡\n", "\n", "x==1"], trimBoth s ≠ ".exit" := by decide
  refine (run_eq_scan (decode?_encode _) hcut (fun line hline t ht => ?_) "f").2
  obtain ⟨s, hs, rfl⟩ := List.mem_map.1 hline
  rw [decode?_encode, Option.some_inj] at ht
  exact ht ▸ hexit s hs

end Session

end ScriptLexer

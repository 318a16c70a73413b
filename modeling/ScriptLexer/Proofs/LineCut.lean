import ScriptLexer.Session

/-!
# The lines of an input

A session cuts its input at the byte 10, before it knows whether the input is
text. `IsLineCut` says what the lines of an input are without saying how they
are found: a line feed ends the line it stands in, and the bytes behind the
last line feed are a line if there are any. An input has exactly one such cut,
and it is the one a session makes (`IsLineCut.eq_cutLines`).

Two consequences matter where lines are read one by one. What follows a line
that is ended has no part in the lines up to it (`IsLineCut.replace`); and as
only a line feed has the byte 10 in its encoding, the cut never goes through a
character (`exists_cut_of_encodeChars`).
-/

namespace ScriptLexer

namespace Session

/-- **The lines of an input.** -/
inductive IsLineCut : Bytes → List Bytes → Prop where
  /-- Nothing has no lines. -/
  | nil : IsLineCut [] []
  /-- A last line that is not ended. -/
  | last {line : Bytes} (hne : line ≠ []) (hline : 10 ∉ line) : IsLineCut line [line]
  /-- A line that is ended, and the lines after it. -/
  | feed {body rest : Bytes} {lines : List Bytes} (hbody : 10 ∉ body)
      (hrest : IsLineCut rest lines) : IsLineCut (body ++ 10 :: rest) ((body ++ [10]) :: lines)

/-! ## The cut a session makes -/

theorem cutLines_feed (bs : Bytes) : cutLines (10 :: bs) = [10] :: cutLines bs := by
  rw [cutLines, if_pos rfl]

theorem cutLines_cons {b : UInt8} {bs line : Bytes} {lines : List Bytes} (hb : b ≠ 10)
    (hbs : cutLines bs = line :: lines) : cutLines (b :: bs) = (b :: line) :: lines := by
  rw [cutLines, if_neg hb, hbs]

/-- Bytes without a line feed are one line. -/
theorem cutLines_of_not_mem {line : Bytes} (hne : line ≠ []) (hline : 10 ∉ line) :
    cutLines line = [line] := by
  induction line with
  | nil => exact absurd rfl hne
  | cons b bs ih =>
    have hb : b ≠ 10 := fun h => hline (h ▸ List.mem_cons_self)
    cases bs with
    | nil => rw [cutLines, if_neg hb, cutLines]
    | cons c cs =>
      exact cutLines_cons hb
        (ih (List.cons_ne_nil c cs) (fun h => hline (List.mem_cons_of_mem b h)))

/-- The first line feed ends the first line. -/
theorem cutLines_append_feed {body : Bytes} (hbody : 10 ∉ body) (rest : Bytes) :
    cutLines (body ++ 10 :: rest) = (body ++ [10]) :: cutLines rest := by
  induction body with
  | nil => exact cutLines_feed rest
  | cons b bs ih =>
    have hb : b ≠ 10 := fun h => hbody (h ▸ List.mem_cons_self)
    exact cutLines_cons hb (ih (fun h => hbody (List.mem_cons_of_mem b h)))

/-- **Every input has a cut**, the one a session makes. -/
theorem isLineCut_cutLines (input : Bytes) : IsLineCut input (cutLines input) := by
  by_cases hfeed : 10 ∈ input
  · obtain ⟨body, rest, heq, hbody⟩ := List.eq_append_cons_of_mem hfeed
    rw [heq, cutLines_append_feed hbody]
    have : rest.length < input.length := by
      rw [heq, List.length_append, List.length_cons]
      omega
    exact .feed hbody (isLineCut_cutLines rest)
  · cases input with
    | nil => exact .nil
    | cons b bs =>
      rw [cutLines_of_not_mem (List.cons_ne_nil b bs) hfeed]
      exact .last (List.cons_ne_nil b bs) hfeed
termination_by input.length

/-- **And it has no other.** -/
theorem IsLineCut.eq_cutLines {input : Bytes} {lines : List Bytes}
    (h : IsLineCut input lines) : lines = cutLines input := by
  induction h with
  | nil => rfl
  | last hne hline => rw [cutLines_of_not_mem hne hline]
  | feed hbody _ ih => rw [cutLines_append_feed hbody, ← ih]

/-- **No line is empty**, so an empty one can stand for the end of the input. -/
theorem IsLineCut.ne_nil_of_mem {input : Bytes} {lines : List Bytes} (h : IsLineCut input lines) :
    ∀ line ∈ lines, line ≠ [] := by
  induction h with
  | nil => exact fun _ hmem => absurd hmem List.not_mem_nil
  | last hne _ => exact fun line hmem => List.mem_singleton.1 hmem ▸ hne
  | feed _ _ ih =>
    refine List.forall_mem_cons.2 ⟨?_, ih⟩
    exact List.append_ne_nil_of_right_ne_nil _ (List.cons_ne_nil _ _)

/-! ## What follows a line -/

/-- **What follows a line that is ended may be replaced**, and the lines up to it
stay. -/
theorem IsLineCut.replace {input body rest : Bytes} {lines before after more : List Bytes}
    (h : IsLineCut input lines) (hlines : lines = before ++ (body ++ [10]) :: after)
    (hmore : IsLineCut rest more) :
    IsLineCut ((before ++ [body ++ [10]]).flatten ++ rest)
      (before ++ (body ++ [10]) :: more) := by
  induction h generalizing before with
  | nil => simp at hlines
  | last _ hline =>
    -- the only line would be the ended one
    obtain ⟨rfl, hsingle⟩ := (List.append_eq_singleton_iff.1 hlines.symm).resolve_right (by simp)
    exact absurd ((List.cons.inj hsingle).1 ▸ by simp) hline
  | @feed body' _ _ hbody' _ ih =>
    cases before with
    | nil =>
      have hsame : body' = body := List.append_cancel_right (List.cons.inj hlines).1
      rw [hsame] at hbody'
      have hflat : ([] ++ [body ++ [10]]).flatten ++ rest = body ++ 10 :: rest := by simp
      rw [hflat]
      exact .feed hbody' hmore
    | cons line before =>
      obtain ⟨hline, hlines⟩ := List.cons.inj hlines
      have hflat : ((line :: before) ++ [body ++ [10]]).flatten ++ rest
          = body' ++ 10 :: ((before ++ [body ++ [10]]).flatten ++ rest) := by
        rw [← hline]
        simp
      rw [hflat, ← hline]
      exact .feed hbody' (ih hlines)

/-! ## Cutting a text -/

/-- **The cut never goes through a character**: where the encoding of a text has
its first line feed, the text has its first. -/
theorem exists_cut_of_encodeChars {cs : List Char} {body rest : Bytes}
    (h : encodeChars cs = body ++ 10 :: rest) (hbody : 10 ∉ body) :
    ∃ first others, cs = first ++ '\n' :: others ∧ encodeChars first = body
      ∧ encodeChars others = rest := by
  have hmem : '\n' ∈ cs := by
    rw [← lineFeed_mem_encodeChars_iff, h]
    simp
  obtain ⟨first, others, heq, hfirst⟩ := List.eq_append_cons_of_mem hmem
  have hbytes : encodeChars cs = encodeChars first ++ 10 :: encodeChars others := by
    rw [heq, encodeChars_append, encodeChars_cons]
    rfl
  -- both are the first line of the same bytes
  have hcut : (body ++ [10]) :: cutLines rest
      = (encodeChars first ++ [10]) :: cutLines (encodeChars others) := by
    rw [← cutLines_append_feed hbody, ← h, hbytes,
      cutLines_append_feed ((not_congr lineFeed_mem_encodeChars_iff).2 hfirst)]
  have hsame : body = encodeChars first := List.append_cancel_right (List.cons.inj hcut).1
  rw [hbytes, hsame] at h
  exact ⟨first, others, heq, hsame.symm, (List.cons.inj (List.append_cancel_left h)).2⟩

end Session

end ScriptLexer

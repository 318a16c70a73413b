import ScriptLexer.Proofs.LineCut
import ScriptLexer.Proofs.MaximalMunch

/-!
# What a session writes

A session goes through its lines until one ends it (`endsSession`), and what it
does at a line before that depends on this line alone (`answer`). So a run over
lines of which none ends the session is these answers, one after the other, and
then the run over the lines after them (`runLines_append`); and the line that
ends it is the last that counts, whatever comes behind (`runLines_of_ends`).

From the two follows the whole **transcript** of a session, for each of the
three ways in which it can stop. The prompt is written before it is known
whether there is a line, and hence once more than lines are answered.
-/

namespace ScriptLexer

namespace Session

/-- **Whether a line ends a session**: it is no text, or the closing command with
blanks around it. -/
def endsSession (line : Bytes) : Bool :=
  (decode? line).all (fun text => trimBoth text = closingCommand)

/-- **The tokens of a line** on its own, without the end of the input. -/
def lineTokens (line : Bytes) : List Token :=
  (decode? line).elim [] (fun text => (Lexer.tokenize text).filter (fun t => !t.isEof))

/-- The prompt, and what is done about a line that does not end the session. -/
def answer (prompt : String) (line : Bytes) : List Act :=
  .prompt prompt :: (decode? line).elim [] lineActs

/-- **The transcript of lines**: the welcome, then the prompt and the tokens of each
line, one to a line, and the prompt for the line after them. -/
def transcript (prompt : String) (lines : List Bytes) : Bytes :=
  encode welcome
    ++ lines.flatMap (fun line => encode prompt
      ++ (lineTokens line).flatMap (fun t =>
        encode ("Type: " ++ t.kind.name ++ ", Literal: " ++ t.literal ++ "\n")))
    ++ encode prompt

/-! ## The closing command -/

/-- **A text is the closing command** exactly if it has only blanks around that. -/
theorem trimBoth_eq_closingCommand_iff {text : String} :
    trimBoth text = closingCommand
      ↔ ∃ before after, (∀ c ∈ before, isBlank c = true) ∧ (∀ c ∈ after, isBlank c = true)
        ∧ text.toList = before ++ closingCommand.toList ++ after := by
  rw [trimBoth, ← String.toList_inj, String.toList_ofList]
  constructor
  · intro h
    obtain ⟨before, hbefore, hstart⟩ := exists_eq_append_dropBlanks text.toList
    obtain ⟨after, hafter, hend⟩ := exists_eq_append_dropBlanksRight (dropBlanks text.toList)
    exact ⟨before, after, hbefore, hafter, by rw [List.append_assoc, ← h, ← hend, ← hstart]⟩
  · rintro ⟨before, after, hbefore, hafter, h⟩
    have hcommand : before ++ closingCommand.toList ++ after
        = before ++ '.' :: (['e', 'x', 'i', 't'] ++ after) :=
      List.append_assoc _ _ _
    rw [h, hcommand, dropBlanks_append hbefore (by decide)]
    have hword : '.' :: (['e', 'x', 'i', 't'] ++ after)
        = ['.', 'e', 'x', 'i'] ++ 't' :: after := rfl
    rw [hword, dropBlanksRight_append hafter (by decide)]
    rfl

/-- So a line that ends a session is no text, or is the closing command with blanks
around it. -/
theorem endsSession_iff {line : Bytes} :
    endsSession line = true ↔ decode? line = none
      ∨ ∃ text before after, decode? line = some text ∧ (∀ c ∈ before, isBlank c = true)
        ∧ (∀ c ∈ after, isBlank c = true)
        ∧ text.toList = before ++ closingCommand.toList ++ after := by
  unfold endsSession
  cases decode? line with
  | none => simp
  | some text => simp [trimBoth_eq_closingCommand_iff]

/-! ## One line -/

/-- A line of text ends the session exactly if it is the closing command. -/
theorem endsSession_iff_trimBoth {line : Bytes} {text : String} (h : decode? line = some text) :
    endsSession line = true ↔ trimBoth text = closingCommand := by
  rw [endsSession, h, Option.all_some, decide_eq_true_iff]

/-- A line that does not end the session is a text, and is scanned. -/
theorem respond_of_not_ends {line : Bytes} (h : endsSession line = false) :
    ∃ text, decode? line = some text ∧ respond line = .acts (lineActs text) := by
  cases htext : decode? line with
  | none =>
    rw [endsSession, htext] at h
    cases h
  | some text =>
    have hnot : ¬ trimBoth text = closingCommand := by
      rw [← endsSession_iff_trimBoth htext, h]
      exact Bool.false_ne_true
    refine ⟨text, rfl, ?_⟩
    rw [respond, htext]
    exact if_neg hnot

/-- A line that ends the session is no text, or is the closing command. -/
theorem respond_of_ends {line : Bytes} (h : endsSession line = true) :
    respond line = if decode? line = none then .fail (.stream .invalidText) else .close := by
  cases htext : decode? line with
  | none => rw [respond, htext, if_pos rfl]
  | some text =>
    rw [respond, htext, if_neg (Option.some_ne_none text)]
    exact if_pos ((endsSession_iff_trimBoth htext).1 h)

theorem tokenActs_eq (text : String) :
    tokenActs text = ((Lexer.tokenize text).filter (fun t => !t.isEof)).map .showToken := by
  obtain ⟨x, hx⟩ := Lexing.exists_isOf text.toList
  rw [Lexer.filter_isEof_tokenize_of_isOf hx, ← Lexer.dropLast_tokenize_of_isOf hx,
    Lexer.tokenize, List.dropLast_concat]
  rfl

/-- What is done about a line, for a reading of acts that leaves logging out. -/
theorem filterMap_lineActs {α : Type} (read : Act → Option α) (hlog : ∀ e, read (.log e) = none)
    (text : String) :
    (lineActs text).filterMap read
      = ((Lexer.tokenize text).filter (fun t => !t.isEof)).filterMap (read ∘ .showToken) := by
  have hscan : ((Event.ofScan text).map Act.log).filterMap read = [] := by
    rw [List.filterMap_map]
    exact List.filterMap_eq_nil_iff.2 (fun e _ => hlog e)
  rw [lineActs, List.cons_append, List.filterMap_cons_none (hlog _), List.filterMap_append,
    hscan, List.nil_append, tokenActs_eq, List.filterMap_map]

/-- An answer writes the prompt and the tokens of the line. -/
theorem filterMap_written?_answer (prompt : String) (line : Bytes) :
    (answer prompt line).filterMap Act.written?
      = ⟨.plain, prompt⟩ :: (lineTokens line).map ScannedFile.tokenLine := by
  have hprompt : Act.written? (.prompt prompt) = some ⟨.plain, prompt⟩ := rfl
  rw [answer, lineTokens, List.filterMap_cons_some hprompt]
  cases decode? line with
  | none => rfl
  | some text =>
    rw [Option.elim_some, Option.elim_some, filterMap_lineActs _ (fun _ => rfl)]
    exact congrArg (List.cons _) (congrFun List.filterMap_eq_map _)

/-- It shows the tokens of the line. -/
theorem filterMap_token?_answer (prompt : String) (line : Bytes) :
    (answer prompt line).filterMap Act.token? = lineTokens line := by
  rw [answer, lineTokens, List.filterMap_cons_none rfl]
  cases decode? line with
  | none => rfl
  | some text =>
    rw [Option.elim_some, Option.elim_some, filterMap_lineActs _ (fun _ => rfl)]
    exact List.filterMap_some

/-! ## A run over lines -/

/-- **Lines that do not end the session are answered one by one**, and then the
session goes on. -/
theorem runLines_append (prompt : String) (fault : Option IoFault) {before : List Bytes}
    (hbefore : ∀ line ∈ before, endsSession line = false) (after : List Bytes) :
    runLines prompt fault (before ++ after)
      = { acts := before.flatMap (answer prompt) ++ (runLines prompt fault after).acts
          ending := (runLines prompt fault after).ending } := by
  induction before with
  | nil => rfl
  | cons line before ih =>
    obtain ⟨text, htext, hrespond⟩ := respond_of_not_ends (hbefore line List.mem_cons_self)
    have hmore := ih (fun l hl => hbefore l (List.mem_cons_of_mem line hl))
    rw [List.cons_append, runLines, hrespond]
    simp only [hmore]
    rw [List.flatMap_cons, answer, htext, Option.elim_some, List.append_assoc]

/-- **A line that ends the session is the last that counts.** -/
theorem runLines_of_ends (prompt : String) (fault : Option IoFault) {line : Bytes}
    (h : endsSession line = true) (after : List Bytes) :
    runLines prompt fault (line :: after)
      = { acts := [.prompt prompt]
          ending := if decode? line = none then some (.stream .invalidText) else none } := by
  by_cases hnone : decode? line = none
  · rw [runLines, respond_of_ends h, if_pos hnone, if_pos hnone]
  · rw [runLines, respond_of_ends h, if_neg hnone, if_neg hnone]

/-- An input that just ends is cut into all its lines. -/
theorem run_eq_runLines (prompt : String) (input : Bytes) :
    run prompt input
      = { acts := .greet :: (runLines prompt none (cutLines input)).acts
          ending := (runLines prompt none (cutLines input)).ending } := by
  have hlines : (Input.reader input).lines = cutLines input :=
    List.filter_eq_self.2 (fun _ _ => rfl)
  rw [run, runOn, hlines]
  rfl

/-! ## The transcript -/

/-- The bytes that answers write. -/
theorem bytesOf_flatMap_answer (prompt : String) (lines : List Bytes) :
    Output.bytesOf ((lines.flatMap (answer prompt)).filterMap Act.written?)
      = lines.flatMap (fun line => encode prompt
        ++ (lineTokens line).flatMap (fun t =>
          encode ("Type: " ++ t.kind.name ++ ", Literal: " ++ t.literal ++ "\n"))) := by
  rw [List.filterMap_flatMap, Output.bytesOf, List.flatMap_assoc]
  refine congrArg lines.flatMap (funext fun line => ?_)
  rw [filterMap_written?_answer, List.flatMap_cons, List.flatMap_map]
  rfl

section Stop

variable {prompt : String} {input : Bytes} {before after : List Bytes} {rest : List Act}
  {ending : Option RunError}

/-- **A session that answers some lines**, prompts for another, and then does `rest`
and stops. -/
theorem run_eq (hcut : cutLines input = before ++ after)
    (hbefore : ∀ line ∈ before, endsSession line = false)
    (hafter : runLines prompt none after = { acts := .prompt prompt :: rest, ending := ending }) :
    run prompt input
      = { acts := .greet :: (before.flatMap (answer prompt) ++ .prompt prompt :: rest)
          ending := ending } := by
  rw [run_eq_runLines, hcut, runLines_append prompt none hbefore, hafter]

/-- What it writes. -/
theorem deliver_run (hcut : cutLines input = before ++ after)
    (hbefore : ∀ line ∈ before, endsSession line = false)
    (hafter : runLines prompt none after = { acts := .prompt prompt :: rest, ending := ending }) :
    (run prompt input).output.deliver none
      = ⟨transcript prompt before ++ Output.bytesOf (rest.filterMap Act.written?), ending⟩ := by
  have hgreet : Act.written? .greet = some ⟨.plain, welcome⟩ := rfl
  have hprompt : Act.written? (.prompt prompt) = some ⟨.plain, prompt⟩ := rfl
  have hbytes : Output.bytesOf (run prompt input).output.pieces
      = transcript prompt before ++ Output.bytesOf (rest.filterMap Act.written?) := by
    rw [run_eq hcut hbefore hafter, Record.output, List.filterMap_cons_some hgreet,
      List.filterMap_append, List.filterMap_cons_some hprompt, Output.bytesOf_cons,
      Output.bytesOf_append, bytesOf_flatMap_answer, Output.bytesOf_cons, transcript]
    simp only [List.append_assoc]
  rw [Output.deliver, hbytes, run_eq hcut hbefore hafter]
  rfl

/-- So it is with a line that ends the session: nothing more is written. -/
theorem deliver_run_of_ends {line : Bytes} (hcut : cutLines input = before ++ line :: after)
    (hbefore : ∀ line ∈ before, endsSession line = false) (hline : endsSession line = true) :
    (run prompt input).output.deliver none
      = ⟨transcript prompt before,
        if decode? line = none then some (.stream .invalidText) else none⟩ := by
  rw [deliver_run hcut hbefore (runLines_of_ends prompt none hline after)]
  exact congrArg (Delivery.mk · _) (List.append_nil _)

/-- **Nothing after the line that ends a session matters.** -/
theorem run_congr {input' line : Bytes} {after' : List Bytes}
    (hcut : cutLines input = before ++ line :: after)
    (hcut' : cutLines input' = before ++ line :: after')
    (hbefore : ∀ line ∈ before, endsSession line = false) (hline : endsSession line = true) :
    run prompt input' = run prompt input := by
  rw [run_eq_runLines, run_eq_runLines, hcut, hcut', runLines_append prompt none hbefore,
    runLines_append prompt none hbefore, runLines_of_ends prompt none hline,
    runLines_of_ends prompt none hline]

end Stop

/-- The lines before the first that ends the session do not. -/
theorem endsSession_of_mem_take {lines : List Bytes} :
    ∀ line ∈ lines.take (lines.findIdx endsSession), endsSession line = false := by
  intro line hline
  obtain ⟨i, hi, rfl⟩ := List.mem_take_iff_getElem.1 hline
  exact List.not_of_lt_findIdx (by omega)

/-- The first line that ends the session, with what comes before and after it. -/
theorem eq_take_append_of_findIdx {lines : List Bytes} {line : Bytes}
    (h : lines[lines.findIdx endsSession]? = some line) :
    endsSession line = true
      ∧ lines = lines.take (lines.findIdx endsSession)
        ++ line :: lines.drop (lines.findIdx endsSession + 1) := by
  obtain ⟨hlt, rfl⟩ := List.getElem?_eq_some_iff.1 h
  refine ⟨List.findIdx_getElem, ?_⟩
  rw [← List.drop_eq_getElem_cons hlt, List.take_append_drop]

/-- **The transcript of a session.** Cut the input into lines, of which line `k` is
the first that ends the session, if one does. The session writes the welcome, then
for each line before line `k` the prompt and the tokens of this line, and then the
prompt once more. With the input used up it leaves the line of this prompt; with a
line that is no text it ends in an error; with the closing command it just ends.
Whatever follows line `k` has no part in it. -/
theorem run_transcript (prompt : String) (input : Bytes) :
    ∃ lines, IsLineCut input lines ∧ (∀ other, IsLineCut input other → other = lines)
      ∧ ∃ k, k = lines.findIdx endsSession
        ∧ (k = lines.length → (run prompt input).output.deliver none
            = ⟨transcript prompt lines ++ [10], none⟩)
        ∧ (∀ line, lines[k]? = some line → decode? line = none →
            (run prompt input).output.deliver none
              = ⟨transcript prompt (lines.take k), some (.stream .invalidText)⟩
            ∧ IoFault.invalidText.message = "stream did not contain valid UTF-8")
        ∧ (∀ line text, lines[k]? = some line → decode? line = some text →
            trimBoth text = ".exit"
            ∧ (run prompt input).output.deliver none = ⟨transcript prompt (lines.take k), none⟩)
        ∧ ∀ body, lines[k]? = some (body ++ [10]) → ∀ rest,
            run prompt ((lines.take (k + 1)).flatten ++ rest) = run prompt input := by
  refine ⟨cutLines input, isLineCut_cutLines input, fun other h => h.eq_cutLines, _, rfl, ?_, ?_,
    ?_, ?_⟩
  all_goals generalize hlines : cutLines input = lines
  · intro hk
    have hnone : ∀ line ∈ lines, endsSession line = false := by
      rw [← List.take_length (l := lines), ← hk]
      exact endsSession_of_mem_take
    exact deliver_run (hlines.trans (List.append_nil lines).symm) hnone rfl
  · intro line hk hdecode
    obtain ⟨hline, hcut⟩ := eq_take_append_of_findIdx hk
    refine ⟨?_, rfl⟩
    rw [deliver_run_of_ends (hlines.trans hcut) endsSession_of_mem_take hline, if_pos hdecode]
  · intro line text hk hdecode
    obtain ⟨hline, hcut⟩ := eq_take_append_of_findIdx hk
    have hsome : decode? line ≠ none := hdecode ▸ Option.some_ne_none text
    refine ⟨(endsSession_iff_trimBoth hdecode).1 hline, ?_⟩
    rw [deliver_run_of_ends (hlines.trans hcut) endsSession_of_mem_take hline, if_neg hsome]
  · intro body hk rest
    obtain ⟨hline, hcut⟩ := eq_take_append_of_findIdx hk
    have hmore := (isLineCut_cutLines input).replace (hlines.trans hcut) (isLineCut_cutLines rest)
    have htake : lines.take (lines.findIdx endsSession + 1)
        = lines.take (lines.findIdx endsSession) ++ [body ++ [10]] := by
      rw [List.take_add_one, hk]
      rfl
    rw [htake]
    exact run_congr (hlines.trans hcut) hmore.eq_cutLines.symm endsSession_of_mem_take hline

end Session

end ScriptLexer

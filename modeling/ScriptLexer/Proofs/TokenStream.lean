import ScriptLexer.Proofs.CallHistory
import ScriptLexer.Proofs.MaximalMunch

/-!
# All ways of reading give one stream

The tokens of a text can be pulled out one at a time, so many at a time, or all at
once, in any order of calls. The places at which these calls stop differ: asking for
three tokens stops behind the third, while collecting runs over the blanks at the end
and into the end of the input. This module proves that the tokens do not differ.

Behind it is one fact about a lexer at any place: what each call answers is a function
of the tokens up to the end, which are those of `Lexer.drain` (`Lexer.gives_drain`), and
a call leaves the tokens behind those it has delivered (`Lexer.delivered_append_drain`).
So the tokens delivered by a history, and behind them what is left, are the tokens of
the text (`Lexer.Continues`). The end of the input, once met, is met again at the same
place, because nothing is left there (`Lexer.perform_of_rest_nil`). The diagnostics take
no part in any of this: lexers at the same place read alike (`Lexer.SameCursor`).
-/

namespace ScriptLexer

namespace Lexer

/-! ## Vocabulary -/

/-- **The cursor**: all that a lexer tells about its place. -/
def cursor (l : Lexer) : Nat × Nat × Option Char :=
  (l.position, l.readPosition, l.current?)

/-- Whether a call reads on. The others only look, or take the diagnostics out. -/
def Call.isReading : Call → Bool
  | .nextToken | .next | .take _ | .collect => true
  | .peek | .diagnostics | .takeDiagnostics => false

/-- **A call that met the end of the input**, by its answer. Collecting always does,
and asking for so many tokens does if there are fewer. -/
def MeetsEnd : Call × Reply → Prop
  | (.nextToken, .token t) => t.isEof = true
  | (.next, .token? t) => t = none
  | (.take n, .tokens ts) => ts.length < n
  | (.collect, .tokens _) => True
  | _ => False

/-- **What a lexer gives**: if these are the tokens up to the end, then each call that
reads on answers with as many of them as it is to deliver. -/
structure Gives (l : Lexer) (ts : List Token) : Prop where
  /-- The next token, or the end of the input. -/
  nextToken : (l.perform .nextToken).1 = .token (ts.head?.getD Token.eof)
  /-- The next token, or nothing. -/
  next : (l.perform .next).1 = .token? ts.head?
  /-- As many as are asked for, or all if there are fewer. -/
  take : ∀ n, (l.perform (.take n)).1 = .tokens (ts.take n)
  /-- All of them. -/
  collect : (l.perform .collect).1 = .tokens ts

/-- **The readings of a run**: the answers to the calls that read on, each with the
cursor after it. -/
def readings (l : Lexer) (calls : List Call) : List (Reply × (Nat × Nat × Option Char)) :=
  ((calls.zip (l.run calls)).filter (fun e => e.1.isReading)).map
    (fun e => (e.2.1, e.2.2.cursor))

/-! ## At the end -/

variable {l m : Lexer}

/-- Where nothing is left, a step meets the end of the input and stays. -/
theorem step_of_rest_nil (h : l.rest = []) : l.step = (⟨.eof, l.position⟩, l) := by
  obtain ⟨position, rest, diagnostics⟩ := l
  obtain rfl : rest = [] := h
  rfl

theorem isEof_step_of_rest_nil (h : l.rest = []) : l.step.1.token.isEof = true := by
  rw [step_of_rest_nil h]
  rfl

theorem drain_of_rest_nil (h : l.rest = []) : l.drain = ([], l) := by
  rw [drain_of_isEof (isEof_step_of_rest_nil h), step_of_rest_nil h]

theorem take_of_rest_nil (h : l.rest = []) (n : Nat) : l.take n = ([], l) := by
  cases n with
  | zero => rfl
  | succ n => rw [take_of_isEof (isEof_step_of_rest_nil h), step_of_rest_nil h]

/-- **At the end every call that reads on stays.** -/
theorem perform_of_rest_nil (h : l.rest = []) {c : Call} (hc : c.isReading = true) :
    (l.perform c).2 = l := by
  cases c with
  | nextToken => exact congrArg Prod.snd (step_of_rest_nil h)
  | next => exact congrArg Prod.snd (step_of_rest_nil h)
  | take n => exact congrArg Prod.snd (take_of_rest_nil h n)
  | collect => exact congrArg Prod.snd (drain_of_rest_nil h)
  | peek => cases hc
  | diagnostics => cases hc
  | takeDiagnostics => cases hc

/-! ## What is given, and what is left -/

/-- The next tokens are the first of those up to the end. -/
theorem take_eq_take_drain (n : Nat) (l : Lexer) :
    (l.take n).1 = (l.drain.1.map Located.token).take n := by
  induction n generalizing l with
  | zero => rfl
  | succ n ih =>
    cases hend : l.step.1.token.isEof with
    | true =>
      rw [take_of_isEof hend, drain_of_isEof hend]
      rfl
    | false =>
      rw [take_of_not_isEof hend, drain_of_not_isEof hend, ih]
      rfl

/-- **A lexer gives the tokens up to the end.** -/
theorem gives_drain (l : Lexer) : l.Gives (l.drain.1.map Located.token) where
  nextToken := by
    show Reply.token l.step.1.token = _
    cases hend : l.step.1.token.isEof with
    | true => rw [drain_of_isEof hend, token_step_of_isEof hend]; rfl
    | false => rw [drain_of_not_isEof hend]; rfl
  next := by
    show Reply.token? l.next?.1 = _
    cases hend : l.step.1.token.isEof with
    | true => rw [next?, hend, drain_of_isEof hend]; rfl
    | false => rw [next?, hend, drain_of_not_isEof hend]; rfl
  take n := congrArg Reply.tokens (take_eq_take_drain n l)
  collect := rfl

/-- **Reading on takes the tokens read off those up to the end.** -/
theorem Reads.drain_eq {ts : List Located} (h : Reads l ts m) : l.drain.1 = ts ++ m.drain.1 := by
  induction h with
  | refl l => rfl
  | token hnot _ ih => rw [drain_of_not_isEof hnot, ih]; rfl
  | stop hend => rw [drain_of_isEof hend, drain_of_rest_nil (rest_step_of_isEof hend)]; rfl

/-- A call for more tokens than are left meets the end. -/
theorem rest_take_of_lt {n : Nat} (h : (l.take n).1.length < n) : (l.take n).2.rest = [] := by
  induction n generalizing l with
  | zero => cases h
  | succ n ih =>
    cases hend : l.step.1.token.isEof with
    | true => rw [take_of_isEof hend]; exact rest_step_of_isEof hend
    | false =>
      rw [take_of_not_isEof hend] at h ⊢
      exact ih (Nat.lt_of_succ_lt_succ h)

/-- **Behind a call that meets the end nothing is left.** -/
theorem rest_perform_of_meetsEnd {c : Call} (h : MeetsEnd (c, (l.perform c).1)) :
    (l.perform c).2.rest = [] := by
  cases c with
  | nextToken => exact rest_step_of_isEof h
  | next =>
    have hnone : l.next?.1 = none := h
    rw [next?, ite_eq_left_iff] at hnone
    exact rest_step_of_isEof (by simpa using hnone)
  | take n => exact rest_take_of_lt h
  | collect => exact rest_drain l
  | peek => cases h
  | diagnostics => cases h
  | takeDiagnostics => cases h

/-! ## The same place -/

/-- **Lexers at the same place**, whatever diagnostics they hold. -/
structure SameCursor (l m : Lexer) : Prop where
  /-- As many characters are read. -/
  position : l.position = m.position
  /-- The same characters are left. -/
  rest : l.rest = m.rest

theorem SameCursor.cursor (h : SameCursor l m) : l.cursor = m.cursor := by
  rw [Lexer.cursor, Lexer.cursor, readPosition, readPosition, current?, current?, h.position,
    h.rest]

theorem SameCursor.step (h : SameCursor l m) :
    l.step.1 = m.step.1 ∧ SameCursor l.step.2 m.step.2 := by
  cases hdrop : dropBlanks m.rest with
  | nil =>
    rw [step_of_nil hdrop, step_of_nil (h.rest ▸ hdrop), h.position, h.rest]
    exact ⟨rfl, rfl, rfl⟩
  | cons c cs =>
    rw [step_of_cons hdrop, step_of_cons (h.rest ▸ hdrop), h.position, h.rest]
    exact ⟨rfl, rfl, rfl⟩

theorem SameCursor.take (h : SameCursor l m) (n : Nat) :
    (l.take n).1 = (m.take n).1 ∧ SameCursor (l.take n).2 (m.take n).2 := by
  induction n generalizing l m with
  | zero => exact ⟨rfl, h⟩
  | succ n ih =>
    obtain ⟨htoken, hafter⟩ := h.step
    cases hend : m.step.1.token.isEof with
    | true =>
      rw [take_of_isEof hend, take_of_isEof (htoken ▸ hend)]
      exact ⟨rfl, hafter⟩
    | false =>
      obtain ⟨htokens, hlast⟩ := ih hafter
      rw [take_of_not_isEof hend, take_of_not_isEof (htoken ▸ hend), htoken, htokens]
      exact ⟨rfl, hlast⟩

theorem SameCursor.drain (h : SameCursor l m) :
    l.drain.1 = m.drain.1 ∧ SameCursor l.drain.2 m.drain.2 := by
  induction hn : m.rest.length using Nat.strong_induction_on generalizing l m with
  | _ n ih =>
    obtain ⟨htoken, hafter⟩ := h.step
    cases hend : m.step.1.token.isEof with
    | true =>
      rw [drain_of_isEof hend, drain_of_isEof (htoken ▸ hend)]
      exact ⟨rfl, hafter⟩
    | false =>
      obtain ⟨htokens, hlast⟩ := ih _ (hn ▸ length_rest_step_lt hend) hafter rfl
      rw [drain_of_not_isEof hend, drain_of_not_isEof (htoken ▸ hend), htoken, htokens]
      exact ⟨rfl, hlast⟩

/-- Reading does not look at the diagnostics. -/
theorem SameCursor.perform (h : SameCursor l m) {c : Call} (hc : c.isReading = true) :
    (l.perform c).1 = (m.perform c).1 ∧ SameCursor (l.perform c).2 (m.perform c).2 := by
  cases c with
  | nextToken => exact ⟨congrArg (fun t : Located => Reply.token t.token) h.step.1, h.step.2⟩
  | next =>
    exact ⟨congrArg (fun t : Located => Reply.token? (if t.token.isEof then none else some t.token))
      h.step.1, h.step.2⟩
  | take n => exact ⟨congrArg Reply.tokens (h.take n).1, (h.take n).2⟩
  | collect =>
    exact ⟨congrArg (fun ts : List Located => Reply.tokens (ts.map Located.token)) h.drain.1,
      h.drain.2⟩
  | peek => cases hc
  | diagnostics => cases hc
  | takeDiagnostics => cases hc

/-- Looking does not move. -/
theorem sameCursor_perform (l : Lexer) {c : Call} (hc : c.isReading = false) :
    SameCursor (l.perform c).2 l := by
  cases c with
  | nextToken => cases hc
  | next => cases hc
  | take n => cases hc
  | collect => cases hc
  | peek => exact ⟨rfl, rfl⟩
  | diagnostics => exact ⟨rfl, rfl⟩
  | takeDiagnostics => exact ⟨rfl, rfl⟩

/-- Nor does it deliver anything. -/
theorem delivered_perform_eq_nil (l : Lexer) {c : Call} (hc : c.isReading = false) :
    (l.perform c).1.delivered = [] := by
  cases c with
  | nextToken => cases hc
  | next => cases hc
  | take n => cases hc
  | collect => cases hc
  | peek => rfl
  | diagnostics => rfl
  | takeDiagnostics => rfl

theorem readings_cons (l : Lexer) (c : Call) (calls : List Call) :
    l.readings (c :: calls)
      = (if c.isReading then [((l.perform c).1, (l.perform c).2.cursor)] else [])
        ++ (l.perform c).2.readings calls := by
  cases hc : c.isReading with
  | true => simp [readings, run, hc]
  | false => simp [readings, run, hc]

theorem SameCursor.readings (h : SameCursor l m) (calls : List Call) :
    l.readings calls = m.readings (calls.filter Call.isReading) := by
  induction calls generalizing l m with
  | nil => rfl
  | cons c calls ih =>
    cases hc : c.isReading with
    | true =>
      obtain ⟨hreply, hafter⟩ := h.perform hc
      rw [List.filter_cons_of_pos hc, readings_cons, readings_cons, hreply, hafter.cursor,
        ih hafter]
    | false =>
      have hstay := sameCursor_perform l hc
      have hsame : SameCursor (l.perform c).2 m :=
        ⟨hstay.position.trans h.position, hstay.rest.trans h.rest⟩
      rw [List.filter_cons_of_neg (by simp [hc]), readings_cons, hc, ih hsame]
      rfl

/-- At the end nothing moves any more. -/
theorem sameCursor_perform_of_rest_nil (h : l.rest = []) (c : Call) :
    SameCursor (l.perform c).2 l := by
  cases hc : c.isReading with
  | true =>
    rw [perform_of_rest_nil h hc]
    exact ⟨rfl, rfl⟩
  | false => exact sameCursor_perform l hc

/-! ## All histories -/

/-- What a call has delivered, and behind it what is left, is what was left. -/
theorem delivered_append_drain (l : Lexer) (c : Call) :
    (l.perform c).1.delivered ++ (l.perform c).2.drain.1.map Located.token
      = l.drain.1.map Located.token := by
  by_cases hc : c = .takeDiagnostics
  · rw [hc]
    have hstay : SameCursor (l.perform .takeDiagnostics).2 l := sameCursor_perform l rfl
    exact congrArg (List.map Located.token) hstay.drain.1
  · obtain ⟨ts, hts, hreads⟩ := l.perform_reads hc
    rw [hts, hreads.drain_eq, List.map_append]

/-- **A lexer in the middle of a stream**, of which the past calls have delivered the
beginning. -/
structure Continues (all : List Token) (past : List (Call × Reply)) (l : Lexer) : Prop where
  /-- The tokens delivered, and behind them those left, are the stream. -/
  tokens : past.flatMap (fun e => e.2.delivered) ++ l.drain.1.map Located.token = all
  /-- Once the end of the input is met, no character is left. -/
  ended : (∃ e ∈ past, MeetsEnd e) → l.rest = []

theorem continues_ofText (text : String) :
    Continues (tokenize text).dropLast [] (ofText text) where
  tokens := by rw [tokenize, List.dropLast_concat]; rfl
  ended := by simp

/-- **Every call keeps the stream.** -/
theorem Continues.perform {all : List Token} {past : List (Call × Reply)}
    (h : Continues all past l) (c : Call) :
    Continues all (past ++ [(c, (l.perform c).1)]) (l.perform c).2 where
  tokens := by
    rw [List.flatMap_append, List.flatMap_singleton, List.append_assoc, delivered_append_drain,
      h.tokens]
  ended := by
    rintro ⟨e, he, hmeets⟩
    obtain he | he := List.mem_append.1 he
    · -- an end met before: nothing was left for this call
      have hnil := h.ended ⟨e, he, hmeets⟩
      rw [(sameCursor_perform_of_rest_nil hnil c).rest, hnil]
    · rw [List.mem_singleton.1 he] at hmeets
      exact rest_perform_of_meetsEnd hmeets

/-- The end of the input is what is read if and only if no token is left. -/
theorem perform_eq_eof_iff (l : Lexer) :
    ((l.perform .nextToken).1 = .token .eof ↔ l.drain.1 = [])
      ∧ ((l.perform .next).1 = .token? none ↔ l.drain.1 = []) := by
  have hgives := l.gives_drain
  rw [hgives.nextToken, hgives.next]
  cases hend : l.step.1.token.isEof with
  | true => simp [drain_of_isEof hend]
  | false =>
    have hne : l.step.1.token ≠ .eof := by
      intro heq
      rw [heq] at hend
      cases hend
    simp [drain_of_not_isEof hend, hne]

/-- **All ways of reading give one stream.** Let `l` be the lexer for a text after any
number of calls of a run, so that it answers the next one. The tokens delivered so far
are the first tokens of the text; a call delivers the next ones, as many as it is to
deliver; and the end of the input is met exactly when there is none. Once it is met,
nothing more is given and nothing moves. The calls that only look deliver nothing and
move nothing, so that leaving them out, or putting others in, changes neither what the
others answer nor where these leave the lexer. -/
theorem one_stream (text : String) (calls : List Call) (n : Nat) :
    let history := ((ofText text).run calls).take n
    let past := exchanges calls history
    let l := (ofText text).leftBy history
    let all := (tokenize text).dropLast
    let given := past.flatMap (fun e => e.2.delivered)
    ((ofText text).run calls)[n]? = calls[n]?.map l.perform
      ∧ given <+: all
      ∧ l.Gives (all.drop given.length)
      ∧ ((l.perform .nextToken).1 = .token .eof ↔ given = all)
      ∧ ((l.perform .next).1 = .token? none ↔ given = all)
      ∧ ((∃ e ∈ past, MeetsEnd e) →
        l.Gives [] ∧ ∀ c, (l.perform c).2.cursor = l.cursor)
      ∧ (∀ c, c.isReading = false →
        (l.perform c).1.delivered = [] ∧ (l.perform c).2.cursor = l.cursor)
      ∧ ∀ calls' : List Call, calls'.filter Call.isReading = calls.filter Call.isReading →
        (ofText text).readings calls' = (ofText text).readings calls := by
  intro history past l all given
  have hcall : ∀ past m c, Continues all past m →
      Continues all (past ++ [(c, (m.perform c).1)]) (m.perform c).2 :=
    fun past m c h => h.perform c
  have hinv : Continues all past l := run_invariant hcall [] (continues_ofText text) calls n
  have htokens : given ++ l.drain.1.map Located.token = all := hinv.tokens
  have hleft : all.drop given.length = l.drain.1.map Located.token := by
    rw [← htokens, List.drop_left]
  have hnone : l.drain.1 = [] ↔ given = all := by
    rw [← htokens, List.self_eq_append_right, List.map_eq_nil_iff]
  obtain ⟨hnextToken, hnext⟩ := l.perform_eq_eof_iff
  refine ⟨getElem?_run _ _ _, ⟨_, htokens⟩, hleft ▸ l.gives_drain, hnextToken.trans hnone,
    hnext.trans hnone, fun hmet => ?_, fun c hc => ?_, fun calls' hsame => ?_⟩
  · have hrest := hinv.ended hmet
    have hgives := l.gives_drain
    rw [drain_of_rest_nil hrest] at hgives
    exact ⟨hgives, fun c => (sameCursor_perform_of_rest_nil hrest c).cursor⟩
  · exact ⟨delivered_perform_eq_nil l hc, (sameCursor_perform l hc).cursor⟩
  · have hplace : SameCursor (ofText text) (ofText text) := ⟨rfl, rfl⟩
    rw [hplace.readings calls', hplace.readings calls, hsame]

end Lexer

end ScriptLexer

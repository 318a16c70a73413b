import ScriptLexer.Lexer.History

/-!
# What a history of calls reads

The calls on a lexer that hand out tokens stop in different places – after a
token, at the end of the input, or after so many tokens – but all of them
are steps, one after the other. `Reads` is the one relation behind them: from
a lexer, some steps give these tokens and lead to that lexer. What a step
keeps is thereby kept by every call (`perform_reads`).

Taking the diagnostics out is the only other thing that a call does to a
lexer (`perform_takeDiagnostics`). So a statement about all histories needs a
lexer at the start, what a step keeps, and what taking out keeps; the
induction over the calls is made once, in `run_invariant`.
-/

namespace ScriptLexer

namespace Lexer

/-! ## Steps in a row -/

/-- **Reading on**: some steps from the first lexer lead to the second, and
give these tokens with their places. Meeting the end of the input gives none,
and nothing is read behind it. -/
inductive Reads : Lexer → List Located → Lexer → Prop where
  /-- No step. -/
  | refl (l : Lexer) : Reads l [] l
  /-- A step that gives a token, and more behind it. -/
  | token {l m : Lexer} {ts : List Located} (hnot : l.step.1.token.isEof = false)
      (h : Reads l.step.2 ts m) : Reads l (l.step.1 :: ts) m
  /-- A step that meets the end of the input. -/
  | stop {l : Lexer} (hend : l.step.1.token.isEof = true) : Reads l [] l.step.2

/-- One step gives its token, or meets the end of the input. -/
theorem reads_step (l : Lexer) :
    Reads l (if l.step.1.token.isEof then [] else [l.step.1]) l.step.2 := by
  cases hend : l.step.1.token.isEof with
  | true => exact Reads.stop hend
  | false => exact Reads.token hend (Reads.refl _)

/-- The next tokens are read in steps. -/
theorem exists_reads_take (n : Nat) (l : Lexer) :
    ∃ ts, (l.take n).1 = ts.map Located.token ∧ Reads l ts (l.take n).2 := by
  induction n generalizing l with
  | zero => exact ⟨[], rfl, Reads.refl l⟩
  | succ n ih =>
    cases hend : l.step.1.token.isEof with
    | true =>
      rw [take_of_isEof hend]
      exact ⟨[], rfl, Reads.stop hend⟩
    | false =>
      obtain ⟨ts, hts, hreads⟩ := ih l.step.2
      rw [take_of_not_isEof hend]
      exact ⟨l.step.1 :: ts, congrArg (l.step.1.token :: ·) hts, Reads.token hend hreads⟩

/-- So is everything up to the end of the input. -/
theorem reads_drain (l : Lexer) : Reads l l.drain.1 l.drain.2 := by
  induction l using drain.induct with
  | case1 l read hend =>
    rw [drain_of_isEof hend]
    exact Reads.stop hend
  | case2 l read hnot _ ih =>
    have hend : l.step.1.token.isEof = false := Bool.eq_false_iff.2 hnot
    rw [drain_of_not_isEof hend]
    exact Reads.token hend ih

/-! ## One call -/

/-- **The tokens a call delivers**, the end of the input not counted. -/
def Reply.delivered : Reply → List Token
  | .token t => if t.isEof then [] else [t]
  | .token? t => t.toList
  | .tokens ts => ts
  | .char? _ => []
  | .diagnostics _ => []

/-- **A call reads on.** Every call but the one that takes the diagnostics out
delivers the tokens of some steps, and leaves the lexer that these lead to. -/
theorem perform_reads (l : Lexer) {c : Call} (hc : c ≠ .takeDiagnostics) :
    ∃ ts, (l.perform c).1.delivered = ts.map Located.token ∧ Reads l ts (l.perform c).2 := by
  cases c with
  | nextToken =>
    refine ⟨_, ?_, reads_step l⟩
    rw [apply_ite (List.map Located.token)]
    rfl
  | next =>
    refine ⟨_, ?_, reads_step l⟩
    show l.next?.1.toList = _
    rw [next?, apply_ite Option.toList, apply_ite (List.map Located.token)]
    rfl
  | take n => exact exists_reads_take n l
  | collect => exact ⟨l.drain.1, rfl, reads_drain l⟩
  | peek => exact ⟨[], rfl, Reads.refl l⟩
  | diagnostics => exact ⟨[], rfl, Reads.refl l⟩
  | takeDiagnostics => exact absurd rfl hc

/-- Taking the diagnostics out reads nothing. -/
theorem perform_takeDiagnostics (l : Lexer) :
    l.perform .takeDiagnostics
      = (.diagnostics l.diagnostics, { l with diagnostics := .empty }) := rfl

/-! ## All calls -/

/-- The calls of a history, each with its answer. -/
def exchanges (calls : List Call) (history : List (Reply × Lexer)) : List (Call × Reply) :=
  calls.zip (history.map Prod.fst)

/-- The lexer that a history leaves. -/
def leftBy (l : Lexer) (history : List (Reply × Lexer)) : Lexer :=
  (history.getLast?.map Prod.snd).getD l

theorem leftBy_cons (l : Lexer) (answer : Reply × Lexer) (history : List (Reply × Lexer)) :
    l.leftBy (answer :: history) = answer.2.leftBy history := by
  cases history with
  | nil => rfl
  | cons next history => rw [leftBy, leftBy, List.getLast?_cons_cons]; rfl

/-- **The answer to a call** of a run is that of the lexer left by the calls before
it. -/
theorem getElem?_run (l : Lexer) (calls : List Call) (n : Nat) :
    (l.run calls)[n]? = calls[n]?.map (l.leftBy ((l.run calls).take n)).perform := by
  induction calls generalizing l n with
  | nil => rfl
  | cons c calls ih =>
    cases n with
    | zero => rfl
    | succ n =>
      rw [run, List.getElem?_cons_succ, List.getElem?_cons_succ, List.take_succ_cons,
        leftBy_cons, ih]

/-- **Invariants of histories.** What holds of a lexer before any call, and is
kept by each call with its answer, holds after every number of calls. -/
theorem run_invariant {I : List (Call × Reply) → Lexer → Prop}
    (hcall : ∀ past m c, I past m → I (past ++ [(c, (m.perform c).1)]) (m.perform c).2)
    (past : List (Call × Reply)) {l : Lexer} (hl : I past l) (calls : List Call) (n : Nat) :
    I (past ++ exchanges calls ((l.run calls).take n)) (l.leftBy ((l.run calls).take n)) := by
  induction calls generalizing past l n with
  | nil => simpa [run, exchanges, leftBy] using hl
  | cons c calls ih =>
    cases n with
    | zero => simpa [exchanges, leftBy] using hl
    | succ n =>
      have hrest := ih _ (hcall past l c hl) n
      rw [List.append_assoc] at hrest
      rw [run, List.take_succ_cons, leftBy_cons]
      exact hrest

end Lexer

end ScriptLexer

import ScriptLexer.Lexer.Cursor
import ScriptLexer.Proofs.Place

/-!
# The cursor of a lexer

A cursor keeps two indices and a character it has read in advance in step with its text,
through three loops, the step more that a pair takes, the step behind every token but the
runs, and the end of the text, behind which it does not go. `Cursor.standing` is the
cursor that is in step with a lexer: at its place, with the character there, and ready to
read the next.

A read takes such a cursor to such a cursor (`Cursor.yields_nextToken`), with the token of
the lexer's step, and logs that. In particular no loop goes on for ever, since the cursor
is parked only where there is no character, and no stretch outside the text is asked for.
So calls on a cursor and calls on a lexer are answered alike, and after each of them both
show the same (`Cursor.LooksAs`, `Cursor.yields_run`). What the cursor tells and does can
then be told from the lexer's place in the text.
-/

namespace ScriptLexer

/-! ## Scans that end -/

/-- **A scan yields** a result and a cursor: started at the first cursor it ends, meets no
fault, gives the result and leaves the second. -/
def Scan.Yields {α : Type} (x : Scan α) (c : Cursor) (a : α) (c' : Cursor) : Prop :=
  (x.run c).run = some (.ok (a, c'))

namespace Scan

variable {α β : Type} {x : Scan α} {c c' c'' : Cursor} {a : α}

theorem yields_pure (a : α) (c : Cursor) : Yields (pure a) c a c := rfl

theorem yields_get (c : Cursor) : Yields get c c c := rfl

theorem yields_modify (f : Cursor → Cursor) (c : Cursor) : Yields (modify f) c () (f c) := rfl

/-- One scan behind the other. -/
theorem Yields.bind {f : α → Scan β} {b : β} (hx : x.Yields c a c')
    (hf : (f a).Yields c' b c'') : Yields (x >>= f) c b c'' := by
  unfold Yields at *
  rw [StateT.run_bind, ExceptT.run_bind, hx]
  exact hf

/-- A loop that is gone through once more. -/
theorem Loop.yields_of_inl {σ : Type} {loop : Loop σ α} {s s' : σ}
    (hbody : (loop.body s).Yields c (.inl s') c') (hrest : (loop.run s').Yields c' a c'') :
    (loop.run s).Yields c a c'' := by
  rw [Loop.run]
  exact hbody.bind hrest

/-- A loop that is left. -/
theorem Loop.yields_of_inr {σ : Type} {loop : Loop σ α} {s : σ}
    (hbody : (loop.body s).Yields c (.inr a) c') : (loop.run s).Yields c a c' := by
  rw [Loop.run]
  exact hbody.bind (yields_pure a c')

end Scan

namespace Cursor

open Scan

variable {text : List Char} {i : Nat} {ds : Collection} {log : Array Event} {l : Lexer}

/-! ## Moving -/

/-- **A cursor in step** with its text, at an index. -/
def placed (text : List Char) (i : Nat) (ds : Collection) (log : Array Event) : Cursor where
  text := text.toArray
  position := i
  readPosition := i + 1
  current? := text[i]?
  diagnostics := ds
  log := log

/-- **The cursor of a lexer**: it is in step at the lexer's place. -/
def standing (text : List Char) (l : Lexer) (log : Array Event) : Cursor :=
  placed text l.position l.diagnostics log

theorem ofText_eq (text : String) :
    ofText text = standing text.toList (Lexer.ofText text) #[.createdLexer text.length] := by
  rw [ofText, readChar, if_neg (Nat.not_lt_zero _)]
  simp only [List.getElem?_toArray]
  rfl

/-- Reading a character goes to the next index. -/
theorem readChar_placed (h : i < text.length) :
    (placed text i ds log).readChar = placed text (i + 1) ds log := by
  have hin : ¬ (placed text i ds log).text.size < (placed text i ds log).readPosition :=
    Nat.not_lt.2 h
  rw [readChar, if_neg hin]
  simp only [placed, List.getElem?_toArray]

/-- **At the end the cursor is parked.** -/
theorem readChar_placed_length :
    (placed text text.length ds log).readChar = placed text text.length ds log :=
  if_pos (Nat.lt_succ_self text.length)

/-- A move to the next character. -/
theorem yields_readChar (ds : Collection) (log : Array Event) (h : i < text.length) :
    Yields (modify readChar) (placed text i ds log) () (placed text (i + 1) ds log) := by
  have hmove := yields_modify readChar (placed text i ds log)
  rwa [readChar_placed h] at hmove

theorem lt_length_of_drop {c : Char} {cs : List Char} (h : text.drop i = c :: cs) :
    i < text.length := by
  by_contra hge
  rw [List.drop_eq_nil_of_le (Nat.le_of_not_lt hge)] at h
  cases h

theorem drop_succ_of_drop {c : Char} {cs : List Char} (h : text.drop i = c :: cs) :
    text.drop (i + 1) = cs := by
  rw [← List.tail_drop, h]
  rfl

theorem current?_placed (ds : Collection) (log : Array Event) {c : Char} {cs : List Char}
    (h : text.drop i = c :: cs) :
    (placed text i ds log).current? = some c := by
  show text[i]? = some c
  rw [← List.head?_drop, h]
  rfl

theorem peek?_placed (ds : Collection) (log : Array Event) {c : Char} {cs : List Char}
    (h : text.drop i = c :: cs) :
    (placed text i ds log).peek? = cs.head? := by
  rw [← drop_succ_of_drop h, List.head?_drop]
  exact List.getElem?_toArray

/-- A loop is left at a character that is not of its class, and where there is none. -/
theorem yields_readWhile_of_not {p : Char → Bool} {c : Cursor}
    (h : ¬ c.current?.any p = true) : (readWhile p).Yields c () c := by
  refine Loop.yields_of_inr ((yields_get _).bind ?_)
  rw [if_neg h]
  exact yields_pure _ _

/-- **A loop ends** behind the characters of its class. -/
theorem yields_readWhile (ds : Collection) (log : Array Event) (p : Char → Bool)
    (h : i ≤ text.length) :
    (readWhile p).Yields (placed text i ds log) ()
      (placed text (i + ((text.drop i).takeWhile p).length) ds log) := by
  induction hrest : text.drop i generalizing i with
  | nil =>
    -- the cursor is at the end, and holds no character
    have hnone : (placed text i ds log).current? = none :=
      List.getElem?_eq_none (List.drop_eq_nil_iff.1 hrest)
    refine yields_readWhile_of_not ?_
    rw [hnone]
    exact Bool.false_ne_true
  | cons c cs ih =>
    have hany : (placed text i ds log).current?.any p = p c := by
      rw [current?_placed ds log hrest, Option.any_some]
    cases hp : p c with
    | false =>
      rw [List.takeWhile_cons_of_neg (by simp [hp])]
      refine yields_readWhile_of_not ?_
      rw [hany, hp]
      exact Bool.false_ne_true
    | true =>
      have hlt := lt_length_of_drop hrest
      have hloop := ih hlt (drop_succ_of_drop hrest)
      rw [List.takeWhile_cons_of_pos hp, List.length_cons, Nat.add_comm _ 1, ← Nat.add_assoc]
      refine Loop.yields_of_inl ((yields_get _).bind ?_) hloop
      rw [hany, hp, if_pos rfl]
      exact (yields_readChar ds log hlt).bind (yields_pure _ _)

/-! ## Tokens -/

/-- The characters of a text from one index up to another. -/
def between (text : List Char) (i j : Nat) : List Char :=
  (text.take j).drop i

/-- **A stretch of the text** is there. -/
theorem yields_slice {start stop : Nat} (hle : start ≤ stop) (hstop : stop ≤ text.length) :
    (slice start stop).Yields (placed text i ds log)
      (String.ofList (between text start stop)) (placed text i ds log) := by
  have hslice : ((placed text i ds log).text.extract start stop).toList
      = between text start stop := by
    rw [placed, List.extract_toArray, List.extract_eq_take_drop, between, List.drop_take]
  refine (yields_get _).bind ?_
  rw [if_pos ⟨hle, hstop⟩, hslice]
  exact yields_pure _ _

/-- The stretch that a loop has passed. -/
theorem between_takeWhile (p : Char → Bool) (text : List Char) (i : Nat) :
    between text i (i + ((text.drop i).takeWhile p).length) = (text.drop i).takeWhile p := by
  rw [between, List.drop_take, Nat.add_sub_cancel_left]
  exact (List.prefix_iff_eq_take.1 (List.takeWhile_prefix p)).symm

/-- **A run** is the characters of its class. -/
theorem yields_scanRun (ds : Collection) (log : Array Event) (p : Char → Bool)
    (kindOf : String → Kind) (h : i ≤ text.length) :
    (scanRun p kindOf).Yields (placed text i ds log)
      ⟨kindOf (String.ofList ((text.drop i).takeWhile p)),
        String.ofList ((text.drop i).takeWhile p)⟩
      (placed text (i + ((text.drop i).takeWhile p).length) ds log) := by
  have hstop : i + ((text.drop i).takeWhile p).length ≤ text.length := by
    have hlen := (List.takeWhile_sublist (l := text.drop i) p).length_le
    rw [List.length_drop] at hlen
    omega
  refine (yields_get _).bind ((yields_readWhile ds log p h).bind ((yields_get _).bind ?_))
  refine (yields_slice (Nat.le_add_right _ _) hstop).bind ?_
  rw [between_takeWhile]
  exact yields_pure _ _

/-- **A symbol that an `=` may extend** is read up to its last character. -/
theorem yields_scanOpenSymbol {c : Char} {cs : List Char} {alone extended : Kind}
    (ho : openSymbol? c = some (alone, extended)) (h : text.drop i = c :: cs) :
    ∃ j, j < text.length
      ∧ (scanOpenSymbol c alone extended).Yields (placed text i ds log) (munchSymbol c cs).1
        (placed text j ds log)
      ∧ j + 1 = i + (munchSymbol c cs).1.literal.length := by
  have hpeek := peek?_placed ds log h
  unfold munchSymbol
  rw [ho]
  dsimp only
  split
  · rename_i rest
    have hnext := lt_length_of_drop (drop_succ_of_drop h)
    refine ⟨i + 1, hnext, (yields_get _).bind ?_, by rw [String.length_ofList]; rfl⟩
    rw [if_pos (show (placed text i ds log).peek? = some '=' from hpeek)]
    exact (yields_readChar ds log (lt_length_of_drop h)).bind (yields_pure _ _)
  · rename_i hother
    refine ⟨i, lt_length_of_drop h, (yields_get _).bind ?_, by rw [String.length_ofList]; rfl⟩
    rw [if_neg]
    · rw [String.singleton_eq_ofList]
      exact yields_pure _ _
    · intro heq
      rw [hpeek, List.head?_eq_some_iff] at heq
      obtain ⟨rest, hrest⟩ := heq
      exact hother rest hrest

/-- A token of a kind with a spelling is not recorded. -/
theorem record_of_spelling (ds : Collection) {t : Located} {s : String}
    (h : t.token.kind.spelling? = some s) : Lexer.record ds t = ds := by
  refine if_neg fun hkind => ?_
  rw [hkind] at h
  cases h

/-- **A symbol or an illegal character** is read up to its last character, and
recorded. -/
theorem yields_scanSymbol (ds : Collection) (log : Array Event) {c : Char} {cs : List Char}
    (h : text.drop i = c :: cs) :
    ∃ j, j < text.length
      ∧ (scanSymbol (some c)).Yields (placed text i ds log) (munchSymbol c cs).1
        (placed text j (Lexer.record ds ⟨(munchSymbol c cs).1, i⟩) log)
      ∧ j + 1 = i + (munchSymbol c cs).1.literal.length := by
  have hone : (String.ofList [c]).length = 1 := String.length_ofList
  cases ho : openSymbol? c with
  | some kinds =>
    obtain ⟨alone, extended⟩ := kinds
    obtain ⟨-, ⟨-, halone⟩, -, hextended⟩ := openSymbol?_eq_some ho
    have hscan : scanSymbol (some c) = scanOpenSymbol c alone extended := by
      simp only [scanSymbol, ho]
    have hrecord : Lexer.record ds ⟨(munchSymbol c cs).1, i⟩ = ds := by
      unfold munchSymbol
      rw [ho]
      dsimp only
      split
      · exact record_of_spelling ds hextended
      · exact record_of_spelling ds halone
    rw [hscan, hrecord]
    exact yields_scanOpenSymbol ho h
  | none =>
    cases hk : loneSymbol? c with
    | some kind =>
      have hscan : scanSymbol (some c) = pure ⟨kind, String.ofList [c]⟩ := by
        simp only [scanSymbol, ho, hk, String.singleton_eq_ofList]
      have hmunch : munchSymbol c cs = (⟨kind, String.ofList [c]⟩, cs) := by
        simp only [munchSymbol, ho, hk]
      rw [hscan, hmunch, record_of_spelling ds (loneSymbol?_eq_some hk).2.2, hone]
      exact ⟨i, lt_length_of_drop h, yields_pure _ _, rfl⟩
    | none =>
      have hscan : scanSymbol (some c) = scanIllegal c := by
        simp only [scanSymbol, ho, hk]
      have hmunch : munchSymbol c cs = (⟨.illegal, String.singleton c⟩, cs) := by
        simp only [munchSymbol, ho, hk, String.singleton_eq_ofList]
      rw [hscan, hmunch, Lexer.record, if_pos rfl, String.length_singleton]
      exact ⟨i, lt_length_of_drop h, (yields_modify _ _).bind (yields_pure _ _), rfl⟩

/-- A word is not recorded. -/
theorem kind_wordToken_ne (word : List Char) : (wordToken word).kind ≠ .illegal := by
  show (Kind.ofKeyword? (String.ofList word)).getD .ident ≠ .illegal
  cases hk : Kind.ofKeyword? (String.ofList word) with
  | none => exact Kind.noConfusion
  | some k =>
    rintro rfl
    cases (Kind.of_ofKeyword? hk).1

/-- **At the end there is no token**, and the cursor stays parked. -/
theorem yields_scanToken_length :
    scanToken.Yields (placed text text.length ds log) Token.eof
      (placed text text.length ds log) := by
  have hcurrent : (placed text text.length ds log).current? = none :=
    List.getElem?_eq_none (Nat.le_refl _)
  have hpark := yields_modify readChar (placed text text.length ds log)
  rw [readChar_placed_length] at hpark
  refine (yields_get _).bind ?_
  rw [hcurrent, Option.any_none, if_neg Bool.false_ne_true, Option.any_none,
    if_neg Bool.false_ne_true]
  exact (yields_pure _ _).bind (hpark.bind (yields_pure _ _))

/-- **The token at a character** is the one that begins with it, and the cursor is left
behind it. -/
theorem yields_scanToken {c : Char} {cs : List Char} (h : text.drop i = c :: cs) :
    scanToken.Yields (placed text i ds log) (munch c cs).1
      (placed text (i + (munch c cs).1.literal.length) (Lexer.record ds ⟨(munch c cs).1, i⟩)
        log) := by
  have hlt := lt_length_of_drop h
  have hrun : ∀ (p : Char → Bool) (kindOf : String → Kind), p c = true →
      (scanRun p kindOf).Yields (placed text i ds log)
        ⟨kindOf (String.ofList (c :: cs.takeWhile p)), String.ofList (c :: cs.takeWhile p)⟩
        (placed text (i + (String.ofList (c :: cs.takeWhile p)).length) ds log) := by
    intro p kindOf hp
    have hscan := yields_scanRun ds log p kindOf (Nat.le_of_lt hlt)
    rwa [h, List.takeWhile_cons_of_pos hp, ← String.length_ofList] at hscan
  refine (yields_get _).bind ?_
  rw [current?_placed ds log h, Option.any_some, Option.any_some]
  cases hl : isLetter c with
  | true =>
    have hmunch : munch c cs = (wordToken (c :: cs.takeWhile isLetter), cs.dropWhile isLetter) := by
      rw [munch, if_pos hl]
    rw [hmunch, Lexer.record, if_neg (kind_wordToken_ne _)]
    exact hrun isLetter _ hl
  | false =>
    have hl' : ¬ isLetter c = true := by simp [hl]
    cases hd : isDigit c with
    | true =>
      have hmunch : munch c cs
          = (⟨.int, String.ofList (c :: cs.takeWhile isDigit)⟩, cs.dropWhile isDigit) := by
        rw [munch, if_neg hl', if_pos hd]
      have hrecord : Lexer.record ds ⟨⟨.int, String.ofList (c :: cs.takeWhile isDigit)⟩, i⟩ = ds :=
        if_neg Kind.noConfusion
      rw [hmunch, hrecord]
      exact hrun isDigit _ hd
    | false =>
      have hmunch : munch c cs = munchSymbol c cs := by
        rw [munch, if_neg hl', if_neg (by simp [hd])]
      obtain ⟨j, hj, hsymbol, hstop⟩ := yields_scanSymbol ds log h
      have hmove := yields_readChar (Lexer.record ds ⟨(munchSymbol c cs).1, i⟩) log hj
      rw [hstop] at hmove
      rw [hmunch]
      exact hsymbol.bind (hmove.bind (yields_pure _ _))

/-- An event handed to the log leaves the cursor where it is. -/
theorem yields_note (ds : Collection) (e : Event) :
    (note e).Yields (placed text i ds log) () (placed text i ds (log.push e)) :=
  yields_modify _ _

/-- **A read is a step.** A cursor in step with a lexer reads the token of the lexer's
step, hands it to the log with its place, and is in step with the lexer after it. -/
theorem yields_nextToken (h : Lexer.StandsIn text l) (log : Array Event) :
    nextToken.Yields (standing text l log) l.step.1.token
      (standing text l.step.2 (log.push (.scannedToken l.step.1))) := by
  have hskip := yields_readWhile l.diagnostics log isBlank h.position_le
  rw [← h.rest] at hskip
  have hbehind : text.drop (l.position + (l.rest.takeWhile isBlank).length)
      = dropBlanks l.rest := by
    have hcut : l.rest.takeWhile isBlank ++ dropBlanks l.rest = l.rest :=
      List.takeWhile_append_dropWhile
    have hdrop := congrArg (List.drop (l.rest.takeWhile isBlank).length) hcut
    rw [List.drop_left] at hdrop
    rw [← List.drop_drop, ← h.rest, hdrop]
  refine hskip.bind ((yields_get _).bind ?_)
  cases hdrop : dropBlanks l.rest with
  | nil =>
    have hlen := h.step.position_le
    rw [Lexer.step_of_nil hdrop] at hlen ⊢
    rw [hdrop] at hbehind
    generalize l.position + (l.rest.takeWhile isBlank).length = i at *
    obtain rfl : i = text.length := Nat.le_antisymm hlen (List.drop_eq_nil_iff.1 hbehind)
    exact yields_scanToken_length.bind ((yields_note _ _).bind (yields_pure _ _))
  | cons c cs =>
    rw [Lexer.step_of_cons hdrop]
    exact (yields_scanToken (hbehind.trans hdrop)).bind
      ((yields_note _ _).bind (yields_pure _ _))

/-- **The next token, or none**, is that of the lexer. -/
theorem yields_next? (h : Lexer.StandsIn text l) (log : Array Event) :
    next?.Yields (standing text l log) l.next?.1
      (standing text l.next?.2 (log.push (.scannedToken l.step.1))) :=
  (yields_nextToken h log).bind (yields_pure _ _)

/-! ## Looking -/

/-- **A cursor shows what a lexer shows** of its place. In particular the index it keeps of
the next character is the one that the lexer tells from its own. -/
structure LooksAs (c : Cursor) (l : Lexer) : Prop where
  /-- The index of the current character. -/
  position : c.position = l.position
  /-- The index of the next. -/
  readPosition : c.readPosition = l.readPosition
  /-- The current character. -/
  current : c.current? = l.current?
  /-- The character after it. -/
  peek : c.peek? = l.peek?
  /-- Whether there is no more. -/
  isExhausted : c.isExhausted = l.isExhausted
  /-- The diagnostics. -/
  diagnostics : c.diagnostics = l.diagnostics

theorem looksAs_standing (h : Lexer.StandsIn text l) (log : Array Event) :
    LooksAs (standing text l log) l := by
  have hcurrent : text[l.position]? = l.current? := by
    rw [Lexer.current?, h.rest, List.head?_drop]
  exact {
    position := rfl
    readPosition := rfl
    current := hcurrent
    peek := by
      rw [Lexer.peek?, h.rest, List.tail_drop, List.head?_drop]
      exact List.getElem?_toArray
    isExhausted := by
      refine (congrArg Option.isNone hcurrent).trans ?_
      rw [Lexer.current?, Lexer.isExhausted]
      cases l.rest <;> rfl
    diagnostics := rfl }

/-! ## Calls -/

/-- **Some tokens** are those of the lexer. -/
theorem yields_take (n : Nat) (h : Lexer.StandsIn text l) (log : Array Event) :
    ∃ log', (take n).Yields (standing text l log) (l.take n).1
      (standing text (l.take n).2 log') := by
  induction n generalizing l log with
  | zero => exact ⟨log, yields_pure _ _⟩
  | succ n ih =>
    have hnext := yields_next? h log
    cases hend : l.step.1.token.isEof with
    | true =>
      rw [Lexer.next?, hend] at hnext
      rw [Lexer.take_of_isEof hend]
      exact ⟨_, hnext.bind (yields_pure _ _)⟩
    | false =>
      rw [Lexer.next?, hend] at hnext
      obtain ⟨log', hmore⟩ := ih h.step (log.push (.scannedToken l.step.1))
      rw [Lexer.take_of_not_isEof hend]
      exact ⟨log', hnext.bind (hmore.bind (yields_pure _ _))⟩

/-- The events of reading to the end: of every token, and of the end. -/
def drainEvents (l : Lexer) : List Event :=
  l.drain.1.map .scannedToken ++ [.scannedToken ⟨.eof, l.drain.2.position⟩]

theorem drainEvents_of_isEof (h : l.step.1.token.isEof = true) :
    drainEvents l = [.scannedToken l.step.1] := by
  have hlast : l.step.1 = ⟨.eof, l.step.2.position⟩ := by
    rw [Lexer.step_of_nil (Lexer.dropBlanks_rest_of_isEof h)]
  rw [hlast, drainEvents, Lexer.drain_of_isEof h]
  rfl

theorem drainEvents_of_not_isEof (h : l.step.1.token.isEof = false) :
    drainEvents l = .scannedToken l.step.1 :: drainEvents l.step.2 := by
  rw [drainEvents, Lexer.drain_of_not_isEof h]
  rfl

/-- **Collecting on** gives the tokens of the lexer behind those read before. -/
theorem yields_collecting (read : List Token) (h : Lexer.StandsIn text l) (log : Array Event) :
    (collecting.run read).Yields (standing text l log) (read.reverse ++ l.collect.1)
      (standing text l.collect.2 (log ++ (drainEvents l).toArray)) := by
  induction l using Lexer.drain.induct generalizing read log with
  | case1 l step hend =>
    have hnext := yields_next? h log
    rw [Lexer.next?, if_pos hend] at hnext
    rw [Lexer.collect, Lexer.drain_of_isEof hend, drainEvents_of_isEof hend, List.map_nil,
      List.append_nil, ← Array.push_eq_append]
    exact Loop.yields_of_inr (hnext.bind (yields_pure _ _))
  | case2 l step hnot _ ih =>
    have hend : l.step.1.token.isEof = false := Bool.eq_false_iff.2 hnot
    have hnext := yields_next? h log
    rw [Lexer.next?, if_neg hnot] at hnext
    have hmore := ih (l.step.1.token :: read) h.step (log.push (.scannedToken l.step.1))
    rw [List.reverse_cons, List.append_assoc, Lexer.collect, Array.push_eq_append,
      Array.append_assoc] at hmore
    rw [Lexer.collect, Lexer.drain_of_not_isEof hend, drainEvents_of_not_isEof hend,
      List.toArray_cons]
    exact Loop.yields_of_inl (hnext.bind (yields_pure _ _)) hmore

/-- **All tokens** are those of the lexer, and each is handed to the log, and the end of
the input once. -/
theorem yields_collect (h : Lexer.StandsIn text l) (log : Array Event) :
    collect.Yields (standing text l log) l.collect.1
      (standing text l.collect.2 (log ++ (drainEvents l).toArray)) :=
  yields_collecting [] h log

/-- **All tokens of a text**, with the events of a scan. -/
theorem yields_tokenize (text : String) :
    tokenize.Yields (ofText text) (Lexer.tokenize text)
      (standing text.toList (Lexer.ofText text).collect.2 (Event.ofScan text).toArray) := by
  have hcollect := yields_collect (Lexer.standsIn_ofText text) #[.createdLexer text.length]
  have hlog : #[.createdLexer text.length] ++ (drainEvents (Lexer.ofText text)).toArray
      = (Event.ofScan text).toArray := by
    rw [← List.toArray_cons, drainEvents, ← List.cons_append]
    rfl
  rw [ofText_eq, ← hlog]
  exact hcollect.bind (yields_pure _ _)

/-- **A call is answered as the lexer answers it.** -/
theorem yields_perform (h : Lexer.StandsIn text l) (call : Lexer.Call) (log : Array Event) :
    ∃ log', (perform call).Yields (standing text l log) (l.perform call).1
      (standing text (l.perform call).2 log') := by
  cases call with
  | nextToken => exact ⟨_, (yields_nextToken h log).bind (yields_pure _ _)⟩
  | next => exact ⟨_, (yields_next? h log).bind (yields_pure _ _)⟩
  | take n =>
    obtain ⟨log', htake⟩ := yields_take n h log
    exact ⟨log', htake.bind (yields_pure _ _)⟩
  | collect => exact ⟨_, (yields_collect h log).bind (yields_pure _ _)⟩
  | peek =>
    refine ⟨log, (yields_get _).bind ?_⟩
    rw [(looksAs_standing h log).peek]
    exact yields_pure _ _
  | diagnostics => exact ⟨log, (yields_get _).bind (yields_pure _ _)⟩
  | takeDiagnostics =>
    exact ⟨log, (yields_get _).bind ((yields_modify _ _).bind (yields_pure _ _))⟩

/-- **A cursor answers as a lexer does**, and is then in step with it and shows the same. -/
structure AnswersAs (text : List Char) (answer : Lexer.Reply × Cursor)
    (expected : Lexer.Reply × Lexer) : Prop where
  /-- The answer is the same. -/
  reply : answer.1 = expected.1
  /-- The cursor is in step. -/
  inStep : ∃ log, answer.2 = standing text expected.2 log
  /-- It shows what the lexer shows. -/
  looks : answer.2.LooksAs expected.2

/-- **Calls on a cursor and calls on a lexer are answered alike**, and after each of them
the two are in step. -/
theorem yields_run (h : Lexer.StandsIn text l) (calls : List Lexer.Call) (log : Array Event) :
    ∃ history log', (run calls).Yields (standing text l log) history
        (standing text (l.leftBy (l.run calls)) log')
      ∧ List.Forall₂ (AnswersAs text) history (l.run calls) := by
  induction calls generalizing l log with
  | nil => exact ⟨[], log, yields_pure _ _, .nil⟩
  | cons call calls ih =>
    obtain ⟨log', hcall⟩ := yields_perform h call log
    obtain ⟨history, log'', hmore, hanswers⟩ := ih (h.perform call) log'
    rw [Lexer.run, Lexer.leftBy_cons]
    refine ⟨_, log'', hcall.bind ((yields_get _).bind (hmore.bind (yields_pure _ _))), ?_⟩
    exact .cons ⟨rfl, ⟨log', rfl⟩, looksAs_standing (h.perform call) log'⟩ hanswers

/-- Histories that agree at each call have the same answers. -/
theorem map_fst_of_forall₂ {history : List (Lexer.Reply × Cursor)}
    {expected : List (Lexer.Reply × Lexer)}
    (h : List.Forall₂ (AnswersAs text) history expected) :
    history.map Prod.fst = expected.map Prod.fst := by
  induction h with
  | nil => rfl
  | cons hanswer _ ih => exact congrArg₂ List.cons hanswer.reply ih

end Cursor

end ScriptLexer

import ScriptLexer.Execution
import ScriptLexer.Proofs.LineCut
import ScriptLexer.Proofs.Printing

/-!
# What an execution comes to

A run of the program is given twice: `Program.runOptions` says what it comes to (an exit
code and two texts), and `Program.execute` is the program itself, which reads, prints and
complains step by step over whatever it runs on. Here the second is shown to come to the
first, on a desk that keeps what is written (`Desk.result_execute`).

The desk's monad has the input under the errors, and writing does not touch the input. So a
computation is looked at *alone* (`Desk.alone`): only what it does on the desk is kept, and
a turn of a session with its line read away is an equation between such computations
(`alone_turn_cons`, `alone_turn_nil`). By induction over the lines, holding a session is
replaying its record (`alone_hold`), whatever the room of the output; what a replay leaves
on the desk is told by `run_replay`, and what the listing of a run over files leaves there
by `run_executeFiles_of_ok`, both from what a writer takes (`Writer.forM_put`).
-/

namespace ScriptLexer

namespace Session.Record

variable {m : Type → Type} [Monad m]

/-- **Doing what a session did**: its acts, one by one, and its error. -/
def replay (act : Act → ExceptT RunError m Unit) (r : Record) : ExceptT RunError m Unit := do
  forM r.acts act
  forM r.ending throw

variable [LawfulMonad m] (act : Act → ExceptT RunError m Unit) (as bs : List Act)
  (ending : Option RunError)

theorem replay_nil : replay act ⟨[], ending⟩ = forM ending throw := by
  rw [replay, List.forM_nil, pure_bind]

theorem replay_append :
    replay act ⟨as ++ bs, ending⟩ = forM as act >>= fun _ => replay act ⟨bs, ending⟩ := by
  rw [replay, List.forM_append, bind_assoc]
  rfl

theorem replay_cons (a : Act) :
    replay act ⟨a :: as, ending⟩ = act a >>= fun _ => replay act ⟨as, ending⟩ := by
  rw [replay, List.forM_cons, bind_assoc]
  rfl

end Session.Record

namespace Program

namespace Desk

open Session

/-! ## Reading apart from writing -/

/-- **A computation over an input**, of which only what it does on the desk is seen. -/
def alone {α : Type} (x : ExceptT RunError (StateT Reader (StateM Desk)) α) (reader : Reader) :
    ExceptT RunError (StateM Desk) α :=
  ExceptT.mk (x.run.run' reader)

/-- A computation on the desk that leaves the input as it is. -/
def lift {α : Type} (x : ExceptT RunError (StateM Desk) α) :
    ExceptT RunError (StateT Reader (StateM Desk)) α :=
  ExceptT.mk (StateT.lift x.run)

variable {α β : Type} {reader : Reader}

/-- What is lifted runs on the desk and hands the input on. -/
theorem run_lift {x : ExceptT RunError (StateM Desk) α} {d d' : Desk} {done : Except RunError α}
    (h : x.run.run d = (done, d')) : ((lift x).run.run reader).run d = ((done, reader), d') := by
  show (x.run >>= fun a => pure (a, reader)).run d = _
  rw [StateT.run_bind, h]
  rfl

/-- Seen alone, a lifted computation is the computation. -/
theorem alone_lift_bind (x : ExceptT RunError (StateM Desk) α)
    (f : α → ExceptT RunError (StateT Reader (StateM Desk)) β) :
    alone (lift x >>= f) reader = x >>= fun a => alone (f a) reader := by
  funext d
  rcases h : x.run.run d with ⟨done, d'⟩
  have hrun : alone (lift x >>= f) reader d
      = Prod.map Prod.fst id (((lift x >>= f).run.run reader).run d) := rfl
  rw [hrun, ExceptT.run_bind, StateT.run_bind, StateT.run_bind, run_lift h]
  cases done with
  | error e => exact (run_bind_of_error h).symm
  | ok a =>
    refine Eq.trans ?_ (run_bind_of_ok h).symm
    rfl

/-- Acting on the desk for each of a list before going on. -/
theorem alone_forM_lift_bind (reader : Reader) (as : List α)
    (act : α → ExceptT RunError (StateM Desk) Unit)
    (f : Unit → ExceptT RunError (StateT Reader (StateM Desk)) β) :
    alone (forM as (fun a => lift (act a)) >>= f) reader
      = forM as act >>= fun _ => alone (f ()) reader := by
  induction as with
  | nil =>
    rw [List.forM_nil, List.forM_nil, pure_bind, pure_bind]
  | cons a as ih =>
    rw [List.forM_cons, List.forM_cons, bind_assoc, bind_assoc, alone_lift_bind]
    exact congrArg (act a >>= ·) (funext fun _ => ih)

/-! ## A session at a desk -/

/-- **An act on the desk.** -/
def act (filter : Filter) : Act → ExceptT RunError (StateM Desk) Unit
  | .log e => ExceptT.lift (complain (filter.render [e]))
  | act => forM act.written? write

/-- A session at a desk acts on it as its acts do. -/
theorem act_console (filter : Filter) (a : Act) :
    (system.console filter).act a = lift (act filter a) := by
  cases a <;> rfl

/-- A line there is to read is taken off the input. -/
theorem alone_readLine_cons (f : Bytes → ExceptT RunError (StateT Reader (StateM Desk)) β)
    (line : Bytes) (lines : List Bytes) (fault : Option IoFault) :
    alone (readLine >>= f) ⟨line :: lines, fault⟩ = alone (f line) ⟨lines, fault⟩ := rfl

/-- Behind the lines the input ends, with an empty line or its fault. -/
theorem alone_readLine_nil (f : Bytes → ExceptT RunError (StateT Reader (StateM Desk)) β)
    (fault : Option IoFault) :
    alone (readLine >>= f) ⟨[], fault⟩
      = fault.elim (alone (f []) ⟨[], none⟩) (fun cause => throw (.stream cause)) := by
  cases fault with
  | none => rfl
  | some cause => rfl

section Turn

variable (filter : Filter) (prompt : String) {fault : Option IoFault}
  (f : Unit ⊕ Unit → ExceptT RunError (StateT Reader (StateM Desk)) β)

/-- A turn at a desk: every act is lifted over the input, and one line is read. -/
theorem turn_desk :
    turn (system.console filter) prompt = (do
      lift (act filter (.prompt prompt))
      let line ← readLine
      if line.isEmpty then
        forM farewell fun a => lift (act filter a)
        return .inr ()
      match respond line with
      | .close => return .inr ()
      | .fail e => throw e
      | .acts as =>
        forM as fun a => lift (act filter a)
        return .inl ()) := by
  have hact : (system.console filter).act = fun a => lift (act filter a) :=
    funext (act_console filter)
  rw [turn, hact]
  rfl

/-- **A turn with a line to read**: the prompt, and what the response to the line asks for. -/
theorem alone_turn_cons {line : Bytes} (hline : line ≠ []) (lines : List Bytes) :
    alone (turn (system.console filter) prompt >>= f) ⟨line :: lines, fault⟩ = (do
      act filter (.prompt prompt)
      match respond line with
      | .close => alone (f (.inr ())) ⟨lines, fault⟩
      | .fail e => throw e
      | .acts as =>
        forM as (act filter)
        alone (f (.inl ())) ⟨lines, fault⟩) := by
  have hempty : ¬ line.isEmpty = true := by simpa using hline
  rw [turn_desk, bind_assoc, alone_lift_bind]
  refine congrArg (_ >>= ·) (funext fun _ => ?_)
  rw [bind_assoc, alone_readLine_cons, if_neg hempty]
  cases respond line with
  | close => rw [pure_bind]
  | fail e => rfl
  | acts as =>
    dsimp only
    rw [bind_assoc, alone_forM_lift_bind]
    rfl

/-- **A turn without one**: the prompt and the farewell, or the fault. -/
theorem alone_turn_nil :
    alone (turn (system.console filter) prompt >>= f) ⟨[], fault⟩ = (do
      act filter (.prompt prompt)
      match fault with
      | none =>
        forM farewell (act filter)
        alone (f (.inr ())) ⟨[], none⟩
      | some cause => throw (.stream cause)) := by
  rw [turn_desk, bind_assoc, alone_lift_bind]
  refine congrArg (_ >>= ·) (funext fun _ => ?_)
  rw [bind_assoc, alone_readLine_nil]
  cases fault with
  | none =>
    rw [Option.elim_none, if_pos List.isEmpty_nil, bind_assoc, alone_forM_lift_bind]
    rfl
  | some cause => rfl

end Turn

/-- **The turns of a session at a desk** come to what its record over the lines says. -/
theorem alone_turns (filter : Filter) (prompt : String) (fault : Option IoFault)
    {lines : List Bytes} (hlines : ∀ line ∈ lines, line ≠ []) :
    alone (repeatM (fun _ => turn (system.console filter) prompt) ()) ⟨lines, fault⟩
      = (runLines prompt fault lines).replay (act filter) := by
  induction lines with
  | nil =>
    rw [repeatM_eq_of_monadTail, repeatM.body, alone_turn_nil]
    cases fault with
    | none =>
      have hacts : farewell = farewell ++ [] := (List.append_nil _).symm
      rw [runLines, Record.replay_cons, hacts, Record.replay_append, Record.replay_nil]
      rfl
    | some cause =>
      rw [runLines, Record.replay_cons, Record.replay_nil]
      rfl
  | cons line lines ih =>
    obtain ⟨hline, hlines⟩ := List.forall_mem_cons.1 hlines
    rw [repeatM_eq_of_monadTail, repeatM.body, alone_turn_cons _ _ _ hline, runLines]
    cases respond line with
    | close =>
      rw [Record.replay_cons, Record.replay_nil]
      rfl
    | fail e =>
      rw [Record.replay_cons, Record.replay_nil]
      rfl
    | acts as =>
      dsimp only
      rw [ih hlines, List.cons_append, Record.replay_cons, Record.replay_append]

/-- **A session at a desk** comes to what its record over the input says. -/
theorem alone_hold (filter : Filter) (prompt : String) (input : Input) :
    alone (hold (system.console filter) prompt) input.reader
      = (runOn prompt input).replay (act filter) := by
  have hlines : ∀ line ∈ input.reader.lines, line ≠ [] := by
    intro line hmem
    exact (isLineCut_cutLines input.bytes).ne_nil_of_mem line ((List.mem_filter.1 hmem).1)
  rw [hold, act_console, alone_lift_bind, runOn, Record.replay_cons]
  exact congrArg (_ >>= ·) (funext fun _ => alone_turns filter prompt input.fault hlines)

/-! ## Acts on the desk -/

/-- The lines of several events are those of the first and those of the others. -/
theorem render_cons (filter : Filter) (e : Event) (es : List Event) :
    filter.render (e :: es) = filter.render [e] ++ filter.render es := by
  rw [Filter.render, Filter.render, Filter.render, ← String.join_append, ← List.map_append,
    ← List.filter_append]
  rfl

/-- An act that writes a piece logs nothing. -/
theorem act_of_written? (filter : Filter) {a : Act} {p : Piece} (h : a.written? = some p) :
    act filter a = write p ∧ a.logged? = none := by
  cases a with
  | log e => cases h
  | _ =>
    obtain rfl := Option.some.inj h
    exact ⟨rfl, rfl⟩

/-- Writing a piece on the desk is handing it to the writer there. -/
theorem run_write {p : Piece} {d : Desk} {done : Except RunError Unit} {out : Writer}
    (h : (Writer.put p).run.run d.out = (done, out)) :
    (write p).run.run d = (done, { d with out := out }) := by
  show (((Writer.put p).run.run d.out).1, { d with out := ((Writer.put p).run.run d.out).2 }) = _
  rw [h]

/-- **Acts on the desk**: the pieces go to the writer, and the events to standard error. -/
theorem run_forM_act (filter : Filter) (as : List Act) (d : Desk) :
    let done := (forM as (act filter)).run.run d
    let printed := (forM (as.filterMap Act.written?) Writer.put).run.run d.out
    done.1 = printed.1 ∧ done.2.out = printed.2
      ∧ (printed.1 = .ok () →
        done.2.err = d.err ++ filter.render (as.filterMap Act.logged?)) := by
  induction as generalizing d with
  | nil => exact ⟨rfl, rfl, fun _ => String.append_empty.symm⟩
  | cons a as ih =>
    rw [List.forM_cons]
    cases hwritten : a.written? with
    | none =>
      cases a with
      | log e =>
        have hlog : (act filter (.log e)).run.run d
            = (.ok (), { d with err := d.err ++ filter.render [e] }) := rfl
        have hevents : (Act.log e :: as).filterMap Act.logged?
            = e :: as.filterMap Act.logged? := rfl
        rw [run_bind_of_ok hlog, List.filterMap_cons_none hwritten, hevents,
          render_cons filter e (as.filterMap Act.logged?), ← String.append_assoc]
        exact ih _
      | _ => cases hwritten
    | some p =>
      obtain ⟨hact, hlogged⟩ := act_of_written? filter hwritten
      rw [hact, List.filterMap_cons_some hwritten, List.filterMap_cons_none hlogged, List.forM_cons]
      rcases hput : (Writer.put p).run.run d.out with ⟨done, out⟩
      have hwrite := run_write hput
      cases done with
      | error e =>
        rw [run_bind_of_error hwrite, run_bind_of_error hput]
        exact ⟨rfl, rfl, fun h => nomatch h⟩
      | ok u =>
        rw [run_bind_of_ok hwrite, run_bind_of_ok hput]
        exact ih _

/-- **A session replayed on the desk** writes what is delivered of its output, and ends as
the delivery does. If the output takes any number of bytes, all its events are logged. -/
theorem run_replay (filter : Filter) (r : Record) (d : Desk) :
    let done := (r.replay (act filter)).run.run d
    let sent := r.output.deliver d.out.room
    done.1 = sent.result ∧ done.2.out.taken = d.out.taken ++ sent.bytes
      ∧ (d.out.room = none → done.2.err = d.err ++ filter.render r.events) := by
  intro done sent
  obtain ⟨hresult, hout, herr⟩ := run_forM_act filter r.acts d
  obtain ⟨hprinted, htaken⟩ := Writer.forM_put (r.acts.filterMap Act.written?) d.out
  have hsent : sent = _ := Output.deliver_ending _ r.ending d.out.room
  rw [hprinted] at hresult herr
  rw [← hout] at htaken
  rcases hacts : (forM r.acts (act filter)).run.run d with ⟨ended, d'⟩
  rw [hacts] at hresult herr htaken
  dsimp only at hresult herr htaken
  cases hfailure : (Output.deliver ⟨r.acts.filterMap Act.written?, none⟩ d.out.room).failure with
  | some e =>
    have hended : ended = .error e := hresult.trans (by rw [Delivery.result, hfailure]; rfl)
    have hdone : done = _ := run_bind_of_error (hended ▸ hacts)
    rw [hdone, hsent, hfailure]
    refine ⟨rfl, htaken, fun hroom => ?_⟩
    rw [hroom] at hfailure
    cases hfailure
  | none =>
    have hok : Delivery.result (Output.deliver ⟨r.acts.filterMap Act.written?, none⟩ d.out.room)
        = .ok () := by rw [Delivery.result, hfailure]; rfl
    have hended : ended = .ok () := hresult.trans hok
    have hdone : done = _ := run_bind_of_ok (hended ▸ hacts)
    rw [hdone, hsent, hfailure]
    cases r.ending with
    | none => exact ⟨rfl, htaken, fun _ => herr hok⟩
    | some e => exact ⟨rfl, htaken, fun _ => herr hok⟩

/-! ## Runs at a desk -/

/-- **Holding a session at a desk** is what the session over the input comes to: with an
output of any room, what is delivered of its output is written, and it ends as the delivery
does; with no limit all its events are logged. -/
theorem run_hold (filter : Filter) (prompt : String) (input : Input) (d : Desk) :
    let done := ((hold (system.console filter) prompt).run.run' input.reader).run d
    let sent := (runOn prompt input).output.deliver d.out.room
    done.1 = sent.result ∧ done.2.out.taken = d.out.taken ++ sent.bytes
      ∧ (d.out.room = none → done.2.err = d.err ++ filter.render (runOn prompt input).events) := by
  have halone := run_replay filter (runOn prompt input) d
  rw [← alone_hold] at halone
  exact halone

section GoOn

variable {x : ExceptT RunError (StateT Reader (StateM Desk)) Unit} {d d' : Desk}

/-- Behind a computation that is seen alone, the run goes on with what that ended with. -/
theorem exists_run'_bind {done : Except RunError Unit}
    (h : (alone x reader).run.run d = (done, d'))
    (next : Except RunError Unit → StateT Reader (StateM Desk) Nat) :
    ∃ reader', ((x.run >>= next).run' reader).run d = ((next done).run' reader').run d' := by
  rcases hx : (x.run.run reader).run d with ⟨⟨ended, reader'⟩, d''⟩
  have halone : (alone x reader).run.run d = (ended, d'') := by
    show Prod.map Prod.fst id ((x.run.run reader).run d) = _
    rw [hx]
    rfl
  obtain ⟨rfl, rfl⟩ := Prod.mk.inj (halone.symm.trans h)
  refine ⟨reader', ?_⟩
  show Prod.map Prod.fst id (((x.run >>= next).run reader).run d) = _
  rw [StateT.run_bind, StateT.run_bind, hx]
  rfl

/-- A run goes on with its rest if it has not failed. -/
theorem run_goOn_of_ok (h : (alone x reader).run.run d = (.ok (), d')) (screen : Option Screen)
    {rest : StateT Reader (StateM Desk) Nat} {ended : Nat × Desk}
    (hrest : ∀ reader', (rest.run' reader').run d' = ended) :
    ((x.run >>= goOn system screen rest).run' reader).run d = ended := by
  obtain ⟨reader', hrun⟩ := exists_run'_bind h (goOn system screen rest)
  exact hrun.trans (hrest reader')

/-- A run that has failed says so and ends with code 2. -/
theorem run_goOn_of_error {e : RunError} (h : (alone x reader).run.run d = (.error e, d'))
    (screen : Option Screen) (rest : StateT Reader (StateM Desk) Nat) :
    ((x.run >>= goOn system screen rest).run' reader).run d
      = (2, { d' with err := d'.err ++ errorLine screen e }) := by
  obtain ⟨reader', hrun⟩ := exists_run'_bind h (goOn system screen rest)
  exact hrun

end GoOn

/-- Writing pieces on the desk is handing them to the writer there. -/
theorem run_forM_write (ps : List Piece) (d : Desk) :
    (forM ps write).run.run d
      = (((forM ps Writer.put).run.run d.out).1,
        { d with out := ((forM ps Writer.put).run.run d.out).2 }) := by
  induction ps generalizing d with
  | nil => rfl
  | cons p ps ih =>
    rw [List.forM_cons, List.forM_cons]
    rcases hput : (Writer.put p).run.run d.out with ⟨done, out⟩
    have hwrite := run_write hput
    cases done with
    | error e => rw [run_bind_of_error hwrite, run_bind_of_error hput]
    | ok _ => rw [run_bind_of_ok hwrite, run_bind_of_ok hput, ih]

/-- **Printing a listing** is writing its pieces in order. -/
theorem printListing_eq_forM {m : Type → Type} [Monad m] [LawfulMonad m] (o : CommandLine.Options)
    (write : Piece → ExceptT RunError m Unit) (fs : List ScannedFile) :
    printListing o write fs = forM (listing o fs).pieces write := by
  rw [printListing, listing]
  split
  · exact ScannedFile.printJson_eq_forM write fs
  · exact ScannedFile.printText_eq_forM write fs

/-- A listing ends as its pieces do: it has no error of its own. -/
theorem listing_eq (o : CommandLine.Options) (fs : List ScannedFile) :
    listing o fs = ⟨(listing o fs).pieces, none⟩ := by
  rw [listing]
  split <;> rfl

/-- At a desk, printing a listing is writing its pieces there. -/
theorem alone_printListing (reader : Reader) (o : CommandLine.Options) (fs : List ScannedFile) :
    alone (printListing o system.write fs) reader = forM (listing o fs).pieces write := by
  have hforM := alone_forM_lift_bind reader (listing o fs).pieces write pure
  rw [bind_pure] at hforM
  rw [printListing_eq_forM]
  exact hforM.trans (bind_pure _)

variable (w : Surroundings) (o : CommandLine.Options) (screen : Option Screen) (d : Desk)

/-- A run over files of which one cannot be scanned ends with that error. -/
theorem run_executeFiles_of_error {e : RunError} (h : scanPaths w.readPath o.files = .error e) :
    ((executeFiles system w o screen).run' reader).run d
      = (2, { d with err := d.err ++ filesLog w o ++ errorLine screen e }) := by
  rw [executeFiles, h]
  rfl

/-- **A run over files that were scanned** writes what is delivered of the listing; then it
ends with the reports, or if a piece was refused with that error. -/
theorem run_executeFiles_of_ok (reader : Reader) {fs : List ScannedFile}
    (h : scanPaths w.readPath o.files = .ok fs) :
    let done := ((executeFiles system w o screen).run' reader).run d
    let sent := (listing o fs).deliver d.out.room
    done.2.out.taken = d.out.taken ++ sent.bytes
      ∧ (sent.failure = none → done.1 = (reports o screen fs).2
        ∧ done.2.err = d.err ++ filesLog w o ++ (reports o screen fs).1)
      ∧ ∀ e, sent.failure = some e → done.1 = 2
        ∧ done.2.err = d.err ++ filesLog w o ++ errorLine screen e := by
  intro done sent
  have hdone : done = (((printListing o system.write fs).run >>= goOn system screen (do
      system.complain (reports o screen fs).1
      return (reports o screen fs).2)).run' reader).run
        { d with err := d.err ++ filesLog w o } := by
    show ((executeFiles system w o screen).run' reader).run d = _
    rw [executeFiles, h]
    rfl
  have hprint := run_forM_write (listing o fs).pieces { d with err := d.err ++ filesLog w o }
  rw [← alone_printListing reader] at hprint
  obtain ⟨hresult, htaken⟩ := Writer.forM_put (listing o fs).pieces d.out
  rw [← listing_eq] at hresult htaken
  dsimp only at hprint
  rcases hput : (forM (listing o fs).pieces Writer.put).run.run d.out with ⟨ended, out⟩
  rw [hput] at hprint hresult htaken
  obtain rfl : ended = sent.result := hresult
  cases hfailure : sent.failure with
  | none =>
    rw [Delivery.result, hfailure] at hprint
    have hok : done = (_, _) := hdone.trans (run_goOn_of_ok hprint screen (fun _ => rfl))
    rw [hok]
    exact ⟨htaken, fun _ => ⟨rfl, rfl⟩, fun e he => nomatch he⟩
  | some e =>
    rw [Delivery.result, hfailure] at hprint
    have herror : done = _ := hdone.trans (run_goOn_of_error hprint screen _)
    rw [herror]
    refine ⟨htaken, (fun hnone => nomatch hnone), fun e' he' => ?_⟩
    obtain rfl := Option.some.inj he'
    exact ⟨rfl, rfl⟩

/-- **A session** is held; then it ends, or with the error that ended it. -/
theorem run_executeSession (input : Input) :
    let done := ((executeSession system w o screen).run' input.reader).run d
    let talk := runOn o.prompt input
    let sent := talk.output.deliver d.out.room
    done.2.out.taken = d.out.taken ++ sent.bytes
      ∧ done.1 = sent.failure.elim 0 (fun _ => 2)
      ∧ (d.out.room = none →
        done.2.err = d.err ++ (filterOf w.logFilter o.logLevel).render talk.events
          ++ sent.failure.elim "" (errorLine screen)) := by
  intro done talk sent
  obtain ⟨hresult, htaken, herr⟩ := run_hold (filterOf w.logFilter o.logLevel) o.prompt input d
  rcases hheld : ((hold (system.console (filterOf w.logFilter o.logLevel)) o.prompt).run.run'
    input.reader).run d with ⟨ended, d'⟩
  rw [hheld] at hresult htaken herr
  obtain rfl : ended = sent.result := hresult
  cases hfailure : sent.failure with
  | none =>
    rw [Delivery.result, hfailure] at hheld
    have hok : done = (0, d') := run_goOn_of_ok hheld screen (fun _ => rfl)
    rw [hok]
    exact ⟨htaken, rfl, fun hroom => (herr hroom).trans String.append_empty.symm⟩
  | some e =>
    rw [Delivery.result, hfailure] at hheld
    have herror : done = _ := run_goOn_of_error hheld screen _
    rw [herror]
    exact ⟨htaken, rfl, fun hroom => congrArg (· ++ errorLine screen e) (herr hroom)⟩

/-! ## All runs -/

/-- The bytes of pieces are those of their texts in one. -/
theorem bytesOf_eq_encode (ps : List Piece) :
    Output.bytesOf ps = encode (String.join (ps.map Piece.text)) := by
  induction ps with
  | nil => exact encode_empty.symm
  | cons p ps ih => rw [Output.bytesOf_cons, ih, List.map_cons, String.join_cons, encode_append]

/-- Without a limit, the text of an output is delivered. -/
theorem deliver_none_eq (out : Output) :
    out.deliver none = ⟨encode out.text, out.ending⟩ := by
  rw [Output.deliver, bytesOf_eq_encode, Output.text]

/-- **The same outcome**: an exit code, and what has been written on the desk behind some
first lines on standard error. -/
structure Shows (remarks : String) (done : Nat × Desk) (expected : Outcome) : Prop where
  /-- The exit code. -/
  code : done.1 = expected.code
  /-- Standard output. -/
  stdout : done.2.out.taken = encode expected.stdout
  /-- Standard error. -/
  stderr : done.2.err = remarks ++ expected.stderr

/-- A session that is executed shows what the session comes to. -/
theorem shows_executeSession (remarks : String) :
    Shows remarks
      (((executeSession system w o screen).run' w.input.reader).run ⟨.ofRoom none, remarks⟩)
      (runSession w o screen) := by
  obtain ⟨htaken, hcode, herr⟩ := run_executeSession w o screen ⟨.ofRoom none, remarks⟩ w.input
  have hlog := herr rfl
  dsimp only [Writer.ofRoom] at htaken hcode hlog
  rw [deliver_none_eq] at htaken hcode hlog
  rw [runSession]
  have hending : (runOn o.prompt w.input).output.ending = (runOn o.prompt w.input).ending := rfl
  rw [hending] at hcode hlog
  cases hends : (runOn o.prompt w.input).ending with
  | none =>
    rw [hends] at hcode hlog
    exact ⟨hcode, htaken, hlog.trans String.append_empty⟩
  | some e =>
    rw [hends] at hcode hlog
    exact ⟨hcode, htaken, hlog.trans String.append_assoc⟩

/-- A run over files that is executed shows what the run comes to. -/
theorem shows_executeFiles (remarks : String) (reader : Reader) :
    Shows remarks (((executeFiles system w o screen).run' reader).run ⟨.ofRoom none, remarks⟩)
      (runFiles w o screen) := by
  rw [runFiles]
  cases hscan : scanPaths w.readPath o.files with
  | error e =>
    rw [run_executeFiles_of_error w o screen _ hscan]
    exact ⟨rfl, encode_empty.symm, String.append_assoc⟩
  | ok fs =>
    obtain ⟨htaken, hdone, -⟩ := run_executeFiles_of_ok w o screen
      ⟨.ofRoom none, remarks⟩ reader hscan
    dsimp only [Writer.ofRoom] at htaken hdone
    rw [listing_eq, deliver_none_eq] at htaken hdone
    obtain ⟨hcode, herr⟩ := hdone rfl
    exact ⟨hcode, htaken, herr.trans String.append_assoc⟩

/-- **An execution comes to what the run comes to.** On a desk whose output takes any
number of bytes, executing a run with options leaves the exit code, the output and the
errors that the run is said to come to. -/
theorem result_execute :
    Shows "" (result none w.input (execute system w o screen)) (runOptions w o screen) := by
  have hdone : result none w.input (execute system w o screen)
      = (((if o.files.isEmpty then executeSession system w o screen
        else executeFiles system w o screen).run' w.input.reader).run
        ⟨.ofRoom none, "" ++ unlines (Filter.remarks (w.logFilter.getD ""))⟩) := rfl
  rw [hdone, runOptions, String.empty_append]
  split
  · obtain ⟨hcode, hstdout, hstderr⟩ := shows_executeSession w o screen
      (unlines (Filter.remarks (w.logFilter.getD "")))
    exact ⟨hcode, hstdout, hstderr.trans String.empty_append.symm⟩
  · obtain ⟨hcode, hstdout, hstderr⟩ := shows_executeFiles w o screen
      (unlines (Filter.remarks (w.logFilter.getD ""))) w.input.reader
    exact ⟨hcode, hstdout, hstderr.trans String.empty_append.symm⟩

end Desk

end Program

end ScriptLexer

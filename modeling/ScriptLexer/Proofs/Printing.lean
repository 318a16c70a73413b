import Mathlib.Control.Basic
import ScriptLexer.ScannedFile.Listing

/-!
# Printing

A printer writes one piece after the other, and stops at the first that is refused. So
it is the list of its pieces that is written, whatever writes a piece
(`ScannedFile.printText_eq_forM`, `ScannedFile.printJson_eq_forM`), and what a writer has
taken in the end is what is delivered of this list (`Writer.forM_put`). The two together
say of each printer that on a writer with any room it does what the delivery of its
listing says (`Writer.prints_listings`).
-/

namespace ScriptLexer

/-- Doing something for all that some values stand for, value by value. -/
theorem forM_flatMap {m : Type → Type} [Monad m] [LawfulMonad m] {α β : Type} (xs : List α)
    (g : α → List β) (f : β → m Unit) :
    forM (xs.flatMap g) f = forM xs fun x => forM (g x) f := by
  induction xs with
  | nil => rfl
  | cons x xs ih => rw [List.flatMap_cons, List.forM_append, List.forM_cons, ih]

/-! ## Pieces -/

namespace ScannedFile

variable {m : Type → Type} [Monad m] [LawfulMonad m]

/-- **Printing a text listing** is writing its pieces. -/
theorem printText_eq_forM (write : Piece → m Unit) (fs : List ScannedFile) :
    printText write fs = forM (textListing fs).pieces write := by
  rw [printText, textListing, forM_flatMap]
  refine congrArg (forM fs) (funext fun f => ?_)
  rw [List.forM_append, tokenLines, List.forM_map]
  split
  · rw [List.forM_cons, List.forM_nil, bind_pure]
  · rw [List.forM_nil, pure_bind]

/-- **Printing a JSON listing** is writing its pieces. -/
theorem printJson_eq_forM (write : Piece → m Unit) (fs : List ScannedFile) :
    printJson write fs = forM (jsonListing fs).pieces write := by
  rw [printJson, jsonListing, forM_flatMap]
  refine congrArg (forM fs) (funext fun f => ?_)
  rw [List.forM_cons, List.forM_cons, List.forM_nil, bind_pure]

end ScannedFile

/-! ## Steps that can fail -/

section Fail

variable {ε σ α β : Type} {x : ExceptT ε (StateM σ) α} {f : α → ExceptT ε (StateM σ) β} {s s' : σ}

/-- After a step that succeeds, what comes behind it is done. -/
theorem run_bind_of_ok {a : α} (h : x.run.run s = (.ok a, s')) :
    (x >>= f).run.run s = (f a).run.run s' := by
  rw [ExceptT.run_bind, StateT.run_bind, h]
  rfl

/-- After a step that fails, nothing is done. -/
theorem run_bind_of_error {e : ε} (h : x.run.run s = (.error e, s')) :
    (x >>= f).run.run s = (.error e, s') := by
  rw [ExceptT.run_bind, StateT.run_bind, h]
  rfl

end Fail

/-! ## Writers -/

/-- How writing ends: at the error met, if any. -/
def Delivery.result (d : Delivery) : Except RunError Unit :=
  d.failure.elim (.ok ()) .error

namespace Output

variable {p : Piece} {ps : List Piece} {ending : Option RunError} {room : Nat}

/-- The error that a writer would end with by itself comes behind a refusal. -/
theorem deliver_ending (ps : List Piece) (ending : Option RunError) (room : Option Nat) :
    deliver ⟨ps, ending⟩ room
      = ⟨(deliver ⟨ps, none⟩ room).bytes, (deliver ⟨ps, none⟩ room).failure <|> ending⟩ := by
  cases room with
  | none => rfl
  | some room =>
    rw [deliver, deliver]
    cases (fit room ps).failure with
    | none => rfl
    | some e => rfl

/-- Behind a piece that fits, the others are delivered to the room that is left. -/
theorem deliver_cons_of_le (h : (encode p.text).length ≤ room) :
    deliver ⟨p :: ps, ending⟩ (some room)
      = ⟨encode p.text ++ (deliver ⟨ps, ending⟩ (some (room - (encode p.text).length))).bytes,
        (deliver ⟨ps, ending⟩ (some (room - (encode p.text).length))).failure⟩ := by
  rw [deliver, fit, if_pos h]
  rfl

/-- A piece that does not fit is the last. -/
theorem deliver_cons_of_lt (h : room < (encode p.text).length) :
    deliver ⟨p :: ps, ending⟩ (some room)
      = ⟨(encode p.text).take room, some p.part.refusal⟩ := by
  rw [deliver, fit, if_neg (Nat.not_le.2 h)]
  rfl

end Output

namespace Writer

/-- A piece that fits is taken. -/
theorem run_put_of_le {p : Piece} {room : Nat} (h : (encode p.text).length ≤ room)
    (taken : Bytes) :
    (put p).run.run ⟨taken, some room⟩
      = (.ok (), ⟨taken ++ encode p.text, some (room - (encode p.text).length)⟩) := by
  refine (run_bind_of_ok rfl).trans ?_
  dsimp only
  rw [if_pos h]
  rfl

/-- Of a piece that does not fit the first bytes are taken, and it is refused. -/
theorem run_put_of_lt {p : Piece} {room : Nat} (h : room < (encode p.text).length)
    (taken : Bytes) :
    (put p).run.run ⟨taken, some room⟩
      = (.error p.part.refusal, ⟨taken ++ (encode p.text).take room, some 0⟩) := by
  refine (run_bind_of_ok rfl).trans ?_
  dsimp only
  rw [if_neg (Nat.not_le.2 h)]
  rfl

/-- **A writer that is handed pieces** takes what is delivered of them, and ends as the
delivery does. -/
theorem forM_put (ps : List Piece) (w : Writer) :
    ((forM ps put).run.run w).1 = (Output.deliver ⟨ps, none⟩ w.room).result
      ∧ ((forM ps put).run.run w).2.taken
        = w.taken ++ (Output.deliver ⟨ps, none⟩ w.room).bytes := by
  induction ps generalizing w with
  | nil =>
    obtain ⟨taken, _ | room⟩ := w
    · exact ⟨rfl, (List.append_nil _).symm⟩
    · exact ⟨rfl, (List.append_nil _).symm⟩
  | cons p ps ih =>
    rw [List.forM_cons]
    obtain ⟨taken, _ | room⟩ := w
    · have hput : (put p).run.run ⟨taken, none⟩ = (.ok (), ⟨taken ++ encode p.text, none⟩) := rfl
      obtain ⟨hresult, htaken⟩ := ih ⟨taken ++ encode p.text, none⟩
      rw [run_bind_of_ok hput, hresult, htaken]
      exact ⟨rfl, List.append_assoc _ _ _⟩
    · obtain hlarge | hfits := Nat.lt_or_ge room (encode p.text).length
      · rw [run_bind_of_error (run_put_of_lt hlarge taken), Output.deliver_cons_of_lt hlarge]
        exact ⟨rfl, rfl⟩
      · obtain ⟨hresult, htaken⟩ :=
          ih ⟨taken ++ encode p.text, some (room - (encode p.text).length)⟩
        rw [run_bind_of_ok (run_put_of_le hfits taken), hresult, htaken,
          Output.deliver_cons_of_le hfits]
        exact ⟨rfl, List.append_assoc _ _ _⟩

/-- **A printer prints an output** if, whatever room a writer has, it leaves there what is
delivered of the output, and ends as the delivery does. -/
structure Prints (print : ExceptT RunError (StateM Writer) Unit) (o : Output) : Prop where
  /-- The error met is that of the delivery. -/
  result : ∀ room, (print.run.run (ofRoom room)).1 = (o.deliver room).result
  /-- The bytes taken are the bytes delivered. -/
  taken : ∀ room, (print.run.run (ofRoom room)).2.taken = (o.deliver room).bytes

theorem prints_forM_put (ps : List Piece) : Prints (forM ps put) ⟨ps, none⟩ where
  result room := (forM_put ps (ofRoom room)).1
  taken room := (forM_put ps (ofRoom room)).2

/-- **The printers print the listings.** -/
theorem prints_listings (fs : List ScannedFile) :
    Prints (ScannedFile.printText put fs) (ScannedFile.textListing fs)
      ∧ Prints (ScannedFile.printJson put fs) (ScannedFile.jsonListing fs) := by
  rw [ScannedFile.printText_eq_forM, ScannedFile.printJson_eq_forM]
  exact ⟨prints_forM_put _, prints_forM_put _⟩

end Writer

end ScriptLexer

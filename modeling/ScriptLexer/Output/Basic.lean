import ScriptLexer.Output.Error
import ScriptLexer.Text.Bytes

/-!
# Output

What a part of the program writes is a list of **pieces**, and perhaps an
error it ends with of its own accord. Delivering it needs no more than the
bytes the output accepts: an output may take every byte, or only so many in
total, and then it refuses the piece in which the first byte too many stands.
The bytes before that one are kept, also those of the refused piece, and
nothing after it is written.

A **writer** is such an output at work: it is handed one piece after the other, and
refusing one is an error, at which a printer stops (`Writer.put`).
-/

namespace ScriptLexer

/-- **What a piece of output belongs to**, which decides the error its
refusal is. -/
inductive Part where
  /-- Plain text. -/
  | plain
  /-- A JSON document. -/
  | document
  deriving DecidableEq, Repr

/-- The error that a failed write of a piece of output is. -/
def Part.failure : Part → IoFault → RunError
  | plain => .stream
  | document => .document

/-- The error that a refused piece of output is. -/
def Part.refusal (part : Part) : RunError :=
  part.failure .outputFull

/-- **A piece of output.** -/
structure Piece where
  /-- What it belongs to. -/
  part : Part
  /-- The text to be written. -/
  text : String
  deriving DecidableEq, Repr

/-- **What is to be written**, and the error that ends the writing, if one
does. -/
structure Output where
  /-- The pieces, in order. -/
  pieces : List Piece
  /-- The error the writer ends with by itself. -/
  ending : Option RunError := none
  deriving DecidableEq, Repr

/-- **What was written**: the bytes accepted, and the error met. -/
structure Delivery where
  /-- The bytes accepted. -/
  bytes : Bytes
  /-- The error met, if any. -/
  failure : Option RunError
  deriving DecidableEq, Repr

namespace Output

/-- The whole text to be written. -/
def text (o : Output) : String :=
  String.join (o.pieces.map Piece.text)

/-- The bytes of pieces, one after the other. -/
def bytesOf (ps : List Piece) : Bytes :=
  ps.flatMap (fun p => encode p.text)

/-- The pieces delivered to an output that takes `room` bytes and no
more. -/
def fit (room : Nat) : List Piece → Delivery
  | [] => ⟨[], none⟩
  | p :: ps =>
    let bytes := encode p.text
    if bytes.length ≤ room then
      let more := fit (room - bytes.length) ps
      ⟨bytes ++ more.bytes, more.failure⟩
    else ⟨bytes.take room, some p.part.refusal⟩

/-- **Delivery** to an output that takes so many bytes, or any number. -/
def deliver (o : Output) : Option Nat → Delivery
  | none => ⟨bytesOf o.pieces, o.ending⟩
  | some room =>
    let fitted := fit room o.pieces
    ⟨fitted.bytes, fitted.failure <|> o.ending⟩

@[simp] theorem bytesOf_nil : bytesOf [] = [] := rfl

@[simp] theorem bytesOf_cons (p : Piece) (ps : List Piece) :
    bytesOf (p :: ps) = encode p.text ++ bytesOf ps := rfl

@[simp] theorem bytesOf_append (ps qs : List Piece) :
    bytesOf (ps ++ qs) = bytesOf ps ++ bytesOf qs :=
  List.flatMap_append

end Output

/-! ## Writers -/

/-- **A writer**: what it has taken, and what it can still take. -/
structure Writer where
  /-- The bytes taken. -/
  taken : Bytes
  /-- How many bytes more there is room for, or none for any number. -/
  room : Option Nat
  deriving DecidableEq, Inhabited, Repr

namespace Writer

/-- A writer with so much room. -/
def ofRoom (room : Option Nat) : Writer := ⟨[], room⟩

/-- **Handing a writer a piece.** -/
def put (p : Piece) : ExceptT RunError (StateM Writer) Unit := do
  let w ← get
  let bytes := encode p.text
  match w.room with
  | none => set (⟨w.taken ++ bytes, none⟩ : Writer)
  | some room =>
    if bytes.length ≤ room then
      set (⟨w.taken ++ bytes, some (room - bytes.length)⟩ : Writer)
    else
      set (⟨w.taken ++ bytes.take room, some 0⟩ : Writer)
      throw p.part.refusal

end Writer

end ScriptLexer

import ScriptLexer.Proofs.JsonLine
import ScriptLexer.Session

/-!
# Output that is cut short

Whatever a part of the program writes, an output that takes only so many bytes
gets the first bytes of what an output without a limit gets, however the text is
cut into pieces and wherever in a piece the limit falls
(`Output.fit_eq`). Only the error depends on the pieces: it is the refusal of
the one in which the first refused byte stands (`Output.partAt`), and it comes
before any error that the writer would have ended with by itself.

Listings as text and sessions write plain text only. A JSON listing writes
documents and line feeds in turn, so its error tells where the output stopped:
at the line feed behind a document or inside one. Because a document is one line,
that can be read off the refused byte (`ScannedFile.getElem?_jsonListing_eq_ten_iff`).
-/

namespace ScriptLexer

namespace Output

/-! ## The piece in which a byte stands -/

/-- **What the byte at an index belongs to**, if there is such a byte. -/
def partAt (n : Nat) : List Piece → Option Part
  | [] => none
  | p :: ps =>
    if n < (encode p.text).length then some p.part
    else partAt (n - (encode p.text).length) ps

/-- There is such a byte exactly before the end. -/
theorem partAt_eq_none_iff {n : Nat} {ps : List Piece} :
    partAt n ps = none ↔ (bytesOf ps).length ≤ n := by
  induction ps generalizing n with
  | nil => simp [partAt]
  | cons p ps ih =>
    rw [partAt, bytesOf_cons, List.length_append]
    split
    · exact iff_of_false (Option.some_ne_none _) (by omega)
    · rw [ih]
      omega

/-- A byte belongs to what some piece belongs to. -/
theorem exists_mem_of_partAt {n : Nat} {ps : List Piece} {part : Part}
    (h : partAt n ps = some part) : ∃ p ∈ ps, p.part = part := by
  induction ps generalizing n with
  | nil => cases h
  | cons p ps ih =>
    rw [partAt] at h
    split at h
    · exact ⟨p, List.mem_cons_self, Option.some_inj.1 h⟩
    · obtain ⟨q, hq, hpart⟩ := ih h
      exact ⟨q, List.mem_cons_of_mem p hq, hpart⟩

/-- **Delivery is a prefix.** What fits is the first bytes, and the first byte
that does not fit decides the error. -/
theorem fit_eq (room : Nat) (ps : List Piece) :
    fit room ps = ⟨(bytesOf ps).take room, (partAt room ps).map Part.refusal⟩ := by
  induction ps generalizing room with
  | nil => simp [fit, partAt]
  | cons p ps ih =>
    rw [fit, partAt, bytesOf_cons]
    by_cases hfits : (encode p.text).length ≤ room
    · have htake : (encode p.text ++ bytesOf ps).take room
          = encode p.text ++ (bytesOf ps).take (room - (encode p.text).length) := by
        rw [List.take_append, List.take_of_length_le hfits]
      rw [if_pos hfits, if_neg (Nat.not_lt.2 hfits), ih, htake]
    · have htake : (encode p.text ++ bytesOf ps).take room = (encode p.text).take room :=
        List.take_append_of_le_length (by omega)
      rw [if_neg hfits, if_pos (Nat.lt_of_not_le hfits), htake]
      rfl

/-! ## Writers that are cut short -/

/-- **Cut short at `n` bytes**: an output that takes `n` bytes and no more gets
everything, with the ending the writer has by itself, if that is at most `n`
bytes; and otherwise the first `n` bytes, with the error `e`. -/
structure CutShort (o : Output) (n : Nat) (e : RunError) : Prop where
  /-- All is written if all fits. -/
  whole : (o.deliver none).bytes.length ≤ n → o.deliver (some n) = o.deliver none
  /-- Else what fits is written, and the refusal is the error. -/
  cut : n < (o.deliver none).bytes.length →
    o.deliver (some n) = ⟨(o.deliver none).bytes.take n, some e⟩

/-- Writers are cut short with the refusal of the piece in which the first refused
byte stands. -/
theorem cutShort_of_partAt {o : Output} {n : Nat} {e : RunError}
    (h : ∀ part, partAt n o.pieces = some part → part.refusal = e) : o.CutShort n e := by
  have hdeliver : o.deliver (some n)
      = ⟨(bytesOf o.pieces).take n, (partAt n o.pieces).map Part.refusal <|> o.ending⟩ := by
    rw [deliver, fit_eq]
  constructor
  · intro hle
    have htake : (bytesOf o.pieces).take n = bytesOf o.pieces := List.take_of_length_le hle
    rw [hdeliver, htake, partAt_eq_none_iff.2 hle]
    rfl
  · intro hlt
    have hsome := mt partAt_eq_none_iff.1 (Nat.not_le.2 hlt)
    obtain ⟨part, hpart⟩ := Option.ne_none_iff_exists'.1 hsome
    rw [hdeliver, hpart, ← h part hpart]
    rfl

/-- Plain text is cut short with an error of the stream. -/
theorem cutShort_of_plain {o : Output} (h : ∀ p ∈ o.pieces, p.part = .plain) (n : Nat) :
    o.CutShort n (.stream .outputFull) := by
  refine cutShort_of_partAt (fun part hpart => ?_)
  obtain ⟨p, hp, rfl⟩ := exists_mem_of_partAt hpart
  rw [h p hp]
  rfl

end Output

/-! ## What the printers write -/

/-- A text listing is plain text. -/
theorem ScannedFile.plain_of_mem_textListing (fs : List ScannedFile) :
    ∀ p ∈ (textListing fs).pieces, p.part = .plain := by
  intro p hp
  obtain ⟨f, _, hp⟩ := List.mem_flatMap.1 hp
  obtain hheading | hline := List.mem_append.1 hp
  · split at hheading
    · rw [List.mem_singleton.1 hheading]
      rfl
    · cases hheading
  · obtain ⟨t, _, rfl⟩ := List.mem_map.1 hline
    rfl

/-- So is what a session writes. -/
theorem Session.plain_of_mem_output (r : Session.Record) :
    ∀ p ∈ r.output.pieces, p.part = .plain := by
  intro p hp
  obtain ⟨act, _, hact⟩ := List.mem_filterMap.1 hp
  cases act <;> cases hact <;> rfl

namespace ScannedFile

open Output

theorem pieces_jsonListing_cons (f : ScannedFile) (fs : List ScannedFile) :
    (jsonListing (f :: fs)).pieces
      = ⟨.document, f.document⟩ :: ⟨.plain, "\n"⟩ :: (jsonListing fs).pieces := rfl

/-- **The byte at an index ends a document**: before it are the lines of some of
the first files, and the document of the next. -/
def EndsDocument (fs : List ScannedFile) (n : Nat) : Prop :=
  ∃ before f after, fs = before ++ f :: after
    ∧ n = (bytesOf (jsonListing before).pieces).length + (encode f.document).length

theorem bytesOf_jsonListing_nil : bytesOf (jsonListing []).pieces = [] := rfl

theorem bytesOf_jsonListing_cons (f : ScannedFile) (fs : List ScannedFile) :
    bytesOf (jsonListing (f :: fs)).pieces
      = encode f.document ++ 10 :: bytesOf (jsonListing fs).pieces := by
  have hfeed : encode "\n" = [10] := by decide
  rw [pieces_jsonListing_cons, bytesOf_cons, bytesOf_cons, hfeed]
  rfl

theorem not_endsDocument_nil (n : Nat) : ¬ EndsDocument [] n := by
  rintro ⟨before, f, after, heq, _⟩
  exact absurd heq.symm (by simp)

/-- The first document ends where its encoding does, and the others are behind
it and its line feed. -/
theorem endsDocument_cons_iff {f : ScannedFile} {fs : List ScannedFile} {n : Nat} :
    EndsDocument (f :: fs) n
      ↔ n = (encode f.document).length
        ∨ ∃ m, n = (encode f.document).length + 1 + m ∧ EndsDocument fs m := by
  have hlength : ∀ before, (bytesOf (jsonListing (f :: before)).pieces).length
      = (encode f.document).length + 1 + (bytesOf (jsonListing before).pieces).length := by
    intro before
    rw [bytesOf_jsonListing_cons, List.length_append, List.length_cons]
    omega
  constructor
  · rintro ⟨before, g, after, heq, hn⟩
    cases before with
    | nil =>
      obtain ⟨rfl, _⟩ := List.cons.inj heq
      rw [bytesOf_jsonListing_nil, List.length_nil, Nat.zero_add] at hn
      exact Or.inl hn
    | cons g' before =>
      obtain ⟨rfl, rfl⟩ := List.cons.inj heq
      rw [hlength, Nat.add_assoc] at hn
      exact Or.inr ⟨_, hn, before, g, after, rfl, rfl⟩
  · rintro (hn | ⟨m, hn, before, g, after, rfl, hm⟩)
    · refine ⟨[], f, fs, rfl, ?_⟩
      rw [bytesOf_jsonListing_nil, List.length_nil, Nat.zero_add, hn]
    · refine ⟨f :: before, g, after, rfl, ?_⟩
      rw [hn, hm, hlength, Nat.add_assoc _ _ (encode g.document).length]

/-- **A place in a JSON listing**: in the first document, at its end, or in what
is behind it. -/
theorem endsDocument_cases (f : ScannedFile) (fs : List ScannedFile) (n : Nat) :
    (n < (encode f.document).length ∧ ¬ EndsDocument (f :: fs) n)
      ∨ (n = (encode f.document).length ∧ EndsDocument (f :: fs) n)
      ∨ ∃ m, n = (encode f.document).length + 1 + m
        ∧ (EndsDocument (f :: fs) n ↔ EndsDocument fs m) := by
  rw [endsDocument_cons_iff]
  generalize (encode f.document).length = d
  obtain hlt | heq | hgt := Nat.lt_trichotomy n d
  · refine Or.inl ⟨hlt, ?_⟩
    rintro (heq | ⟨m, hm, _⟩) <;> omega
  · exact Or.inr (Or.inl ⟨heq, Or.inl heq⟩)
  · refine Or.inr (Or.inr ⟨n - (d + 1), by omega, ?_⟩)
    constructor
    · rintro (heq | ⟨m, rfl, hm⟩)
      · omega
      · rwa [Nat.add_sub_cancel_left]
    · exact fun hm => Or.inr ⟨_, by omega, hm⟩

/-- **The bytes of line feeds are the ends of documents**, a document having none
of its own. -/
theorem getElem?_jsonListing_eq_ten_iff {fs : List ScannedFile} {n : Nat} :
    (bytesOf (jsonListing fs).pieces)[n]? = some 10 ↔ EndsDocument fs n := by
  induction fs generalizing n with
  | nil => exact iff_of_false (Option.some_ne_none _).symm (not_endsDocument_nil n)
  | cons f fs ih =>
    rw [bytesOf_jsonListing_cons]
    obtain ⟨hlt, hnot⟩ | ⟨heq, hends⟩ | ⟨m, heq, hiff⟩ := endsDocument_cases f fs n
    · rw [List.getElem?_append_left hlt]
      exact iff_of_false
        (fun h => f.oneLine_document.not_mem_encode (List.mem_of_getElem? h)) hnot
    · rw [List.getElem?_append_right (by omega), heq, Nat.sub_self]
      exact iff_of_true rfl (heq ▸ hends)
    · have hrest : n - (encode f.document).length = m + 1 := by omega
      rw [List.getElem?_append_right (by omega), hrest, List.getElem?_cons_succ, hiff, ih]

theorem partAt_jsonListing_cons (f : ScannedFile) (fs : List ScannedFile) (n : Nat) :
    partAt n (jsonListing (f :: fs)).pieces
      = if n < (encode f.document).length then some .document
        else if n - (encode f.document).length < 1 then some .plain
        else partAt (n - (encode f.document).length - 1) (jsonListing fs).pieces := by
  have hfeed : (encode "\n").length = 1 := by decide
  rw [← hfeed]
  rfl

/-- The other bytes belong to documents. -/
theorem partAt_jsonListing {fs : List ScannedFile} {n : Nat} {part : Part}
    (h : partAt n (jsonListing fs).pieces = some part) :
    part = .plain ↔ EndsDocument fs n := by
  induction fs generalizing n with
  | nil => cases h
  | cons f fs ih =>
    rw [partAt_jsonListing_cons] at h
    obtain ⟨hlt, hnot⟩ | ⟨heq, hends⟩ | ⟨m, heq, hiff⟩ := endsDocument_cases f fs n
    · rw [if_pos hlt] at h
      cases h
      exact iff_of_false Part.noConfusion hnot
    · rw [if_neg (by omega), if_pos (by omega)] at h
      cases h
      exact iff_of_true rfl hends
    · have hrest : n - (encode f.document).length - 1 = m := by omega
      rw [if_neg (by omega), if_neg (by omega), hrest] at h
      rw [hiff]
      exact ih h

end ScannedFile

namespace Output

open ScannedFile

/-- **Output failing at any byte.** On an output that takes `n` bytes and no more,
a text listing and a session write the first `n` bytes of what they write
without a limit, and end with an error of the stream if that is not all. So does
a JSON listing, but its error is one of the document, unless the first byte that
is refused is the line feed that ends a document; and the ends of documents are
where a line feed stands. -/
theorem cutShort_printers (n : Nat) (fs : List ScannedFile) (prompt : String)
    (input : Bytes) :
    (textListing fs).CutShort n (.stream .outputFull)
      ∧ (Session.run prompt input).output.CutShort n (.stream .outputFull)
      ∧ (EndsDocument fs n → (jsonListing fs).CutShort n (.stream .outputFull))
      ∧ (¬ EndsDocument fs n → (jsonListing fs).CutShort n (.document .outputFull))
      ∧ (((jsonListing fs).deliver none).bytes[n]? = some 10 ↔ EndsDocument fs n) := by
  refine ⟨cutShort_of_plain (plain_of_mem_textListing fs) n,
    cutShort_of_plain (Session.plain_of_mem_output _) n, fun hends => ?_, fun hnot => ?_,
    getElem?_jsonListing_eq_ten_iff⟩
  · refine cutShort_of_partAt (fun part hpart => ?_)
    rw [(partAt_jsonListing hpart).2 hends]
    rfl
  · refine cutShort_of_partAt (fun part hpart => ?_)
    cases part with
    | plain => exact absurd ((partAt_jsonListing hpart).1 rfl) hnot
    | document => rfl

end Output

end ScriptLexer

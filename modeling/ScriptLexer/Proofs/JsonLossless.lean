import Mathlib.Data.List.Forall2
import ScriptLexer.Proofs.JsonLine
import ScriptLexer.Proofs.JsonValue

/-!
# A JSON listing loses nothing

A reader of a JSON listing gets back everything but the sources: cut at its line feeds
the listing falls into the documents, and each document tells the name of its file, the
tokens and the diagnostics, whatever stands in them. The records are written straight
as text; here each of them is also made a JSON value, with that text
(`ScannedFile.text_value`), so that what is left to see is that no two records make the
same value. For a diagnostic this is the one place where it matters how a missing file
or span is written: the field is left out, and the names of those that are there say
which.

`ScannedFile.jsonListing_lossless` puts both together.
-/

namespace ScriptLexer

open Json

/-! ## Records as values -/

/-- A token as a JSON value. -/
def Token.value (t : Token) : Value :=
  .object [("kind", .string t.kind.name), ("literal", .string t.literal)]

/-- A span as a JSON value. -/
def Span.value (s : Span) : Value :=
  .object [("start", .number s.start.toNat), ("length", .number s.length.toNat)]

/-- A diagnostic as a JSON value. -/
def Diagnostic.value (d : Diagnostic) : Value :=
  .object ((d.file.map (fun f => ("file", .string f))).toList
    ++ (d.span.map (fun s => ("span", s.value))).toList
    ++ [("message_text", .string d.text), ("code", .number d.code.toNat),
      ("category", .string d.severity.name)])

/-- A file as a JSON value. -/
def ScannedFile.value (f : ScannedFile) : Value :=
  .object
    [("file", .string f.file), ("tokens", .array (f.tokens.map Token.value)),
      ("diagnostics", .array (f.diagnostics.map Diagnostic.value))]

/-! ## The text of a record is that of its value -/

theorem Token.text_value (t : Token) : t.value.text = t.json := by
  simp only [Token.value, Value.text, List.map_cons, List.map_nil, Token.json]

theorem Span.text_value (s : Span) : s.value.text = s.json := by
  simp only [Span.value, Value.text, List.map_cons, List.map_nil, Span.json]

theorem Diagnostic.text_value (d : Diagnostic) : d.value.text = d.json := by
  rw [Diagnostic.value, Diagnostic.json, Value.text]
  cases d.file <;> cases d.span <;> simp [Value.text, Span.text_value]

theorem Json.Value.text_array_map {α : Type} {value : α → Value} {write : α → String}
    (h : ∀ a, (value a).text = write a) (as : List α) :
    (Value.array (as.map value)).text = Json.array (as.map write) := by
  rw [Value.text, List.map_map]
  exact congrArg Json.array (List.map_congr_left (fun a _ => h a))

theorem ScannedFile.text_value (f : ScannedFile) : f.value.text = f.document := by
  simp only [ScannedFile.value, Value.text, List.map_cons, List.map_nil, ScannedFile.document,
    Value.text_array_map Token.text_value, Value.text_array_map Diagnostic.text_value]

/-! ## Different records are different values -/

theorem Token.value_injective : Function.Injective Token.value := by
  rintro ⟨k, l⟩ ⟨k', l'⟩ h
  simpa [Token.value] using h

theorem Span.value_injective : Function.Injective Span.value := by
  rintro ⟨s, n⟩ ⟨s', n'⟩ h
  simpa [Span.value, UInt32.toNat_inj] using h

theorem Diagnostic.value_injective : Function.Injective Diagnostic.value := by
  rintro ⟨f, s, t, c, v⟩ ⟨f', s', t', c', v'⟩ h
  -- the three fields that are always there come last
  obtain ⟨hoptional, hothers⟩ := List.append_inj' (Value.object.inj h) rfl
  have hlocated : f = f' ∧ s = s' := by
    cases f <;> cases f' <;> cases s <;> cases s' <;>
      simp_all [Span.value_injective.eq_iff]
  cases v
  cases v'
  simp_all [UInt32.toNat_inj]

/-- The value of a file tells all but its source. -/
theorem ScannedFile.value_eq_iff {f g : ScannedFile} :
    f.value = g.value
      ↔ f.file = g.file ∧ f.tokens = g.tokens ∧ f.diagnostics = g.diagnostics := by
  simp [ScannedFile.value, (List.map_injective_iff.2 Token.value_injective).eq_iff,
    (List.map_injective_iff.2 Diagnostic.value_injective).eq_iff]

namespace ScannedFile

/-! ## The text of a listing -/

/-- A listing is the texts of the values of its files, a line feed behind each. -/
theorem text_jsonListing (fs : List ScannedFile) :
    (jsonListing fs).text = String.join ((fs.map value).map (fun v => v.text ++ "\n")) := by
  induction fs with
  | nil => rfl
  | cons f fs ih =>
    have hlines : (jsonListing (f :: fs)).text
        = String.join (f.document :: "\n" :: (jsonListing fs).pieces.map Piece.text) := rfl
    have hrest : String.join ((jsonListing fs).pieces.map Piece.text) = (jsonListing fs).text := rfl
    rw [hlines, String.join_cons, String.join_cons, hrest, ih, List.map_cons, List.map_cons,
      String.join_cons, text_value, String.append_assoc]

theorem toList_text_jsonListing_nil : (jsonListing []).text.toList = [] := rfl

theorem toList_text_jsonListing_cons (f : ScannedFile) (fs : List ScannedFile) :
    (jsonListing (f :: fs)).text.toList
      = f.value.text.toList ++ '\n' :: (jsonListing fs).text.toList := by
  rw [text_jsonListing, List.map_cons, List.map_cons, String.join_cons, ← text_jsonListing,
    String.toList_append, String.toList_append, List.append_assoc]
  rfl

/-- Cut at its line feeds, a listing is the documents, and nothing behind the last. -/
theorem splitOn_text_jsonListing (fs : List ScannedFile) :
    (jsonListing fs).text.toList.splitOn '\n' = fs.map (fun f => f.document.toList) ++ [[]] := by
  have hlines : (jsonListing fs).text = String.join ((fs.map document).map (· ++ "\n")) := by
    rw [text_jsonListing, List.map_map, List.map_map]
    exact congrArg String.join
      (List.map_congr_left (fun f _ => congrArg (· ++ "\n") f.text_value))
  rw [hlines, splitOn_join_lines (List.forall_mem_map.2 (fun f _ => f.oneLine_document)),
    List.map_map]
  rfl

theorem count_text_jsonListing (fs : List ScannedFile) :
    (jsonListing fs).text.toList.count '\n' = fs.length := by
  induction fs with
  | nil => rfl
  | cons f fs ih =>
    rw [toList_text_jsonListing_cons, text_value, List.count_append, List.count_cons_self, ih,
      List.count_eq_zero_of_not_mem f.oneLine_document, Nat.zero_add, List.length_cons]

/-- **Listings are told apart**: equal listings are of files with equal values. -/
theorem text_jsonListing_inj {fs gs : List ScannedFile} :
    (jsonListing fs).text = (jsonListing gs).text ↔ fs.map value = gs.map value := by
  refine ⟨fun h => ?_, fun h => by rw [text_jsonListing, text_jsonListing, h]⟩
  rw [← String.toList_inj] at h
  induction fs generalizing gs with
  | nil =>
    cases gs with
    | nil => rfl
    | cons g gs =>
      rw [toList_text_jsonListing_nil, toList_text_jsonListing_cons] at h
      exact absurd h.symm (by simp)
  | cons f fs ih =>
    cases gs with
    | nil =>
      rw [toList_text_jsonListing_nil, toList_text_jsonListing_cons] at h
      exact absurd h (by simp)
    | cons g gs =>
      rw [toList_text_jsonListing_cons, toList_text_jsonListing_cons] at h
      -- behind a document stands a line feed, which is no digit
      obtain ⟨hvalue, hrest⟩ := Value.told_text f.value g.value _ _ (noDigit_cons (by decide) _)
        (noDigit_cons (by decide) _) h
      rw [List.map_cons, List.map_cons, hvalue, ih (List.tail_eq_of_cons_eq hrest)]

/-- **A JSON listing loses nothing.** Cut at its line feeds, of which there is one for
each file, a listing is the documents of the files in order, each with its line feed
behind it. And two listings are equal exactly if they are of equally many files, which
agree one by one in their names, their tokens and their diagnostics. -/
theorem jsonListing_lossless :
    (∀ fs : List ScannedFile,
        (jsonListing fs).text.toList.splitOn '\n' = fs.map (fun f => f.document.toList) ++ [[]]
          ∧ (jsonListing fs).text.toList.count '\n' = fs.length)
      ∧ ∀ fs gs : List ScannedFile,
        (jsonListing fs).text = (jsonListing gs).text
          ↔ List.Forall₂ (fun f g => f.file = g.file ∧ f.tokens = g.tokens
            ∧ f.diagnostics = g.diagnostics) fs gs := by
  refine ⟨fun fs => ⟨splitOn_text_jsonListing fs, count_text_jsonListing fs⟩, fun fs gs => ?_⟩
  rw [text_jsonListing_inj, ← List.forall₂_eq_eq_eq, List.forall₂_map_left_iff,
    List.forall₂_map_right_iff]
  simp only [value_eq_iff]

end ScannedFile

end ScriptLexer

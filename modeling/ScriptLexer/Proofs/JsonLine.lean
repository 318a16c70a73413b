import Mathlib.Tactic.SplitIfs
import ScriptLexer.ScannedFile.Listing

/-!
# A document is one line

A JSON listing writes one document to a line, and a reader that takes it line
by line relies on more than the line feed behind each document: no document may
have one of its own. Whatever a file is called, and whatever stands in its
tokens and diagnostics, ends up inside a string, and a string escapes every line
feed (`Json.oneLine_string`). The rest of a document is digits and punctuation.

Being one line passes through each way of putting JSON text together, so the
statement about documents (`ScannedFile.oneLine_document`) follows the shape of
the record and nothing else.
-/

namespace ScriptLexer

/-- **A text of one line**: one that has no line feed. -/
def OneLine (s : String) : Prop :=
  '\n' ∉ s.toList

instance : DecidablePred OneLine :=
  fun s => inferInstanceAs (Decidable ('\n' ∉ s.toList))

theorem OneLine.append {s t : String} (hs : OneLine s) (ht : OneLine t) : OneLine (s ++ t) := by
  rw [OneLine, String.toList_append, List.mem_append, not_or]
  exact ⟨hs, ht⟩

/-- In bytes, one line is a text whose encoding has no byte 10. -/
theorem OneLine.not_mem_encode {s : String} (h : OneLine s) : 10 ∉ encode s :=
  mt lineFeed_mem_encodeChars_iff.1 h

/-- **Lines are found again**: lines that are written with a line feed behind each are
the pieces between the line feeds, and behind the last of these is nothing. -/
theorem splitOn_join_lines {lines : List String} (h : ∀ s ∈ lines, OneLine s) :
    (String.join (lines.map (· ++ "\n"))).toList.splitOn '\n'
      = lines.map String.toList ++ [[]] := by
  induction lines with
  | nil => rfl
  | cons s lines ih =>
    have hcons : (String.join ((s :: lines).map (· ++ "\n"))).toList
        = s.toList ++ '\n' :: (String.join (lines.map (· ++ "\n"))).toList := by
      rw [List.map_cons, String.join_cons, String.toList_append, String.toList_append,
        List.append_assoc]
      rfl
    rw [hcons, List.splitOn_append_cons_self_of_not_mem (h s List.mem_cons_self),
      ih (fun t ht => h t (List.mem_cons_of_mem s ht))]
    rfl

namespace Json

/-! ## The parts of JSON text -/

/-- No hexadecimal digit is a line feed. -/
theorem hexDigit_ne_lineFeed : ∀ n < 16, hexDigit n ≠ '\n' := by
  decide

/-- **Escaping leaves no line feed.** The line feed itself is written with a
letter, and the other control characters by their digits. -/
theorem lineFeed_not_mem_escapeChar (c : Char) : '\n' ∉ escapeChar c := by
  unfold escapeChar
  split_ifs with hquote hbackslash hback htab hfeed hform hreturn hcontrol
  · decide
  · decide
  · decide
  · decide
  · decide
  · decide
  · decide
  · have hhigh := (hexDigit_ne_lineFeed (c.toNat / 16) (by omega)).symm
    have hlow := (hexDigit_ne_lineFeed (c.toNat % 16) (by omega)).symm
    simp [hhigh, hlow]
  · rw [List.mem_singleton]
    exact fun h => hfeed h.symm

theorem oneLine_string (s : String) : OneLine (string s) := by
  have hnot : '\n' ∉ s.toList.flatMap escapeChar := by
    intro h
    obtain ⟨c, _, hc⟩ := List.mem_flatMap.1 h
    exact lineFeed_not_mem_escapeChar c hc
  rw [OneLine, string, String.toList_ofList]
  simp [hnot]

theorem oneLine_number (n : Nat) : OneLine (number n) := by
  rw [OneLine, number, String.toList_ofList]
  intro h
  have hdigit := Nat.isDigit_of_mem_toDigits (by decide) (by decide) h
  exact absurd hdigit (by decide)

theorem oneLine_commaSeparated {values : List String} (h : ∀ v ∈ values, OneLine v) :
    OneLine (commaSeparated values) := by
  induction values with
  | nil => decide
  | cons v values ih =>
    have hv : OneLine v := h v List.mem_cons_self
    cases values with
    | nil => exact hv
    | cons w values =>
      have hrest := ih (fun u hu => h u (List.mem_cons_of_mem v hu))
      exact (hv.append (by decide)).append hrest

theorem oneLine_array {values : List String} (h : ∀ v ∈ values, OneLine v) :
    OneLine (array values) :=
  (OneLine.append (by decide) (oneLine_commaSeparated h)).append (by decide)

theorem oneLine_object {fields : List String} (h : ∀ v ∈ fields, OneLine v) :
    OneLine (object fields) :=
  (OneLine.append (by decide) (oneLine_commaSeparated h)).append (by decide)

theorem oneLine_field (name : String) {value : String} (h : OneLine value) :
    OneLine (field name value) :=
  ((oneLine_string name).append (by decide)).append h

end Json

/-! ## The records of a document -/

open Json

theorem Token.oneLine_json (t : Token) : OneLine t.json := by
  refine oneLine_object (List.forall_mem_cons.2 ⟨?_, List.forall_mem_singleton.2 ?_⟩)
  · exact oneLine_field _ (oneLine_string _)
  · exact oneLine_field _ (oneLine_string _)

theorem Span.oneLine_json (s : Span) : OneLine s.json := by
  refine oneLine_object (List.forall_mem_cons.2 ⟨?_, List.forall_mem_singleton.2 ?_⟩)
  · exact oneLine_field _ (oneLine_number _)
  · exact oneLine_field _ (oneLine_number _)

theorem Diagnostic.oneLine_json (d : Diagnostic) : OneLine d.json := by
  refine oneLine_object (fun v hv => ?_)
  rw [List.mem_append, List.mem_append, Option.mem_toList, Option.mem_toList] at hv
  obtain (hfile | hspan) | hrest := hv
  · obtain ⟨f, _, rfl⟩ := Option.map_eq_some_iff.1 hfile
    exact oneLine_field _ (oneLine_string f)
  · obtain ⟨s, _, rfl⟩ := Option.map_eq_some_iff.1 hspan
    exact oneLine_field _ s.oneLine_json
  · simp only [List.mem_cons, List.not_mem_nil, or_false] at hrest
    obtain rfl | rfl | rfl := hrest
    · exact oneLine_field _ (oneLine_string _)
    · exact oneLine_field _ (oneLine_number _)
    · exact oneLine_field _ (oneLine_string _)

/-- **A document is one line.** -/
theorem ScannedFile.oneLine_document (f : ScannedFile) : OneLine f.document := by
  refine oneLine_object (fun v hv => ?_)
  simp only [List.mem_cons, List.not_mem_nil, or_false] at hv
  obtain rfl | rfl | rfl := hv
  · exact oneLine_field _ (oneLine_string _)
  · exact oneLine_field _ (oneLine_array (List.forall_mem_map.2 (fun t _ => t.oneLine_json)))
  · exact oneLine_field _ (oneLine_array (List.forall_mem_map.2 (fun d _ => d.oneLine_json)))

end ScriptLexer

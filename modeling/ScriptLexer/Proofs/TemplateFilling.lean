import Mathlib.Data.List.Induction
import ScriptLexer.Diagnostic.Template

/-!
# Filling a template in at once

A template is filled in argument by argument, and every argument goes over the whole
of the text, with what the arguments before it have put there. So it could replace
what it is not to replace: a placeholder that came with an argument, or one that is
half in an argument and half behind it.

It does not if no argument has a brace, and the template has none but those around
its placeholders, whatever stands between these – `1`, `10`, `01` or a word. The text
is then a template of the same form after each argument
(`Template.fillFrom_flatMap_chars`), and in the end each placeholder whose name is the
numeral of an index has become the argument with that index, as if they had all been
replaced in one pass from left to right (`Template.format_write`).
-/

namespace ScriptLexer

namespace Template

/-! ## Templates in parts -/

/-- **A plain text**: one without braces. -/
structure Plain where
  /-- The text. -/
  text : String
  /-- Neither brace is in it. -/
  braceless : '{' ∉ text.toList ∧ '}' ∉ text.toList

/-- **A part of a template**. -/
inductive Part where
  /-- A stretch of text. -/
  | text (t : Plain)
  /-- A placeholder, by what stands between its braces. -/
  | slot (name : Plain)

namespace Part

/-- The characters of a part. -/
def chars : Part → List Char
  | text t => t.text.toList
  | slot name => '{' :: (name.text.toList ++ ['}'])

@[simp] theorem chars_text (t : Plain) : (text t).chars = t.text.toList := rfl

@[simp] theorem chars_slot (name : Plain) :
    (slot name).chars = '{' :: (name.text.toList ++ ['}']) := rfl

end Part

/-- **The text of a template** that is given in parts. -/
def write (ps : List Part) : String :=
  String.ofList (ps.flatMap Part.chars)

/-! ## One pass -/

/-- The number that a text is the plain numeral of, if it is one: read as a number and
written again, it is the same text. -/
def numeral? (s : String) : Option Nat :=
  let n := Nat.ofDigitChars 10 s.toList 0
  if toString n = s then some n else none

/-- The argument whose index has the name as its numeral. -/
def argument? (arguments : List Plain) (name : Plain) : Option Plain :=
  (numeral? name.text).bind (arguments[·]?)

/-- **A part with its argument put in**: a placeholder for an argument becomes the
argument, and everything else stays as it is. -/
def Part.resolve (arguments : List Plain) : Part → Part
  | text t => text t
  | slot name =>
    match argument? arguments name with
    | some a => text a
    | none => slot name

theorem numeral?_eq_some_iff {s : String} {n : Nat} : numeral? s = some n ↔ s = toString n := by
  unfold numeral?
  simp only [Option.ite_none_right_eq_some, Option.some_inj]
  constructor
  · rintro ⟨hs, rfl⟩
    exact hs.symm
  · rintro rfl
    simp [Nat.ofDigitChars_ten_toDigits]

/-- **Which argument is meant.** -/
theorem argument?_eq_some_iff {arguments : List Plain} {name a : Plain} :
    argument? arguments name = some a
      ↔ ∃ i : Nat, name.text = toString i ∧ arguments[i]? = some a := by
  simp [argument?, Option.bind_eq_some_iff, numeral?_eq_some_iff]

/-! ## One argument -/

/-- A part with one argument put in, which has index `i`. -/
def Part.put (i : Nat) (a : Plain) : Part → Part
  | text t => text t
  | slot name => if name.text = toString i then text a else slot name

/-- **Another placeholder is passed over.** Where it begins there is no placeholder for the
argument, because the first brace that closes one is its own. -/
theorem fill_slot_of_ne {i : Nat} {name : Plain} (h : name.text ≠ toString i)
    (a rest : List Char) :
    fill i a ((Part.slot name).chars ++ rest) = (Part.slot name).chars ++ fill i a rest := by
  have hother : ¬ ('{' = '{'
      ∧ (Nat.toDigits 10 i ++ ['}']).isPrefixOf (name.text.toList ++ ['}'] ++ rest)) := by
    rintro ⟨-, hprefix⟩
    obtain ⟨more, hmore⟩ := List.isPrefixOf_iff_prefix.1 hprefix
    rw [← List.append_cons, ← List.append_cons] at hmore
    have hdigits : '}' ∉ Nat.toDigits 10 i := by
      intro hbrace
      exact absurd (Nat.isDigit_of_mem_toDigits (by decide) (by decide) hbrace) (by decide)
    have hpieces := congrArg (List.splitOn '}') hmore
    rw [List.splitOn_append_cons_self_of_not_mem hdigits,
      List.splitOn_append_cons_self_of_not_mem name.braceless.2] at hpieces
    refine h (String.toList_injective ?_)
    rw [Nat.toString_eq_ofList_toDigits, String.toList_ofList]
    exact (List.cons.inj hpieces).1.symm
  have hopen : '{' ∉ name.text.toList ++ ['}'] := by
    simpa using name.braceless.1
  show fill i a ('{' :: (name.text.toList ++ ['}'] ++ rest)) = _
  rw [fill, replaceAll, if_neg hother, replaceAll_append_of_not_mem _ _ hopen]
  rfl

/-- **An argument is put into one part.** -/
theorem fill_chars_append (i : Nat) (a : Plain) (p : Part) (rest : List Char) :
    fill i a.text.toList (p.chars ++ rest) = (p.put i a).chars ++ fill i a.text.toList rest := by
  cases p with
  | text t => exact replaceAll_append_of_not_mem _ _ t.braceless.1 rest
  | slot name =>
    by_cases h : name.text = toString i
    · have hname : name.text.toList = Nat.toDigits 10 i := by
        rw [h, Nat.toString_eq_ofList_toDigits, String.toList_ofList]
      rw [Part.put, if_pos h, Part.chars_slot, hname]
      exact replaceAll_pattern_append _ _ _ rest
    · rw [Part.put, if_neg h]
      exact fill_slot_of_ne h _ rest

/-- **An argument is put into every part.** -/
theorem fill_flatMap_chars (i : Nat) (a : Plain) (ps : List Part) :
    fill i a.text.toList (ps.flatMap Part.chars) = (ps.map (Part.put i a)).flatMap Part.chars := by
  induction ps with
  | nil => simp [fill, replaceAll]
  | cons p ps ih =>
    rw [List.flatMap_cons, fill_chars_append, ih, List.map_cons, List.flatMap_cons]

/-! ## All arguments -/

/-- Arguments are filled in one behind the other. -/
theorem fillFrom_append (i : Nat) (as bs : List (List Char)) (cs : List Char) :
    fillFrom i (as ++ bs) cs = fillFrom (i + as.length) bs (fillFrom i as cs) := by
  induction as generalizing i cs with
  | nil => rfl
  | cons a as ih =>
    rw [List.cons_append, fillFrom, ih, fillFrom, List.length_cons, Nat.add_right_comm,
      Nat.add_assoc]

/-- One more argument is meant by its own numeral and by nothing else. -/
theorem argument?_append_singleton (arguments : List Plain) (a name : Plain) :
    argument? (arguments ++ [a]) name
      = if name.text = toString arguments.length then some a else argument? arguments name := by
  split_ifs with h
  · exact argument?_eq_some_iff.2 ⟨_, h, List.getElem?_concat_length⟩
  · unfold argument?
    cases hn : numeral? name.text with
    | none => rfl
    | some i =>
      have hi : i ≠ arguments.length := fun hi => h (hi ▸ numeral?_eq_some_iff.1 hn)
      show (arguments ++ [a])[i]? = arguments[i]?
      obtain hlt | hgt := Nat.lt_or_gt_of_ne hi
      · exact List.getElem?_append_left hlt
      · rw [List.getElem?_eq_none (Nat.le_of_lt hgt), List.getElem?_eq_none]
        rw [List.length_append, List.length_singleton]
        exact hgt

/-- No argument is meant by the numeral of an index behind the last one. -/
theorem argument?_eq_none {arguments : List Plain} {name : Plain}
    (h : name.text = toString arguments.length) : argument? arguments name = none := by
  rw [argument?, numeral?_eq_some_iff.2 h]
  exact List.getElem?_eq_none (Nat.le_refl _)

/-- Without arguments a part stays as it is. -/
theorem Part.resolve_nil (p : Part) : p.resolve [] = p := by
  cases p with
  | text t => rfl
  | slot name =>
    have hnone : argument? [] name = none := by simp [argument?]
    rw [resolve, hnone]

/-- **The next argument** is put into the parts that the arguments before it have left. -/
theorem Part.put_resolve (arguments : List Plain) (a : Plain) (p : Part) :
    (p.resolve arguments).put arguments.length a = p.resolve (arguments ++ [a]) := by
  cases p with
  | text t => rfl
  | slot name =>
    rw [resolve, resolve, argument?_append_singleton]
    by_cases h : name.text = toString arguments.length
    · rw [argument?_eq_none h, if_pos h]
      exact if_pos h
    · rw [if_neg h]
      cases argument? arguments name with
      | none => exact if_neg h
      | some b => rfl

/-- **After some arguments the text is a template in parts again**: the same parts, with
these arguments put in. -/
theorem fillFrom_flatMap_chars (arguments : List Plain) (ps : List Part) :
    fillFrom 0 (arguments.map (fun a => a.text.toList)) (ps.flatMap Part.chars)
      = (ps.map (Part.resolve arguments)).flatMap Part.chars := by
  induction arguments using List.reverseRecOn with
  | nil =>
    have hid : ps.map (Part.resolve []) = ps := List.map_id'' Part.resolve_nil ps
    rw [hid]
    rfl
  | append_singleton arguments a ih =>
    rw [List.map_append, fillFrom_append, ih, Nat.zero_add, List.length_map, List.map_singleton,
      fillFrom, fillFrom, fill_flatMap_chars, List.map_map]
    exact congrArg (List.flatMap Part.chars)
      (List.map_congr_left fun p _ => p.put_resolve arguments a)

/-- **Filling in argument by argument is filling in at once.** For templates in parts and
arguments without braces, what comes out is the template with each placeholder for an
argument replaced by it, in one pass over the parts. A placeholder is for the argument
with the index that its name is the numeral of. -/
theorem format_write :
    (∀ (ps : List Part) (arguments : List Plain),
        format (write ps) (arguments.map Plain.text) = write (ps.map (Part.resolve arguments)))
      ∧ ∀ (arguments : List Plain) (name a : Plain),
        argument? arguments name = some a
          ↔ ∃ i : Nat, name.text = toString i ∧ arguments[i]? = some a := by
  refine ⟨fun ps arguments => ?_, fun _ _ _ => argument?_eq_some_iff⟩
  rw [format, write, String.toList_ofList, List.map_map]
  exact congrArg String.ofList (fillFrom_flatMap_chars arguments ps)

/-- With two arguments `{1}` is for the second, `{10}` for none, and `{01}`, which is no
numeral of an index, for none either. -/
theorem format_write_numerals :
    let ps : List Part := [.slot ⟨"1", by decide⟩, .text ⟨" and ", by decide⟩,
      .slot ⟨"10", by decide⟩, .slot ⟨"01", by decide⟩]
    write ps = "{1} and {10}{01}"
      ∧ format "{1} and {10}{01}" ["a", "b"] = "b and {10}{01}" := by
  intro ps
  have hwrite : write ps = "{1} and {10}{01}" := by decide
  have hformat := format_write.1 ps [⟨"a", by decide⟩, ⟨"b", by decide⟩]
  have hresolve : write (ps.map (Part.resolve [⟨"a", by decide⟩, ⟨"b", by decide⟩]))
      = "b and {10}{01}" := by decide
  rw [hwrite, hresolve] at hformat
  exact ⟨hwrite, hformat⟩

-- a placeholder that comes with an argument is filled in, too
example : format "{0}" ["{1}", "x"] = "x" := by cbv

end Template

end ScriptLexer

import Mathlib.Data.List.TakeWhile
import Mathlib.Tactic.SplitIfs
import ScriptLexer.Json.Record

/-!
# JSON text tells its value

JSON text is written without spaces, and one value stands behind another with a comma
between them at most. It can still be read in one way only. What makes it so is not
that the text of one value never begins with that of another – the number 12 begins
with the number 1 – but that a value is never followed by a digit. A value is **told**
by its text (`Told`) if, under this condition, a text that begins with it says which
value that is and what stands behind it.

Being told passes from the parts to the whole. A string is told because one escaped
character can be read off the front of a text, whatever follows
(`unescape_escapeChar`); members between brackets are told because a comma or the
closing bracket is behind each of them (`cancel_commaSeparated`); and so, by induction
over the value, all values are (`Value.told_text`).
-/

namespace ScriptLexer

namespace Json

/-! ## Values -/

/-- **A JSON value**, of the sorts that are written. -/
inductive Value where
  | string (s : String)
  | number (n : Nat)
  | array (values : List Value)
  /-- An object, from its fields by name. -/
  | object (fields : List (String × Value))

/-- The text of a value. -/
def Value.text : Value → String
  | string s => Json.string s
  | number n => Json.number n
  | array values => Json.array (values.map (fun v => v.text))
  | object fields => Json.object (fields.map (fun f => field f.1 f.2.text))
termination_by v => sizeOf v
decreasing_by
  · decreasing_tactic
  · rename_i hf
    have hfield := List.sizeOf_lt_of_mem hf
    have hvalue : sizeOf f = 1 + sizeOf f.1 + sizeOf f.2 := by cases f; rfl
    rw [object.sizeOf_spec]
    omega

/-! ## Telling texts apart -/

/-- A text that does not go on with a digit. -/
def NoDigit (r : List Char) : Prop :=
  ∀ c ∈ r.head?, c.isDigit = false

/-- **Told by its text**: whatever follows the text of a value, a digit apart, both the
value and what follows can be told. -/
def Told {α : Type} (write : α → String) (a : α) : Prop :=
  ∀ b r s, NoDigit r → NoDigit s →
    (write a).toList ++ r = (write b).toList ++ s → a = b ∧ r = s

theorem noDigit_cons {c : Char} (h : c.isDigit = false) (r : List Char) : NoDigit (c :: r) := by
  intro d hd
  rw [List.head?_cons, Option.mem_some_iff] at hd
  exact hd ▸ h

/-! ## Numbers -/

/-- The digits that a text with a number in front begins with are those of the
number. -/
theorem takeWhile_isDigit_number (n : Nat) {r : List Char} (hr : NoDigit r) :
    ((number n).toList ++ r).takeWhile Char.isDigit = Nat.toDigits 10 n := by
  have hall : ∀ c ∈ Nat.toDigits 10 n, c.isDigit = true :=
    fun c hc => Nat.isDigit_of_mem_toDigits (by decide) (by decide) hc
  have hnone : r.takeWhile Char.isDigit = [] := by
    cases r with
    | nil => rfl
    | cons c r => exact List.takeWhile_cons_of_neg (by simp [hr c rfl])
  rw [number, String.toList_ofList, List.takeWhile_append_of_pos hall, hnone, List.append_nil]

/-- **A number ends where its digits do.** -/
theorem told_number (a : Nat) : Told number a := by
  intro b r s hr hs h
  have hdigits : Nat.toDigits 10 a = Nat.toDigits 10 b := by
    rw [← takeWhile_isDigit_number a hr, h, takeWhile_isDigit_number b hs]
  have hab : a = b := by
    rw [← Nat.ofDigitChars_toDigits (b := 10) (n := a) (by decide) (by decide), hdigits,
      Nat.ofDigitChars_toDigits (by decide) (by decide)]
  subst hab
  exact ⟨rfl, List.append_cancel_left h⟩

/-! ## Strings -/

/-- The value of a hexadecimal digit. -/
def hexValue (c : Char) : Nat :=
  (List.range 16).findIdx (fun n => hexDigit n == c)

theorem hexValue_hexDigit : ∀ n < 16, hexValue (hexDigit n) = n := by
  decide

/-- **Reading an escaped character** off the front of a text. -/
def unescape : List Char → Option (Char × List Char)
  | '\\' :: 'b' :: r => some ('\x08', r)
  | '\\' :: 't' :: r => some ('\t', r)
  | '\\' :: 'n' :: r => some ('\n', r)
  | '\\' :: 'f' :: r => some ('\x0c', r)
  | '\\' :: 'r' :: r => some ('\r', r)
  | '\\' :: 'u' :: '0' :: '0' :: high :: low :: r =>
    some (Char.ofNat (16 * hexValue high + hexValue low), r)
  | '\\' :: c :: r => some (c, r)
  | c :: r => some (c, r)
  | [] => none

/-- It reads what escaping writes, whatever follows. -/
theorem unescape_escapeChar (c : Char) (r : List Char) :
    unescape (escapeChar c ++ r) = some (c, r) := by
  unfold escapeChar
  split_ifs with hquote hbackslash hback htab hfeed hform hreturn hcontrol
  · rw [hquote]; rfl
  · rw [hbackslash]; rfl
  · rw [hback]; rfl
  · rw [htab]; rfl
  · rw [hfeed]; rfl
  · rw [hform]; rfl
  · rw [hreturn]; rfl
  · have hcode : 16 * hexValue (hexDigit (c.toNat / 16)) + hexValue (hexDigit (c.toNat % 16))
        = c.toNat := by
      rw [hexValue_hexDigit _ (by omega), hexValue_hexDigit _ (by omega), Nat.div_add_mod]
    show some (Char.ofNat _, r) = _
    rw [hcode, Char.ofNat_toNat]
  · simp [unescape, hbackslash]

/-- An escaped character does not begin with a quote. -/
theorem head_escapeChar_ne_quote (c : Char) (r : List Char) :
    (escapeChar c ++ r).head? ≠ some '"' := by
  unfold escapeChar
  split_ifs with hquote
  any_goals simp
  exact hquote

/-- What is escaped between two quotes can be told. -/
theorem cancel_escaped (cs ds r s : List Char)
    (h : cs.flatMap escapeChar ++ '"' :: r = ds.flatMap escapeChar ++ '"' :: s) :
    cs = ds ∧ r = s := by
  induction cs generalizing ds with
  | nil =>
    cases ds with
    | nil => exact ⟨rfl, List.tail_eq_of_cons_eq h⟩
    | cons d ds =>
      rw [List.flatMap_cons, List.append_assoc] at h
      exact absurd (congrArg List.head? h).symm (head_escapeChar_ne_quote d _)
  | cons c cs ih =>
    cases ds with
    | nil =>
      rw [List.flatMap_cons, List.append_assoc] at h
      exact absurd (congrArg List.head? h) (head_escapeChar_ne_quote c _)
    | cons d ds =>
      rw [List.flatMap_cons, List.flatMap_cons, List.append_assoc, List.append_assoc] at h
      have hread := congrArg unescape h
      rw [unescape_escapeChar, unescape_escapeChar, Option.some_inj, Prod.mk.injEq] at hread
      obtain ⟨rfl, hrest⟩ := hread
      obtain ⟨rfl, hrs⟩ := ih ds hrest
      exact ⟨rfl, hrs⟩

/-- A string is its escaped characters between quotes. -/
theorem toList_string_append (s : String) (r : List Char) :
    (string s).toList ++ r = '"' :: (s.toList.flatMap escapeChar ++ '"' :: r) := by
  rw [string, String.toList_ofList, List.append_assoc, List.cons_append, List.singleton_append]

/-- **A string ends at its first quote that is not escaped.** -/
theorem told_string (a : String) : Told string a := by
  intro b r s _ _ h
  rw [toList_string_append, toList_string_append] at h
  obtain ⟨hab, hrs⟩ := cancel_escaped _ _ _ _ (List.tail_eq_of_cons_eq h)
  exact ⟨String.toList_injective hab, hrs⟩

/-! ## Members -/

/-- What is written behind the first of several values is a comma and a value, over
and over. -/
theorem toList_commaSeparated_cons (v : String) (vs : List String) :
    (commaSeparated (v :: vs)).toList = v.toList ++ vs.flatMap (fun w => ',' :: w.toList) := by
  induction vs generalizing v with
  | nil => exact (List.append_nil _).symm
  | cons w vs ih =>
    rw [commaSeparated, String.toList_append, String.toList_append, ih, List.flatMap_cons,
      List.append_assoc]
    rfl

section Members

variable {α : Type} {write : α → String} {close : Char} {as bs : List α} {r s : List Char}

/-- What follows a member is a comma or the bracket that closes. -/
theorem noDigit_members (hclose : close.isDigit = false) :
    NoDigit (as.flatMap (fun a => ',' :: (write a).toList) ++ close :: r) := by
  cases as with
  | nil => exact noDigit_cons hclose r
  | cons a as => exact noDigit_cons (by decide) _

/-- **Members end where the bracket closes**: the members behind the first can be
told, if each of them can. -/
theorem cancel_members (hclose : close.isDigit = false) (hcomma : close ≠ ',')
    (hwrite : ∀ a ∈ as, Told write a)
    (h : as.flatMap (fun a => ',' :: (write a).toList) ++ close :: r
      = bs.flatMap (fun b => ',' :: (write b).toList) ++ close :: s) :
    as = bs ∧ r = s := by
  induction as generalizing bs with
  | nil =>
    cases bs with
    | nil => exact ⟨rfl, List.tail_eq_of_cons_eq h⟩
    | cons b bs => exact absurd (List.head_eq_of_cons_eq h) hcomma
  | cons a as ih =>
    cases bs with
    | nil => exact absurd (List.head_eq_of_cons_eq h).symm hcomma
    | cons b bs =>
      rw [List.flatMap_cons, List.flatMap_cons, List.cons_append, List.cons_append,
        List.cons_append, List.cons_append, List.append_assoc, List.append_assoc] at h
      obtain ⟨rfl, hrest⟩ := hwrite a List.mem_cons_self b _ _ (noDigit_members hclose)
        (noDigit_members hclose) (List.tail_eq_of_cons_eq h)
      obtain ⟨rfl, hrs⟩ := ih (fun a' ha' => hwrite a' (List.mem_cons_of_mem a ha')) hrest
      exact ⟨rfl, hrs⟩

/-- **So can all members between two brackets**, as no member begins with the one that
closes. -/
theorem cancel_commaSeparated (hclose : close.isDigit = false) (hcomma : close ≠ ',')
    (hstart : ∀ a r, ((write a).toList ++ r).head? ≠ some close)
    (hwrite : ∀ a ∈ as, Told write a)
    (h : (commaSeparated (as.map write)).toList ++ close :: r
      = (commaSeparated (bs.map write)).toList ++ close :: s) :
    as = bs ∧ r = s := by
  cases as with
  | nil =>
    cases bs with
    | nil => exact ⟨rfl, List.tail_eq_of_cons_eq h⟩
    | cons b bs =>
      rw [List.map_cons, toList_commaSeparated_cons, List.append_assoc] at h
      exact absurd (congrArg List.head? h).symm (hstart b _)
  | cons a as =>
    cases bs with
    | nil =>
      rw [List.map_cons, toList_commaSeparated_cons, List.append_assoc] at h
      exact absurd (congrArg List.head? h) (hstart a _)
    | cons b bs =>
      rw [List.map_cons, List.map_cons, toList_commaSeparated_cons, toList_commaSeparated_cons,
        List.flatMap_map, List.flatMap_map, List.append_assoc, List.append_assoc] at h
      obtain ⟨rfl, hrest⟩ := hwrite a List.mem_cons_self b _ _ (noDigit_members hclose)
        (noDigit_members hclose) h
      obtain ⟨rfl, hrs⟩ := cancel_members hclose hcomma
        (fun a' ha' => hwrite a' (List.mem_cons_of_mem a ha')) hrest
      exact ⟨rfl, hrs⟩

end Members

/-! ## All values -/

namespace Value

/-- What is written for a field of an object. -/
def member (f : String × Value) : String :=
  field f.1 f.2.text

theorem toList_array_append (values : List Value) (r : List Char) :
    (array values).text.toList ++ r
      = '[' :: ((commaSeparated (values.map text)).toList ++ ']' :: r) := by
  rw [text, Json.array, String.toList_append, String.toList_append, List.append_assoc]
  rfl

theorem toList_object_append (fields : List (String × Value)) (r : List Char) :
    (object fields).text.toList ++ r
      = '{' :: ((commaSeparated (fields.map member)).toList ++ '}' :: r) := by
  rw [text, Json.object, String.toList_append, String.toList_append, List.append_assoc]
  rfl

theorem toList_member_append (f : String × Value) (r : List Char) :
    (member f).toList ++ r = (Json.string f.1).toList ++ ':' :: (f.2.text.toList ++ r) := by
  rw [member, field, String.toList_append, String.toList_append, List.append_assoc,
    List.append_assoc]
  rfl

/-- What the first character of a text is a sign of. One digit stands for all. -/
def sign (c : Char) : Char :=
  if c.isDigit then '0' else c

/-- The sign of the values of each sort. -/
def opening : Value → Char
  | string _ => '"'
  | number _ => '0'
  | array _ => '['
  | object _ => '{'

/-- **The sort of a value shows in the first character** of its text. -/
theorem head?_text (v : Value) (r : List Char) :
    (v.text.toList ++ r).head?.map sign = some v.opening := by
  cases v with
  | string s => rw [text, toList_string_append]; rfl
  | number n =>
    obtain ⟨c, cs, hcs⟩ := List.exists_cons_of_ne_nil (Nat.toDigits_ne_nil (n := n) (b := 10))
    have hc : c.isDigit = true :=
      Nat.isDigit_of_mem_toDigits (by decide) (by decide) (hcs ▸ List.mem_cons_self)
    rw [text, Json.number, String.toList_ofList, hcs, List.cons_append, List.head?_cons,
      Option.map_some, sign, if_pos hc, opening]
  | array values => rw [toList_array_append]; rfl
  | object fields => rw [toList_object_append]; rfl

/-- A text that begins with two values begins with two of one sort. -/
theorem opening_eq {v w : Value} {r s : List Char}
    (h : v.text.toList ++ r = w.text.toList ++ s) : v.opening = w.opening := by
  rw [← Option.some_inj, ← head?_text v r, ← head?_text w s, h]

theorem head?_text_ne (v : Value) (r : List Char) : (v.text.toList ++ r).head? ≠ some ']' := by
  intro h
  have hopening := head?_text v r
  rw [h] at hopening
  cases v <;> exact absurd hopening (by simp [opening, sign])

theorem head?_member_ne (f : String × Value) (r : List Char) :
    ((member f).toList ++ r).head? ≠ some '}' := by
  rw [toList_member_append, toList_string_append, List.head?_cons]
  simp

/-- A field is told by its text, if its value is. -/
theorem told_member {f : String × Value} (hvalue : Told text f.2) : Told member f := by
  intro g r s hr hs h
  rw [toList_member_append, toList_member_append] at h
  obtain ⟨hname, hrest⟩ := told_string _ _ _ _ (noDigit_cons (by decide) _)
    (noDigit_cons (by decide) _) h
  obtain ⟨hsame, hrs⟩ := hvalue g.2 r s hr hs (List.tail_eq_of_cons_eq hrest)
  exact ⟨Prod.ext hname hsame, hrs⟩

/-- **A value is told by its text**, and so is what stands behind it. -/
theorem told_text (v : Value) : Told text v := by
  induction v using text.induct with
  | case1 a =>
    intro w r s hr hs h
    have hsort := opening_eq h
    cases w with
    | string b =>
      rw [text, text] at h
      obtain ⟨rfl, hrs⟩ := told_string a b r s hr hs h
      exact ⟨rfl, hrs⟩
    | _ => simp [opening] at hsort
  | case2 a =>
    intro w r s hr hs h
    have hsort := opening_eq h
    cases w with
    | number b =>
      rw [text, text] at h
      obtain ⟨rfl, hrs⟩ := told_number a b r s hr hs h
      exact ⟨rfl, hrs⟩
    | _ => simp [opening] at hsort
  | case3 values ih =>
    intro w r s _ _ h
    have hsort := opening_eq h
    cases w with
    | array others =>
      rw [toList_array_append, toList_array_append] at h
      obtain ⟨rfl, hrs⟩ := cancel_commaSeparated (by decide) (by decide) head?_text_ne ih
        (List.tail_eq_of_cons_eq h)
      exact ⟨rfl, hrs⟩
    | _ => simp [opening] at hsort
  | case4 fields ih =>
    intro w r s _ _ h
    have hsort := opening_eq h
    cases w with
    | object others =>
      rw [toList_object_append, toList_object_append] at h
      obtain ⟨rfl, hrs⟩ := cancel_commaSeparated (by decide) (by decide) head?_member_ne
        (fun f hf => told_member (ih f hf)) (List.tail_eq_of_cons_eq h)
      exact ⟨rfl, hrs⟩
    | _ => simp [opening] at hsort

end Value

end Json

end ScriptLexer

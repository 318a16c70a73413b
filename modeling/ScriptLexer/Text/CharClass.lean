/-!
# Character classes

A script is read one character – one Unicode scalar value – at a time,
and three classes decide how: **letters** make words, **digits** make
numbers, and **blanks** separate. Letters and digits are ASCII only, so
an accented letter is in no class at all; blanks are every character
with the Unicode property `White_Space`, so a no-break space separates
just as a space does.

The three classes are pairwise disjoint, which is what lets the lexer ask
for them in any order.
-/

namespace ScriptLexer

/-- **A letter**: the characters a word is made of – `A`–`Z`, `a`–`z`
and `_`. -/
def isLetter (c : Char) : Bool :=
  ('A' ≤ c && c ≤ 'Z') || ('a' ≤ c && c ≤ 'z') || c == '_'

/-- **A digit**: the characters a number is made of – `0`–`9`. -/
def isDigit (c : Char) : Bool :=
  '0' ≤ c && c ≤ '9'

/-- Whether a character's code point lies in one of some runs, each given by
its first and last code point. -/
def inRuns (runs : List (Nat × Nat)) (c : Char) : Bool :=
  runs.any (fun r => r.1 ≤ c.toNat && c.toNat ≤ r.2)

theorem inRuns_iff {runs : List (Nat × Nat)} {c : Char} :
    inRuns runs c = true ↔ ∃ r ∈ runs, r.1 ≤ c.toNat ∧ c.toNat ≤ r.2 := by
  simp [inRuns]

/-- The first and last code points of each run of characters with the
property `White_Space`, ascending. -/
def blankRuns : List (Nat × Nat) :=
  [(0x9, 0xD), (0x20, 0x20), (0x85, 0x85), (0xA0, 0xA0), (0x1680, 0x1680),
    (0x2000, 0x200A), (0x2028, 0x2029), (0x202F, 0x202F), (0x205F, 0x205F),
    (0x3000, 0x3000)]

/-- **A blank**: a character with the property `White_Space`. -/
def isBlank (c : Char) : Bool :=
  inRuns blankRuns c

/-! ## The classes do not meet -/

theorem isLetter_iff (c : Char) : isLetter c = true ↔
    (65 ≤ c.toNat ∧ c.toNat ≤ 90) ∨ (97 ≤ c.toNat ∧ c.toNat ≤ 122)
      ∨ c.toNat = 95 := by
  have h95 : c = '_' ↔ c.toNat = 95 := by
    rw [← Char.toNat_inj]; rfl
  simp only [isLetter, Bool.or_eq_true, Bool.and_eq_true, decide_eq_true_eq,
    beq_iff_eq, h95, Char.le_def, UInt32.le_iff_toNat_le, or_assoc]
  rfl

theorem isDigit_iff (c : Char) : isDigit c = true ↔ 48 ≤ c.toNat ∧ c.toNat ≤ 57 := by
  simp only [isDigit, Bool.and_eq_true, decide_eq_true_eq, Char.le_def,
    UInt32.le_iff_toNat_le]
  rfl

/-- No digit is a letter. -/
theorem isLetter_eq_false_of_isDigit {c : Char} (h : isDigit c = true) :
    isLetter c = false := by
  rw [isDigit_iff] at h
  rw [Bool.eq_false_iff, Ne, isLetter_iff]
  omega

/-- No run of blanks meets the stretch from the digits to the letters. -/
theorem blankRuns_disjoint : ∀ r ∈ blankRuns,
    r.2 < 48 ∨ 122 < r.1 := by
  decide

/-- No blank is a letter. -/
theorem isLetter_eq_false_of_isBlank {c : Char} (h : isBlank c = true) :
    isLetter c = false := by
  obtain ⟨r, hr, hlo, hhi⟩ := inRuns_iff.1 h
  have hout := blankRuns_disjoint r hr
  rw [Bool.eq_false_iff, Ne, isLetter_iff]
  omega

/-- No blank is a digit. -/
theorem isDigit_eq_false_of_isBlank {c : Char} (h : isBlank c = true) :
    isDigit c = false := by
  obtain ⟨r, hr, hlo, hhi⟩ := inRuns_iff.1 h
  have hout := blankRuns_disjoint r hr
  rw [Bool.eq_false_iff, Ne, isDigit_iff]
  omega

end ScriptLexer

/-!
# Texts as bytes

A text leaves the program, and enters it, as UTF-8 bytes. Encoding is
character by character, so it distributes over concatenation and the
length of an encoding is a sum of character widths; decoding is partial,
because not every sequence of bytes is the encoding of a text.
-/

namespace ScriptLexer

/-- **Bytes**, as they are read from a file or accepted by an output. -/
abbrev Bytes := List UInt8

/-- The UTF-8 encoding of a sequence of characters. -/
def encodeChars (cs : List Char) : Bytes :=
  cs.flatMap String.utf8EncodeChar

/-- The UTF-8 encoding of a text. -/
def encode (s : String) : Bytes :=
  encodeChars s.toList

/-- The text whose UTF-8 encoding is `bytes`, if there is one. -/
def decode? (bytes : Bytes) : Option String :=
  String.fromUTF8? bytes.toByteArray

/-- The number of bytes that encode a sequence of characters. -/
def byteLength : List Char → Nat
  | [] => 0
  | c :: cs => c.utf8Size + byteLength cs

@[simp] theorem encodeChars_nil : encodeChars [] = [] := rfl

@[simp] theorem encodeChars_cons (c : Char) (cs : List Char) :
    encodeChars (c :: cs) = String.utf8EncodeChar c ++ encodeChars cs := rfl

@[simp] theorem encodeChars_append (cs ds : List Char) :
    encodeChars (cs ++ ds) = encodeChars cs ++ encodeChars ds :=
  List.flatMap_append

@[simp] theorem encode_append (s t : String) :
    encode (s ++ t) = encode s ++ encode t := by
  simp [encode]

@[simp] theorem encode_empty : encode "" = [] := by
  simp [encode]

@[simp] theorem byteLength_nil : byteLength [] = 0 := rfl

@[simp] theorem byteLength_cons (c : Char) (cs : List Char) :
    byteLength (c :: cs) = c.utf8Size + byteLength cs := rfl

@[simp] theorem byteLength_append (cs ds : List Char) :
    byteLength (cs ++ ds) = byteLength cs + byteLength ds := by
  induction cs with
  | nil => simp
  | cons c cs ih => simp [ih, Nat.add_assoc]

/-- The byte length is the length of the encoding. -/
@[simp] theorem length_encodeChars (cs : List Char) :
    (encodeChars cs).length = byteLength cs := by
  induction cs with
  | nil => rfl
  | cons c cs ih => simp [ih]

/-! ## Decoding -/

theorem toByteArray_encode (s : String) : (encode s).toByteArray = s.toByteArray := by
  conv => rhs; rw [← String.ofList_toList (s := s), String.toByteArray_ofList]
  rfl

/-- **Decoding undoes encoding**, and decodes nothing else. -/
theorem decode?_eq_some_iff {bytes : Bytes} {s : String} :
    decode? bytes = some s ↔ bytes = encode s := by
  have harrays : bytes = encode s ↔ bytes.toByteArray = s.toByteArray := by
    rw [← toByteArray_encode]
    refine ⟨congrArg List.toByteArray, fun h => ?_⟩
    simpa using congrArg (fun b => b.data.toList) h
  rw [harrays, decode?, String.fromUTF8?]
  split
  · rw [Option.some_inj, ← String.toByteArray_inj]
    rfl
  · rename_i hinvalid
    exact iff_of_false (Option.some_ne_none s).symm (fun h => hinvalid (h ▸ s.isValidUTF8))

@[simp] theorem decode?_encode (s : String) : decode? (encode s) = some s :=
  decode?_eq_some_iff.2 rfl

/-- No two texts have the same encoding. -/
theorem encode_injective : Function.Injective encode := by
  intro s t h
  have hdecode := congrArg decode? h
  rwa [decode?_encode, decode?_encode, Option.some_inj] at hdecode

/-! ## Line feeds -/

theorem ten_eq_ofNat_iff (n : Nat) : (10 : UInt8) = UInt8.ofNat n ↔ n % 256 = 10 := by
  rw [eq_comm, ← UInt8.toNat_inj]
  simp

/-- **Only a line feed has the byte 10 in its encoding.** The bytes of a character
that is encoded in several bytes are all 128 or more. -/
theorem lineFeed_mem_utf8EncodeChar_iff {c : Char} :
    10 ∈ String.utf8EncodeChar c ↔ c = '\n' := by
  have hc : c = '\n' ↔ c.val.toNat = 10 := by
    rw [← Char.toNat_inj]
    rfl
  rw [hc]
  fun_cases String.utf8EncodeChar c <;>
    simp only [List.mem_cons, List.not_mem_nil, or_false, ten_eq_ofNat_iff] <;> omega

/-- So it can be looked for in the characters or in the bytes. -/
theorem lineFeed_mem_encodeChars_iff {cs : List Char} :
    10 ∈ encodeChars cs ↔ '\n' ∈ cs := by
  induction cs with
  | nil => simp
  | cons c cs ih =>
    rw [encodeChars_cons, List.mem_append, lineFeed_mem_utf8EncodeChar_iff, ih, List.mem_cons,
      eq_comm]

end ScriptLexer

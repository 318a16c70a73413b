import ScriptLexer.Proofs.IllegalCharacters
import ScriptLexer.Proofs.LineWalk
import ScriptLexer.ScannedFile.Report

/-!
# Reports of illegal characters

An illegal character of a file is reported in four ways: as a token, as a
diagnostic with a span, in a plain line by line and column, and in a labelled
report by bytes. Each has its place computed in its own way from the index at which
the lexer stood. `ScannedFile.PointsAt` says that all of them are about the same
character, and this is so for every illegal character of every file.

The diagnostics of a scan are in the order of the text already, so sorting them does
nothing (`sort_illegalDiagnostics`), and no sum of positions overflows, because behind
an illegal character there is still a position (`ScannedFile.plainLine_illegal`,
`ScannedFile.labelledOne_illegal`).
-/

namespace ScriptLexer

/-! ## The illegal characters, in order -/

theorem mem_illegalsFrom_iff {cs : List Char} {c : Char} {i : Nat} :
    (c, i) ∈ illegalsFrom 0 cs ↔ cs[i]? = some c ∧ IllegalChar c := by
  rw [illegalsFrom, List.mem_filter, List.mk_mem_zipIdx_iff_getElem?, decide_eq_true_iff]

/-- They are found in the order of their indices. -/
theorem pairwise_illegalsFrom (i : Nat) (cs : List Char) :
    (illegalsFrom i cs).Pairwise (fun p q => p.2 < q.2) := by
  refine List.Pairwise.filter _ (List.pairwise_map.1 ?_)
  rw [List.zipIdx_map_snd]
  exact List.pairwise_lt_range' 1

/-- **The account of a text read to its end.** -/
theorem Lexer.collect_ofText (text : String) :
    (ofText text).collect.2.diagnostics.toList
        = (illegalsFrom 0 text.toList).map illegalDiagnostic
      ∧ illegalLiterals (ofText text).collect.1
        = (illegalsFrom 0 text.toList).map (fun p => String.singleton p.1) := by
  have h := (accounted_ofText text).reads (reads_drain (ofText text))
  have hall : text.toList.take (ofText text).drain.2.position = text.toList :=
    List.take_of_length_le (List.drop_eq_nil_iff.1 (h.stands.rest.symm.trans (rest_drain _)))
  have hdiagnostics := h.diagnostics
  have hliterals := h.literals
  rw [hall] at hdiagnostics hliterals
  exact ⟨hdiagnostics, hliterals⟩

/-! ## Sorting -/

theorem toNat_ofNat_mod {i : Nat} (h : i < UInt32.size) :
    (UInt32.ofNat (i % UInt32.size)).toNat = i := by
  rw [UInt32.ofNat_mod_size]
  exact toNat_toUInt32 h

/-- **Sorting leaves the order of the text.** -/
theorem sort_illegalDiagnostics {cs : List Char} (hlen : cs.length < UInt32.size) :
    ((illegalsFrom 0 cs).map illegalDiagnostic).mergeSort Diagnostic.precedes
      = (illegalsFrom 0 cs).map illegalDiagnostic := by
  refine List.mergeSort_of_pairwise (List.pairwise_map.2 ?_)
  refine (pairwise_illegalsFrom 0 cs).imp_of_mem (fun {p q} hp hq hlt => ?_)
  have hq' : q.2 < cs.length := (List.getElem?_eq_some_iff.1 (mem_illegalsFrom_iff.1 hq).1).1
  -- neither diagnostic has a file, so the starts decide
  show decide (UInt32.ofNat (p.2 % UInt32.size) ≤ UInt32.ofNat (q.2 % UInt32.size)) = true
  rw [decide_eq_true_iff, UInt32.le_iff_toNat_le, toNat_ofNat_mod (by omega),
    toNat_ofNat_mod (by omega)]
  omega

/-! ## The places computed -/

namespace ScannedFile

/-- **The place in a plain line** is where a walk leads, one further. -/
theorem plainPlace_of_lt {text : String} (hlen : text.length < UInt32.size) {s : Span}
    (hs : s.start.toNat < text.length) :
    plainPlace (LineMap.ofText text) (some s)
      = .ok (":" ++ (toString ((walk text.toList s.start.toNat).1 + 1) ++ ":"
        ++ toString ((walk text.toList s.start.toNat).2 + 1))) := by
  obtain ⟨hline, hcolumn⟩ := LineMap.toNat_lineColumn hlen s.start
  have hwalk := walk_le text.toList s.start.toNat
  rw [plainPlace, LineColumn.render_of_lt (by omega) (by omega), hline, hcolumn]
  rfl

/-- **A label** marks the characters of its span, if the span ends at a position. -/
theorem label_of_lt (f : ScannedFile) {s : Span}
    (hs : s.start.toNat + s.length.toNat < UInt32.size) :
    f.label s = .ok ⟨"not a valid character", byteLength (f.source.toList.take s.start.toNat),
      byteLength (f.source.toList.take (s.start.toNat + s.length.toNat))
        - byteLength (f.source.toList.take s.start.toNat)⟩ := by
  have hstop : s.stop = .ok (s.start + s.length) := Position.add_of_lt hs
  rw [label, hstop, ← Position.toNat_of_add_eq_ok hstop]
  rfl

/-! ## The bytes of a stretch -/

theorem take_append_drop_take {cs : List Char} {m n : Nat} (h : m ≤ n) :
    cs.take m ++ (cs.take n).drop m = cs.take n := by
  conv_rhs => rw [← List.take_append_drop m (cs.take n), List.take_take, Nat.min_eq_left h]

/-- **The bytes from one position to another** are those of the characters between. -/
theorem drop_take_encodeChars (cs : List Char) {m n : Nat} (h : m ≤ n) :
    ((encodeChars cs).drop (byteLength (cs.take m))).take
        (byteLength (cs.take n) - byteLength (cs.take m))
      = encodeChars ((cs.take n).drop m) := by
  have hcut : encodeChars cs = encodeChars (cs.take m)
      ++ (encodeChars ((cs.take n).drop m) ++ encodeChars (cs.drop n)) := by
    rw [← List.append_assoc, ← encodeChars_append, ← encodeChars_append,
      take_append_drop_take h, List.take_append_drop]
  have hsize : byteLength (cs.take n) - byteLength (cs.take m)
      = (encodeChars ((cs.take n).drop m)).length := by
    have hbytes : byteLength (cs.take n)
        = byteLength (cs.take m) + byteLength ((cs.take n).drop m) := by
      rw [← byteLength_append, take_append_drop_take h]
    rw [length_encodeChars, hbytes, Nat.add_sub_cancel_left]
  rw [hsize, hcut, ← length_encodeChars, List.drop_left, List.take_left]

/-- A single character between them. -/
theorem byteLength_take_succ_sub {cs : List Char} {c : Char} {i : Nat} (hc : cs[i]? = some c) :
    byteLength (cs.take (i + 1)) - byteLength (cs.take i) = c.utf8Size := by
  rw [List.take_add_one, hc, Option.toList_some, byteLength_append, Nat.add_sub_cancel_left]
  rfl

/-! ## The reports of one character -/

theorem exists_span_illegalDiagnostic (c : Char) {i : Nat} (hi : i < UInt32.size) :
    ∃ s, (illegalDiagnostic (c, i)).span = some s ∧ s.start.toNat = i ∧ s.length.toNat = 1 :=
  ⟨_, rfl, toNat_ofNat_mod hi, rfl⟩

/-- The plain line for a character, by a walk to it. -/
def illegalLine (f : ScannedFile) (p : Char × Nat) : String :=
  f.file ++ ":" ++ toString ((walk f.source.toList p.2).1 + 1) ++ ":"
    ++ toString ((walk f.source.toList p.2).2 + 1)
    ++ ": error LPP1127: Invalid character '" ++ String.singleton p.1 ++ "'."

/-- The labelled report for a character, by the bytes before it. -/
def illegalReport (f : ScannedFile) (p : Char × Nat) : LabelledReport :=
  ⟨"Invalid character '" ++ String.singleton p.1 ++ "'.", "lpp::invalid_character", f.file,
    [⟨"not a valid character", byteLength (f.source.toList.take p.2), p.1.utf8Size⟩]⟩

section OneCharacter

variable {f : ScannedFile} {c : Char} {i : Nat}

theorem plainLine_illegal (hlen : f.source.length < UInt32.size) (hi : i < f.source.length) :
    f.plainLine (LineMap.ofText f.source) ((illegalDiagnostic (c, i)).inFile f.file)
      = .ok (f.illegalLine (c, i)) := by
  obtain ⟨s, hs, hstart, _⟩ := exists_span_illegalDiagnostic c (hi.trans hlen)
  have hspan : ((illegalDiagnostic (c, i)).inFile f.file).span = some s := hs
  have hcode : ": error LPP1127: Invalid character '"
      = ": " ++ "error" ++ " LPP" ++ toString (1127 : UInt32).toNat ++ ": "
        ++ "Invalid character '" := by
    decide
  rw [plainLine, hspan, plainPlace_of_lt hlen (hstart.symm ▸ hi), hstart, illegalLine,
    hcode]
  refine congrArg Except.ok ?_
  simp only [String.append_assoc]
  rfl

theorem labelledOne_illegal (hlen : f.source.length < UInt32.size) (hi : i < f.source.length)
    (hc : f.source.toList[i]? = some c) :
    f.labelledOne ((illegalDiagnostic (c, i)).inFile f.file)
      = .ok (f.illegalReport (c, i)) := by
  obtain ⟨s, hs, hstart, hone⟩ := exists_span_illegalDiagnostic c (hi.trans hlen)
  have hlabel := f.label_of_lt (s := s) (by omega)
  rw [hstart, hone, byteLength_take_succ_sub hc] at hlabel
  have hspan : ((illegalDiagnostic (c, i)).inFile f.file).span = some s := hs
  rw [labelledOne, hspan, labelsOf, hlabel]
  rfl

/-- The bytes that the label marks are those of the character. -/
theorem labelled_bytes {source : String} (hc : source.toList[i]? = some c) :
    ((encode source).drop (byteLength (source.toList.take i))).take c.utf8Size
      = String.utf8EncodeChar c := by
  have hone : (source.toList.take (i + 1)).drop i = [c] := by
    rw [List.take_add_one, hc, Option.toList_some,
      List.drop_left' (List.length_take_of_le (Nat.le_of_lt (List.getElem?_eq_some_iff.1 hc).1))]
  rw [encode, ← byteLength_take_succ_sub hc, drop_take_encodeChars _ (Nat.le_succ i), hone,
    encodeChars_cons, encodeChars_nil, List.append_nil]

end OneCharacter

/-! ## All reports -/

/-- A computation that succeeds on each of some values succeeds on all of them. -/
theorem mapM_map_ok {α β γ ε : Type} {f : β → Except ε γ} {d : α → β} {g : α → γ} {xs : List α}
    (h : ∀ x ∈ xs, f (d x) = .ok (g x)) : (xs.map d).mapM f = .ok (xs.map g) := by
  induction xs with
  | nil => rfl
  | cons x xs ih =>
    rw [List.map_cons, List.mapM_cons, h x List.mem_cons_self,
      ih (fun y hy => h y (List.mem_cons_of_mem x hy))]
    rfl

/-- One of the values on which it fails is enough to make it fail on all, and nothing else
does. -/
theorem exists_mapM_eq_error_iff {α β ε : Type} {f : α → Except ε β} {xs : List α} :
    (∃ e, xs.mapM f = .error e) ↔ ∃ x ∈ xs, ∃ e, f x = .error e := by
  induction xs with
  | nil => simp [pure, Except.pure]
  | cons x xs ih =>
    rw [List.mapM_cons, List.exists_mem_cons_iff, ← ih]
    cases f x with
    | error e => simp [bind, Except.bind]
    | ok y => cases xs.mapM f <;> simp [bind, Except.bind, pure, Except.pure]

/-- **All reports of a character point at it**: at the character with this index.
The diagnostic has the file and the span, the plain line the file and the place – a
line and a column, counted from one, among the pieces of the source between its line
feeds –, and the labelled report the bytes. -/
structure PointsAt (f : ScannedFile) (c : Char) (i : Nat) (d : Diagnostic) (line : String)
    (report : LabelledReport) : Prop where
  /-- The character is there. -/
  char : f.source.toList[i]? = some c
  /-- The diagnostic is about this file. -/
  file : d.file = some f.file
  /-- Its span is the character. -/
  span : ∃ s, d.span = some s ∧ s.start.toNat = i ∧ s.length.toNat = 1
  /-- The plain line gives the line and the column of the character. -/
  plain : ∃ l k piece,
    line = f.file ++ ":" ++ toString (l + 1) ++ ":" ++ toString (k + 1)
        ++ ": error LPP1127: Invalid character '" ++ String.singleton c ++ "'."
      ∧ (f.source.toList.splitOn '\n')[l]? = some piece ∧ piece[k]? = some c
      ∧ ((f.source.toList.splitOn '\n').take l).flatMap (· ++ ['\n']) ++ piece.take k
        = f.source.toList.take i
  /-- The labelled report marks the character. -/
  label : report.sourceName = f.file ∧ ∃ a, report.labels = [a]
    ∧ a.offset = (encodeChars (f.source.toList.take i)).length ∧ a.length = c.utf8Size
    ∧ ((encode f.source).drop a.offset).take a.length = String.utf8EncodeChar c

/-- The diagnostics of a scanned file, for a file that is not too long. -/
theorem diagnostics_scan (file : String) {source : String} (hlen : source.length < UInt32.size) :
    (scan file source).diagnostics
      = (illegalsFrom 0 source.toList).map (fun p => (illegalDiagnostic p).inFile file) := by
  have hsort := sort_illegalDiagnostics (String.length_toList ▸ hlen)
  rw [← (Lexer.collect_ofText source).1] at hsort
  rw [scan, Collection.sort, hsort, (Lexer.collect_ofText source).1, List.map_map]
  rfl

/-- There being one severity, every diagnostic counts. -/
theorem hasErrors_iff (f : ScannedFile) : f.hasErrors = true ↔ 0 < f.diagnostics.length := by
  rw [hasErrors, List.any_eq_true, List.length_pos_iff_exists_mem]
  exact exists_congr (fun d => and_iff_left d.isError_eq_true)

/-- What is computed for an illegal character points at it. -/
theorem pointsAt_illegal {f : ScannedFile} {c : Char} {i : Nat}
    (hlen : f.source.length < UInt32.size) (hc : f.source.toList[i]? = some c)
    (hillegal : IllegalChar c) :
    f.PointsAt c i ((illegalDiagnostic (c, i)).inFile f.file) (f.illegalLine (c, i))
      (f.illegalReport (c, i)) where
  char := hc
  file := rfl
  span := by
    have hi := (List.getElem?_eq_some_iff.1 hc).1
    rw [String.length_toList] at hi
    exact exists_span_illegalDiagnostic c (hi.trans hlen)
  plain := by
    have hne : c ≠ '\n' := by
      rintro rfl
      exact absurd hillegal (by decide)
    obtain ⟨piece, hpiece, hchar, hbefore⟩ := exists_piece_of_walk hc hne
    exact ⟨_, _, piece, rfl, hpiece, hchar, hbefore⟩
  label := ⟨rfl, _, rfl, (length_encodeChars _).symm, rfl, labelled_bytes hc⟩

/-- **Every way of reporting an illegal character points at the same character.** -/
theorem pointsAt_scan (file source : String) (hlen : source.length < UInt32.size) :
    let f := scan file source
    let found := illegalsFrom 0 source.toList
    illegalLiterals f.tokens = found.map (fun p => String.singleton p.1)
      ∧ f.diagnostics.length = found.length
      ∧ (Lexer.ofText source).collect.2.diagnostics.sort
        = (Lexer.ofText source).collect.2.diagnostics
      ∧ (f.hasErrors = true ↔ 0 < found.length)
      ∧ ∃ lines reports, f.plainReport = .ok lines ∧ f.labelledReport = .ok reports
        ∧ lines.length = found.length ∧ reports.length = found.length
        ∧ ∀ (k : Nat) (c : Char) (i : Nat), found[k]? = some (c, i) →
          ∃ d line report, f.diagnostics[k]? = some d ∧ lines[k]? = some line
            ∧ reports[k]? = some report ∧ f.PointsAt c i d line report := by
  intro f found
  obtain ⟨hheld, hliterals⟩ := Lexer.collect_ofText source
  have hdiagnostics : f.diagnostics = found.map (fun p => (illegalDiagnostic p).inFile file) :=
    diagnostics_scan file hlen
  have hfound : ∀ p ∈ found, source.toList[p.2]? = some p.1 ∧ p.2 < source.length
      ∧ IllegalChar p.1 := by
    intro p hp
    obtain ⟨hc, hillegal⟩ := mem_illegalsFrom_iff.1 hp
    have hi := (List.getElem?_eq_some_iff.1 hc).1
    exact ⟨hc, String.length_toList ▸ hi, hillegal⟩
  refine ⟨?_, ?_, ?_, ?_, found.map f.illegalLine, found.map f.illegalReport, ?_, ?_, ?_, ?_, ?_⟩
  · rw [← hliterals]
    exact Lexer.illegalLiterals_append_of_isEof rfl _
  · rw [hdiagnostics, List.length_map]
  · rw [Collection.sort, hheld, sort_illegalDiagnostics (String.length_toList ▸ hlen), ← hheld]
  · rw [hasErrors_iff, hdiagnostics, List.length_map]
  · rw [plainReport, hdiagnostics]
    exact mapM_map_ok (fun p hp => plainLine_illegal hlen (hfound p hp).2.1)
  · rw [labelledReport, hdiagnostics]
    exact mapM_map_ok (fun p hp => labelledOne_illegal hlen (hfound p hp).2.1 (hfound p hp).1)
  · rw [List.length_map]
  · rw [List.length_map]
  · intro k c i hk
    obtain ⟨hc, _, hillegal⟩ := hfound _ (List.mem_of_getElem? hk)
    refine ⟨_, _, _, ?_, ?_, ?_, pointsAt_illegal (f := f) hlen hc hillegal⟩
    · rw [hdiagnostics, List.getElem?_map, hk]
      rfl
    · rw [List.getElem?_map, hk]
      rfl
    · rw [List.getElem?_map, hk]
      rfl

/-- The last of three illegal characters, on the second line; the two before it are
encoded in more than one byte. -/
theorem pointsAt_scan_second_line :
    "x¡\né@".length < UInt32.size
      ∧ ∃ d line report, (scan "f" "x¡\né@").diagnostics[2]? = some d
        ∧ (scan "f" "x¡\né@").PointsAt '@' 4 d line report := by
  have hlen : "x¡\né@".length < UInt32.size := by decide
  have hfound : (illegalsFrom 0 "x¡\né@".toList)[2]? = some ('@', 4) := by decide
  obtain ⟨_, _, _, _, lines, reports, _, _, _, _, h⟩ := pointsAt_scan "f" "x¡\né@" hlen
  obtain ⟨d, line, report, hd, _, _, hpoints⟩ := h 2 '@' 4 hfound
  exact ⟨hlen, d, line, report, hd, hpoints⟩

end ScannedFile

end ScriptLexer

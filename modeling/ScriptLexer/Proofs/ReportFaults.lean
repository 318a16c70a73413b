import Mathlib.Data.List.Forall2
import ScriptLexer.Proofs.IllegalReports

/-!
# Where reports overflow

A report adds positions in two places: a labelled report to find where a span stops, a
plain line to count lines and columns from one. A sum that does not fit stops the whole
report. For the diagnostics of a scan this does not happen, but a file can hold any
diagnostics, with spans that have nothing to do with its source, and then it is these two
sums that decide: a labelled report fails exactly if a span stops past the last position
(`ScannedFile.labelledReport_eq_error_iff`), and a plain report exactly if a place is in
the last line or the last column that 32 bits can count
(`ScannedFile.plainReport_eq_error_iff`). How far a span lies outside the source does not
matter, as both its ends are cut off at the end of the source before they are subtracted.

The longest source whose scan can always be reported is found from the same two facts.
Its illegal characters have their own index for a start, if that fits in 32 bits at all,
and one position behind it is needed; so the first character that cannot be reported is
the one at the last position.
-/

namespace ScriptLexer

/-! ## Faults pass through -/

/-- There is one fault, so failing is failing with it. -/
theorem Fault.exists_eq_error_iff {α : Type} {x : Except Fault α} :
    (∃ e, x = .error e) ↔ x = .error .addOverflow := by
  refine ⟨?_, fun h => ⟨_, h⟩⟩
  rintro ⟨⟨⟩, h⟩
  exact h

theorem Fault.exists_eq_ok_iff {α : Type} {x : Except Fault α} :
    (∃ a, x = .ok a) ↔ x ≠ .error .addOverflow := by
  cases x with
  | error e =>
    cases e
    simp
  | ok a => simp

theorem Fault.mapM_eq_error_iff {α β : Type} {f : α → Except Fault β} {xs : List α} :
    xs.mapM f = .error .addOverflow ↔ ∃ x ∈ xs, f x = .error .addOverflow := by
  simp only [← exists_eq_error_iff, ScannedFile.exists_mapM_eq_error_iff]

/-- What is made of a result makes no fault and hides none. -/
theorem bind_pure_eq_error_iff {α β ε : Type} {x : Except ε α} {g : α → β} {e : ε} :
    (x >>= fun a => pure (g a)) = .error e ↔ x = .error e := by
  cases x <;> simp [bind, Except.bind, pure, Except.pure]

theorem map_eq_error_iff {α β ε : Type} {x : Except ε α} {g : α → β} {e : ε} :
    x.map g = .error e ↔ x = .error e := by
  cases x <;> simp [Except.map]

/-- A computation that gives results on some values gives them one by one. -/
theorem mapM_eq_ok_iff {α β ε : Type} {f : α → Except ε β} {xs : List α} {ys : List β} :
    xs.mapM f = .ok ys ↔ List.Forall₂ (fun x y => f x = .ok y) xs ys := by
  induction xs generalizing ys with
  | nil => cases ys <;> simp [pure, Except.pure]
  | cons x xs ih =>
    rw [List.mapM_cons]
    cases hx : f x with
    | error e => cases ys <;> simp [bind, Except.bind, hx]
    | ok y =>
      cases hxs : xs.mapM f with
      | error e => cases ys <;> simp [bind, Except.bind, hx, hxs, ← ih]
      | ok zs => cases ys <;> simp [bind, Except.bind, pure, Except.pure, hx, hxs, ← ih]

/-! ## Places that cannot be shown -/

/-- A place cannot be shown exactly if its line or its column is the last that 32 bits
can count. -/
theorem LineColumn.render_eq_error_iff (p : LineColumn) :
    p.render = .error .addOverflow
      ↔ UInt32.size ≤ p.line.toNat + 1 ∨ UInt32.size ≤ p.column.toNat + 1 := by
  have hline := Position.add_eq_error_iff p.line 1 .addOverflow
  have hcolumn := Position.add_eq_error_iff p.column 1 .addOverflow
  rw [show (1 : Position).toNat = 1 from rfl] at hline hcolumn
  rw [← hline, ← hcolumn, render]
  cases Position.add p.line 1 with
  | error e =>
    cases e
    exact iff_of_true rfl (Or.inl rfl)
  | ok line =>
    simp only [reduceCtorEq, false_or]
    exact bind_pure_eq_error_iff

/-- A walk that has passed no line is in the first, as far as it has gone. -/
theorem walk_snd_eq_self {cs : List Char} {n : Nat} (h : (walk cs n).1 = 0) :
    (walk cs n).2 = n := by
  induction n with
  | zero => rfl
  | succ n ih =>
    by_cases hfeed : cs[n]? = some '\n'
    · rw [walk, if_pos hfeed] at h
      exact absurd h (Nat.succ_ne_zero _)
    · rw [walk, if_neg hfeed] at h ⊢
      exact congrArg (· + 1) (ih h)

/-- **The place of a position is out of range**: a walk to it leads to the last line or
the last column that 32 bits can count, which has no number from one on. -/
def PlaceOverflows (cs : List Char) (pos : Position) : Prop :=
  UInt32.size ≤ (walk cs pos.toNat).1 + 1 ∨ UInt32.size ≤ (walk cs pos.toNat).2 + 1

/-- **Only the last position of a single line is out of range**, if the text is not so
long that it could have a last line. -/
theorem placeOverflows_iff {cs : List Char} (hlen : cs.length + 1 < UInt32.size)
    (pos : Position) :
    PlaceOverflows cs pos ↔ pos.toNat + 1 = UInt32.size ∧ '\n' ∉ cs := by
  have hwalk := walk_le cs pos.toNat
  have hpos := pos.toNat_lt_size
  have hcount := walk_fst_eq_count cs pos.toNat
  have hlines : (walk cs pos.toNat).1 ≤ cs.length := by
    rw [hcount]
    exact List.count_le_length.trans (List.length_take_le' _ _)
  unfold PlaceOverflows
  constructor
  · intro hover
    have hlast : pos.toNat + 1 = UInt32.size := by omega
    have hfirst : (walk cs pos.toNat).1 = 0 := by omega
    rw [hcount, List.take_of_length_le (by omega), List.count_eq_zero] at hfirst
    exact ⟨hlast, hfirst⟩
  · rintro ⟨hlast, hfeed⟩
    have hfirst : (walk cs pos.toNat).1 = 0 := by
      rw [hcount, List.count_eq_zero]
      exact fun hmem => hfeed (List.mem_of_mem_take hmem)
    rw [walk_snd_eq_self hfirst]
    omega

namespace ScannedFile

variable {f : ScannedFile}

/-! ## Labelled reports -/

/-- A label cannot be made exactly if its span stops past the last position. -/
theorem label_eq_error_iff (s : Span) :
    f.label s = .error .addOverflow ↔ UInt32.size ≤ s.start.toNat + s.length.toNat := by
  rw [← Position.add_eq_error_iff s.start s.length .addOverflow]
  exact bind_pure_eq_error_iff

theorem labelledOne_eq_error_iff (d : Diagnostic) :
    f.labelledOne d = .error .addOverflow
      ↔ ∃ s, d.span = some s ∧ UInt32.size ≤ s.start.toNat + s.length.toNat := by
  have hone : f.labelledOne d = .error .addOverflow ↔ f.labelsOf d.span = .error .addOverflow :=
    bind_pure_eq_error_iff
  rw [hone]
  cases d.span with
  | none => simp [labelsOf]
  | some s =>
    show (f.label s).map ([·]) = .error .addOverflow ↔ _
    rw [map_eq_error_iff, label_eq_error_iff]
    simp

/-- **A labelled report overflows exactly if a span stops past the last position.** -/
theorem labelledReport_eq_error_iff :
    f.labelledReport = .error .addOverflow
      ↔ ∃ d ∈ f.diagnostics, ∃ s, d.span = some s
        ∧ UInt32.size ≤ s.start.toNat + s.length.toNat := by
  simp only [labelledReport, Fault.mapM_eq_error_iff, labelledOne_eq_error_iff]

/-- **A label marks the characters of its span**, as far as there are any: those from its
start or the end of the source on, up to its stop or the end of the source. -/
structure Marks (source : String) (s : Span) (a : Label) : Prop where
  /-- Before it are the bytes of the characters before the span. -/
  offset_eq : a.offset
    = (encodeChars (source.toList.take (min s.start.toNat source.length))).length
  /-- It goes from the start of the span to its stop, which is no less. -/
  length_eq : ∃ stop, s.stop = .ok stop ∧ byteOffset source s.start ≤ byteOffset source stop
    ∧ a.length = byteOffset source stop - byteOffset source s.start
  /-- It is in the source. -/
  stop_le : a.offset + a.length ≤ (encode source).length
  /-- The bytes marked are those of the characters of the span. -/
  bytes_eq : ((encode source).drop a.offset).take a.length
    = encodeChars ((source.toList.take
        (min (s.start.toNat + s.length.toNat) source.length)).drop
          (min s.start.toNat source.length))

/-- More characters have more bytes. -/
theorem byteLength_take_le (cs : List Char) {m n : Nat} (h : m ≤ n) :
    byteLength (cs.take m) ≤ byteLength (cs.take n) := by
  rw [← take_append_drop_take h, byteLength_append]
  exact Nat.le_add_right _ _

/-- A position past the end counts as the end. -/
theorem take_min_length (source : String) (n : Nat) :
    source.toList.take (min n source.length) = source.toList.take n := by
  rw [← String.length_toList, List.take_eq_take_iff]
  omega

theorem drop_min_of_length_le {cs : List Char} {k : Nat} (h : cs.length ≤ k) (n : Nat) :
    cs.drop (min n k) = cs.drop n := by
  obtain hle | hlt := Nat.le_total n k
  · rw [Nat.min_eq_left hle]
  · rw [Nat.min_eq_right hlt, List.drop_eq_nil_of_le h, List.drop_eq_nil_of_le (h.trans hlt)]

/-- **A label that can be made marks the characters of its span.** -/
theorem exists_marks {s : Span} (hs : s.start.toNat + s.length.toNat < UInt32.size) :
    ∃ a, f.label s = .ok a ∧ Marks f.source s a := by
  refine ⟨_, f.label_of_lt hs, ?_⟩
  have hstop : s.stop = .ok (s.start + s.length) := Position.add_of_lt hs
  have hspan : s.start.toNat ≤ s.start.toNat + s.length.toNat := Nat.le_add_right _ _
  have hoffset : byteOffset f.source (s.start + s.length)
      = byteLength (f.source.toList.take (s.start.toNat + s.length.toNat)) := by
    rw [byteOffset, Position.toNat_of_add_eq_ok hstop]
  have hle : byteOffset f.source s.start ≤ byteOffset f.source (s.start + s.length) := by
    rw [hoffset]
    exact byteLength_take_le f.source.toList hspan
  refine ⟨?_, ⟨_, hstop, hle, ?_⟩, ?_, ?_⟩
  · rw [take_min_length, length_encodeChars]
  · rw [hoffset]
    rfl
  · have hall := congrArg byteLength
      (List.take_append_drop (s.start.toNat + s.length.toNat) f.source.toList)
    rw [byteLength_append] at hall
    have hbefore := byteLength_take_le f.source.toList hspan
    rw [encode, length_encodeChars]
    show byteLength _ + (byteLength _ - byteLength _) ≤ _
    omega
  · rw [take_min_length, drop_min_of_length_le (String.length_toList ▸ List.length_take_le' _ _),
      ← drop_take_encodeChars _ hspan]
    rfl

/-- The labels of a report that can be made are those of the span, if there is one. -/
theorem marks_of_labelledOne {d : Diagnostic} {r : LabelledReport} (h : f.labelledOne d = .ok r) :
    List.Forall₂ (Marks f.source) d.span.toList r.labels := by
  have hfit := Fault.exists_eq_ok_iff.1 ⟨r, h⟩
  rw [Ne, labelledOne_eq_error_iff] at hfit
  cases hspan : d.span with
  | none =>
    rw [labelledOne, hspan] at h
    obtain rfl := Except.ok.inj h
    exact List.Forall₂.nil
  | some s =>
    have hs := Nat.not_le.1 fun hlarge => hfit ⟨s, hspan, hlarge⟩
    obtain ⟨a, ha, hmarks⟩ := exists_marks (f := f) hs
    rw [labelledOne, hspan, labelsOf, ha] at h
    obtain rfl := Except.ok.inj h
    exact List.Forall₂.cons hmarks List.Forall₂.nil

/-! ## Plain lines -/

theorem plainLine_eq_error_iff (hlen : f.source.length < UInt32.size) (d : Diagnostic) :
    f.plainLine (LineMap.ofText f.source) d = .error .addOverflow
      ↔ ∃ s, d.span = some s ∧ PlaceOverflows f.source.toList s.start := by
  have hplace : f.plainLine (LineMap.ofText f.source) d = .error .addOverflow
      ↔ plainPlace (LineMap.ofText f.source) d.span = .error .addOverflow :=
    bind_pure_eq_error_iff
  rw [hplace]
  cases d.span with
  | none => simp [plainPlace]
  | some s =>
    obtain ⟨hline, hcolumn⟩ := LineMap.toNat_lineColumn hlen s.start
    rw [plainPlace, map_eq_error_iff, LineColumn.render_eq_error_iff, hline, hcolumn]
    simp [PlaceOverflows]

/-- **A plain report overflows exactly if a span starts out of range.** -/
theorem plainReport_eq_error_iff (hlen : f.source.length < UInt32.size) :
    f.plainReport = .error .addOverflow
      ↔ ∃ d ∈ f.diagnostics, ∃ s, d.span = some s
        ∧ PlaceOverflows f.source.toList s.start := by
  simp only [plainReport, Fault.mapM_eq_error_iff, plainLine_eq_error_iff hlen]

/-! ## Any diagnostics -/

/-- **Reporting arbitrary diagnostics.** The labelled report of a file overflows exactly
if one of its diagnostics has a span that stops past the last position; otherwise each
diagnostic has a report, with a label for its span if it has one, and the label marks the
characters of the span. For a source that ends before the last position, the plain report
overflows exactly if one of the diagnostics has a span that starts at the last position
and the source is a single line. -/
theorem report_of_any_diagnostics (f : ScannedFile) :
    (f.labelledReport = .error .addOverflow
        ↔ ∃ d ∈ f.diagnostics, ∃ s, d.span = some s
          ∧ UInt32.size ≤ s.start.toNat + s.length.toNat)
      ∧ ((∀ d ∈ f.diagnostics, ∀ s, d.span = some s →
            s.start.toNat + s.length.toNat < UInt32.size) →
          ∃ reports, f.labelledReport = .ok reports
            ∧ List.Forall₂ (fun d r => List.Forall₂ (Marks f.source) d.span.toList r.labels)
              f.diagnostics reports)
      ∧ (f.source.length + 1 < UInt32.size →
          (f.plainReport = .error .addOverflow
            ↔ (∃ d ∈ f.diagnostics, ∃ s, d.span = some s ∧ s.start.toNat + 1 = UInt32.size)
              ∧ '\n' ∉ f.source.toList)) := by
  refine ⟨labelledReport_eq_error_iff, fun hfit => ?_, fun hlen => ?_⟩
  · obtain ⟨reports, hreports⟩ := Fault.exists_eq_ok_iff.2 fun herror => by
      obtain ⟨d, hd, s, hs, hlarge⟩ := labelledReport_eq_error_iff.1 herror
      exact absurd (hfit d hd s hs) (Nat.not_lt.2 hlarge)
    exact ⟨reports, hreports, (mapM_eq_ok_iff.1 hreports).imp fun _ _ => marks_of_labelledOne⟩
  · rw [plainReport_eq_error_iff (Nat.lt_of_succ_lt hlen)]
    simp only [placeOverflows_iff (String.length_toList.symm ▸ hlen)]
    constructor
    · rintro ⟨d, hd, s, hs, hlast, hfeed⟩
      exact ⟨⟨d, hd, s, hs, hlast⟩, hfeed⟩
    · rintro ⟨⟨d, hd, s, hs, hlast⟩, hfeed⟩
      exact ⟨d, hd, s, hs, hlast, hfeed⟩

/-- The empty span at the last position can be labelled, at the end of the source, but it
has no place that a plain line could show. -/
theorem report_of_any_diagnostics_last_position :
    let f : ScannedFile := ⟨"f", "a¡b", [], [⟨none, some ⟨4294967295, 0⟩, "", 0, .error⟩]⟩
    (∀ d ∈ f.diagnostics, ∀ s, d.span = some s →
        s.start.toNat + s.length.toNat < UInt32.size)
      ∧ f.source.length + 1 < UInt32.size
      ∧ (∃ reports, f.labelledReport = .ok reports
        ∧ List.Forall₂ (fun d r => List.Forall₂ (Marks f.source) d.span.toList r.labels)
          f.diagnostics reports)
      ∧ f.plainReport = .error .addOverflow := by
  intro f
  have hfit : ∀ d ∈ f.diagnostics, ∀ s, d.span = some s →
      s.start.toNat + s.length.toNat < UInt32.size := by
    intro d hd s hs
    obtain rfl := List.mem_singleton.1 hd
    obtain rfl := Option.some.inj hs
    decide
  have hlen : f.source.length + 1 < UInt32.size := by decide
  obtain ⟨-, hlabelled, hplain⟩ := report_of_any_diagnostics f
  refine ⟨hfit, hlen, hlabelled hfit, (hplain hlen).2 ⟨⟨_, List.mem_cons_self, _, rfl, ?_⟩, ?_⟩⟩
  · decide
  · decide

/-! ## Long sources -/

/-- The diagnostics of a scan are those of the illegal characters, whatever order they
are sorted into. -/
theorem mem_diagnostics_scan_iff {file source : String} {d : Diagnostic} :
    d ∈ (scan file source).diagnostics
      ↔ ∃ p ∈ illegalsFrom 0 source.toList, (illegalDiagnostic p).inFile file = d := by
  have hsort : ∀ e, e ∈ (Lexer.ofText source).collect.2.diagnostics.sort.toList
      ↔ e ∈ (illegalsFrom 0 source.toList).map illegalDiagnostic := by
    intro e
    rw [(Collection.sort_perm _).mem_iff, (Lexer.collect_ofText source).1]
  show d ∈ List.map _ (Lexer.ofText source).collect.2.diagnostics.sort.toList ↔ _
  rw [List.mem_map]
  simp only [hsort, List.mem_map, exists_exists_and_eq_and]

/-- **An illegal character can be reported if there is a position behind it.** -/
theorem exists_reports_scan (file : String) {source : String}
    (hlen : source.length < UInt32.size) :
    (∃ lines, (scan file source).plainReport = .ok lines)
      ∧ ∃ reports, (scan file source).labelledReport = .ok reports := by
  have hstart : ∀ d ∈ (scan file source).diagnostics, ∀ s, d.span = some s →
      s.start.toNat < source.length ∧ s.length.toNat = 1 := by
    intro d hd s hs
    obtain ⟨⟨c, i⟩, hp, rfl⟩ := mem_diagnostics_scan_iff.1 hd
    have hi := (List.getElem?_eq_some_iff.1 (mem_illegalsFrom_iff.1 hp).1).1
    rw [String.length_toList] at hi
    obtain ⟨s', hs', hstart, hone⟩ := exists_span_illegalDiagnostic c (hi.trans hlen)
    obtain rfl : s' = s := Option.some.inj (hs'.symm.trans hs)
    exact ⟨hstart.symm ▸ hi, hone⟩
  rw [Fault.exists_eq_ok_iff, Fault.exists_eq_ok_iff, Ne, Ne, labelledReport_eq_error_iff,
    plainReport_eq_error_iff hlen]
  constructor
  · rintro ⟨d, hd, s, hs, hplace⟩
    obtain ⟨hlt, _⟩ := hstart d hd s hs
    have hwalk := walk_le source.toList s.start.toNat
    rw [PlaceOverflows, source_scan] at hplace
    omega
  · rintro ⟨d, hd, s, hs, hlarge⟩
    obtain ⟨hlt, hone⟩ := hstart d hd s hs
    omega

/-- **An illegal character at the last position cannot be reported**, as nothing stops
behind it. -/
theorem labelledReport_scan_of_last (file : String) {source : String} {c : Char}
    (hc : source.toList[UInt32.size - 1]? = some c) (hillegal : IllegalChar c) :
    (scan file source).labelledReport = .error .addOverflow := by
  obtain ⟨s, hs, hstart, hone⟩ := exists_span_illegalDiagnostic c
    (Nat.sub_lt (by decide) (by decide) : UInt32.size - 1 < UInt32.size)
  refine labelledReport_eq_error_iff.2
    ⟨_, mem_diagnostics_scan_iff.2 ⟨_, mem_illegalsFrom_iff.2 ⟨hc, hillegal⟩, rfl⟩, s, hs, ?_⟩
  rw [hstart, hone]
  decide

/-- **The size up to which every scan can be reported.** Every source of `n` characters
can be scanned and then reported in both ways, without a sum that does not fit, exactly
if `n` is less than the number of positions. -/
theorem scan_reportable_iff (n : Nat) :
    (∀ file source : String, source.length = n →
        (∃ lines, (scan file source).plainReport = .ok lines)
          ∧ ∃ reports, (scan file source).labelledReport = .ok reports)
      ↔ n < UInt32.size := by
  constructor
  · intro hall
    by_contra hlarge
    have hlast : UInt32.size - 1 < n := by
      have hpos : 0 < UInt32.size := by decide
      omega
    obtain ⟨-, reports, hreports⟩ := hall "" (String.ofList (List.replicate n '@'))
      (by rw [String.length_ofList, List.length_replicate])
    rw [labelledReport_scan_of_last (c := '@') "" ?_ (by decide)] at hreports
    · cases hreports
    · rw [String.toList_ofList, List.getElem?_replicate, if_pos hlast]
  · rintro hn file source rfl
    exact exists_reports_scan file hn

end ScannedFile

end ScriptLexer

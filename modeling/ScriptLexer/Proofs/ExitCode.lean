import ScriptLexer.Program
import ScriptLexer.Proofs.ReportFaults
import ScriptLexer.Proofs.Transcript

/-!
# Exit codes

What a run over files comes to depends on little of what it is given. Whether a file
can be read, and whether its text holds an illegal character, decides the exit code
(`Program.CodeFor`); how the listing is written, and where the diagnostics go, does
not, although the flag for failure is computed from the diagnostics of the scanned
files and the two kinds of listing report these in different ways. The listing in turn
does not depend on anything that concerns the reports or the log.

Files are read before anything is written, so that a run that cannot read one of them
writes nothing (`Program.runFiles_of_unreadable`). For the others there is a closed form
(`Program.runFiles_of_readable`), in which the files that were scanned are told from the
texts alone. As neither the order of the paths nor their number enters the exit code,
it is given by predicates on the set of paths.
-/

namespace ScriptLexer

namespace Program

open CommandLine ScannedFile

/-! ## What decides the exit code -/

/-- **The text at a path**: what is read there, if it can be read and is UTF-8. -/
def Surroundings.textAt (w : Surroundings) (path : String) : Option String :=
  match w.readPath path with
  | .error _ => none
  | .ok bytes => decode? bytes

/-- Some path has no text. -/
def Unreadable (w : Surroundings) (paths : List String) : Prop :=
  ∃ path ∈ paths, w.textAt path = none

/-- The text at some path has an illegal character. -/
def HoldsIllegal (w : Surroundings) (paths : List String) : Prop :=
  ∃ path ∈ paths, ∃ text, w.textAt path = some text ∧ ∃ c ∈ text.toList, IllegalChar c

/-- **The exit code for some paths**: two if not all of them can be read as text, or
else one if an illegal character is found, or else zero. -/
structure CodeFor (w : Surroundings) (paths : List String) (code : Nat) : Prop where
  /-- Something could not be read. -/
  two_iff : code = 2 ↔ Unreadable w paths
  /-- Everything could be read, and not all of it is legal. -/
  one_iff : code = 1 ↔ ¬ Unreadable w paths ∧ HoldsIllegal w paths
  /-- All went well. -/
  zero_iff : code = 0 ↔ ¬ Unreadable w paths ∧ ¬ HoldsIllegal w paths

variable {w w' : Surroundings} {paths paths' : List String} {o o' : Options}
  {screen screen' : Option Screen}

/-- The paths count as a set, and of the surroundings only the texts count. -/
theorem unreadable_congr (hpaths : ∀ path, path ∈ paths' ↔ path ∈ paths)
    (htexts : ∀ path ∈ paths, w'.textAt path = w.textAt path) :
    Unreadable w' paths' ↔ Unreadable w paths := by
  refine exists_congr fun path => ?_
  rw [hpaths]
  exact and_congr_right fun hmem => by rw [htexts path hmem]

theorem holdsIllegal_congr (hpaths : ∀ path, path ∈ paths' ↔ path ∈ paths)
    (htexts : ∀ path ∈ paths, w'.textAt path = w.textAt path) :
    HoldsIllegal w' paths' ↔ HoldsIllegal w paths := by
  refine exists_congr fun path => ?_
  rw [hpaths]
  exact and_congr_right fun hmem => by rw [htexts path hmem]

/-- **There is one exit code for the same texts.** -/
theorem CodeFor.unique {code code' : Nat} (h : CodeFor w paths code)
    (h' : CodeFor w' paths' code') (hpaths : ∀ path, path ∈ paths' ↔ path ∈ paths)
    (htexts : ∀ path ∈ paths, w'.textAt path = w.textAt path) : code' = code := by
  have hunreadable := unreadable_congr hpaths htexts
  have hillegal := holdsIllegal_congr hpaths htexts
  by_cases hu : Unreadable w paths
  · rw [h.two_iff.2 hu, h'.two_iff.2 (hunreadable.2 hu)]
  · by_cases hi : HoldsIllegal w paths
    · rw [h.one_iff.2 ⟨hu, hi⟩, h'.one_iff.2 ⟨mt hunreadable.1 hu, hillegal.2 hi⟩]
    · rw [h.zero_iff.2 ⟨hu, hi⟩, h'.zero_iff.2 ⟨mt hunreadable.1 hu, mt hillegal.1 hi⟩]

/-! ## Reading the files -/

/-- Scanning a path needs its text, and nothing else. -/
theorem scanPath_of_textAt {path text : String} (h : w.textAt path = some text) :
    scanPath w.readPath path = .ok (.scan path text) := by
  rw [Surroundings.textAt] at h
  rw [scanPath]
  cases hread : w.readPath path with
  | error cause =>
    rw [hread] at h
    cases h
  | ok bytes =>
    rw [hread] at h
    have hdecode : decode? bytes = some text := h
    simp only [hdecode]

theorem exists_scanPath_eq_error {path : String} (h : w.textAt path = none) :
    ∃ e, scanPath w.readPath path = .error e := by
  rw [Surroundings.textAt] at h
  rw [scanPath]
  cases hread : w.readPath path with
  | error cause => exact ⟨_, rfl⟩
  | ok bytes =>
    rw [hread] at h
    have hdecode : decode? bytes = none := h
    simp only [hdecode]
    exact ⟨_, rfl⟩

/-- The files scanned, told from the texts. -/
def Surroundings.scanned (w : Surroundings) (paths : List String) : List ScannedFile :=
  paths.map fun path => .scan path ((w.textAt path).getD "")

theorem scanPaths_of_readable (h : ¬ Unreadable w paths) :
    scanPaths w.readPath paths = .ok (w.scanned paths) := by
  have hscan : ∀ path ∈ paths, scanPath w.readPath (id path)
      = .ok (.scan path ((w.textAt path).getD "")) := by
    intro path hmem
    obtain ⟨text, htext⟩ := Option.ne_none_iff_exists'.1 fun hnone => h ⟨path, hmem, hnone⟩
    rw [id, scanPath_of_textAt htext, htext]
    rfl
  have hall := mapM_map_ok hscan
  rwa [List.map_id] at hall

/-! ## Reporting on the files -/

/-- The texts at some paths are not too long. -/
def Short (w : Surroundings) (paths : List String) : Prop :=
  ∀ path ∈ paths, ∀ text, w.textAt path = some text → text.length < UInt32.size

/-- **A scan has errors exactly if the text has an illegal character.** -/
theorem hasErrors_scan_iff (file : String) {source : String} (hlen : source.length < UInt32.size) :
    (scan file source).hasErrors = true ↔ ∃ c ∈ source.toList, IllegalChar c := by
  rw [hasErrors_iff, diagnostics_scan file hlen, List.length_map, List.length_pos_iff_exists_mem]
  constructor
  · rintro ⟨⟨c, i⟩, hmem⟩
    obtain ⟨hc, hillegal⟩ := mem_illegalsFrom_iff.1 hmem
    exact ⟨c, List.mem_of_getElem? hc, hillegal⟩
  · rintro ⟨c, hmem, hillegal⟩
    obtain ⟨i, hi⟩ := List.mem_iff_getElem?.1 hmem
    exact ⟨(c, i), mem_illegalsFrom_iff.2 ⟨hi, hillegal⟩⟩

/-- A path without a text counts as one with an empty text. -/
theorem Short.length_getD_lt (h : Short w paths) {path : String} (hmem : path ∈ paths) :
    ((w.textAt path).getD "").length < UInt32.size := by
  cases htext : w.textAt path with
  | none => decide
  | some text => exact h path hmem text htext

/-- A function that succeeds on each of some values succeeds on all of them. -/
theorem exists_mapM_eq_ok {α β : Type} {f : α → Except Fault β} {xs : List α}
    (h : ∀ x ∈ xs, ∃ y, f x = .ok y) : ∃ ys, xs.mapM f = .ok ys := by
  rw [Fault.exists_eq_ok_iff, Ne, Fault.mapM_eq_error_iff]
  rintro ⟨x, hmem, hfault⟩
  exact Fault.exists_eq_ok_iff.1 (h x hmem) hfault

/-- **The reports can be made**, the plain and the drawn ones. -/
theorem exists_reportTexts_scanned (h : Short w paths) (screen : Option Screen) :
    ∃ texts, reportTexts screen (w.scanned paths) = .ok texts := by
  have hfile : ∀ f ∈ w.scanned paths,
      (∃ lines, f.plainReport = .ok lines) ∧ ∃ reports, f.labelledReport = .ok reports := by
    intro f hf
    obtain ⟨path, hmem, rfl⟩ := List.mem_map.1 hf
    exact exists_reports_scan path (h.length_getD_lt hmem)
  cases screen with
  | none =>
    obtain ⟨lines, hlines⟩ := exists_mapM_eq_ok fun f hf => (hfile f hf).1
    exact ⟨lines.flatten, by rw [reportTexts, plainReports, hlines]; rfl⟩
  | some screen =>
    have hdrawn : ∀ f ∈ w.scanned paths,
        ∃ texts, screen.drawAll f = .ok texts := by
      intro f hf
      obtain ⟨reports, hreports⟩ := (hfile f hf).2
      exact ⟨_, by rw [Screen.drawAll, hreports]; rfl⟩
    obtain ⟨texts, htexts⟩ := exists_mapM_eq_ok hdrawn
    exact ⟨texts.flatten, by rw [reportTexts, htexts]; rfl⟩

/-- The scanned files have errors exactly if an illegal character is found. -/
theorem any_hasErrors_scanned (h : Short w paths) :
    (w.scanned paths).any ScannedFile.hasErrors = true ↔ HoldsIllegal w paths := by
  rw [Surroundings.scanned, List.any_map, List.any_eq_true]
  refine exists_congr fun path => and_congr_right fun hmem => ?_
  rw [Function.comp_apply, hasErrors_scan_iff path (h.length_getD_lt hmem)]
  cases htext : w.textAt path with
  | none => simp
  | some text => simp

/-- **The exit code does not depend on how the diagnostics are reported.** -/
theorem code_reports_scanned (o : Options) (screen : Option Screen) (h : Short w paths) :
    (reports o screen (w.scanned paths)).2
      = if (w.scanned paths).any ScannedFile.hasErrors then 1 else 0 := by
  obtain ⟨texts, htexts⟩ := exists_reportTexts_scanned h (if o.plain then none else screen)
  rw [reports, htexts]
  split
  · rfl
  · rfl

/-! ## What a run over files comes to -/

/-- **If a path cannot be read, nothing is written.** -/
theorem runFiles_of_unreadable (h : Unreadable w o.files) :
    (runFiles w o screen).code = 2 ∧ (runFiles w o screen).stdout = "" := by
  obtain ⟨path, hmem, hnone⟩ := h
  obtain ⟨e, he⟩ := exists_mapM_eq_error_iff.2 ⟨path, hmem, exists_scanPath_eq_error hnone⟩
  have hscan : scanPaths w.readPath o.files = .error e := he
  rw [runFiles, hscan]
  exact ⟨rfl, rfl⟩

/-- **If every path can be read, the listing is written**, and the code is that of the
reports. -/
theorem runFiles_of_readable (h : ¬ Unreadable w o.files) :
    (runFiles w o screen).code = (reports o screen (w.scanned o.files)).2
      ∧ (runFiles w o screen).stdout = (listing o (w.scanned o.files)).text := by
  rw [runFiles, scanPaths_of_readable h]
  exact ⟨rfl, rfl⟩

/-- **The exit code is that for the paths.** -/
theorem codeFor_runFiles (hshort : Short w o.files) :
    CodeFor w o.files (runFiles w o screen).code := by
  by_cases hread : Unreadable w o.files
  · rw [(runFiles_of_unreadable hread).1]
    constructor <;> simp [hread]
  · have herrors := any_hasErrors_scanned hshort
    rw [(runFiles_of_readable hread).1, code_reports_scanned o screen hshort]
    by_cases hi : HoldsIllegal w o.files
    · rw [if_pos (herrors.2 hi)]
      constructor <;> simp [hread, hi]
    · rw [if_neg (mt herrors.1 hi)]
      constructor <;> simp [hread, hi]

/-- **What is written** depends on the paths, their texts, and the kind of listing. -/
theorem stdout_runFiles_congr (hfiles : o'.files = o.files) (hjson : o'.json = o.json)
    (htexts : ∀ path ∈ o.files, w'.textAt path = w.textAt path) :
    (runFiles w' o' screen').stdout = (runFiles w o screen).stdout := by
  have hsame : Unreadable w' o'.files ↔ Unreadable w o.files :=
    unreadable_congr (fun path => by rw [hfiles]) htexts
  by_cases hread : Unreadable w o.files
  · rw [(runFiles_of_unreadable hread).2, (runFiles_of_unreadable (hsame.2 hread)).2]
  · have hscanned : w'.scanned o.files = w.scanned o.files :=
      List.map_congr_left fun path hmem => by rw [htexts path hmem]
    rw [(runFiles_of_readable hread).2, (runFiles_of_readable (mt hsame.1 hread)).2, hfiles,
      hscanned, listing, listing, hjson]

/-! ## Sessions -/

theorem run_of_parse {arguments : List String} (h : parse arguments = .ok (.run o)) :
    run w arguments screen = .ok (runOptions w o screen) := by
  rw [run, h]
  rfl

theorem runOptions_of_files (w : Surroundings) (screen : Option Screen) (h : o.files ≠ []) :
    (runOptions w o screen).code = (runFiles w o screen).code
      ∧ (runOptions w o screen).stdout = (runFiles w o screen).stdout := by
  rw [runOptions, if_neg (by simpa using h)]
  exact ⟨rfl, rfl⟩

/-- **A terminal changes neither the exit code nor the output.** -/
theorem run_on_screen {arguments : List String} (hparse : parse arguments = .ok (.run o))
    (hshort : Short w o.files) (screen : Option Screen) :
    ∃ done drawn, run w arguments = .ok done ∧ run w arguments screen = .ok drawn
      ∧ drawn.code = done.code ∧ drawn.stdout = done.stdout := by
  refine ⟨_, _, run_of_parse hparse, run_of_parse hparse, ?_⟩
  by_cases hfiles : o.files = []
  · have hempty : o.files.isEmpty = true := by simp [hfiles]
    rw [runOptions, runOptions, if_pos hempty, if_pos hempty, runSession, runSession]
    cases (Session.runOn o.prompt w.input).ending with
    | none => exact ⟨rfl, rfl⟩
    | some e => exact ⟨rfl, rfl⟩
  · obtain ⟨hcode, hstdout⟩ := runOptions_of_files w screen hfiles
    obtain ⟨hcode', hstdout'⟩ := runOptions_of_files w none hfiles
    rw [hcode, hstdout, hcode', hstdout']
    exact ⟨(codeFor_runFiles hshort).unique (codeFor_runFiles hshort) (fun _ => Iff.rfl)
      (fun _ _ => rfl), stdout_runFiles_congr rfl rfl (fun _ _ => rfl)⟩

end Program

end ScriptLexer

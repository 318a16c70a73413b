import ScriptLexer.Diagnostic.Collection

/-!
# The order of a collection

A collection may be added to, turned round and sorted in any order, and what a sort
is to do is said here apart from how it is done: the diagnostics stand by file and by
start (`Diagnostic.MayPrecede`), and those that the order does not tell apart stand as
they stood before (`Collection.SortsTo`). The order is a comparison of file names by
their bytes, in which a diagnostic may have no file, and then of starts, where one
without a span counts as being at the start. So diagnostics tie that are not equal,
and a collection may hold equal ones. Ties are therefore compared as lists, not two
by two: of the four diagnostics `a b a b` and `a b b a` every two stand in the same
orders.

Such a list is determined by the one before (`Collection.SortsTo.unique`), the reason
being that its first diagnostic is: the first diagnostics of two such lists tie, and
those that tie with them are the same list. So there is nothing else that a stable
sort could do, and sorting again does nothing.
-/

namespace ScriptLexer

/-! ## The order of diagnostics -/

/-- **Files in order**: no file before every name, and names by their bytes. -/
inductive FileBefore : Option String → Option String → Prop where
  /-- No file stands before a file. -/
  | unnamed {b : String} : FileBefore none (some b)
  /-- The bytes of one name stand before those of the other. -/
  | named {a b : String} (h : List.Lex (· < ·) (encode a) (encode b)) :
      FileBefore (some a) (some b)

theorem compare_bytes_eq_lt_iff {as bs : Bytes} :
    compare as bs = .lt ↔ List.Lex (· < ·) as bs := by
  induction as generalizing bs with
  | nil => cases bs <;> simp
  | cons a as ih =>
    cases bs with
    | nil => simp
    | cons b bs =>
      rw [List.compare_cons_cons, Ordering.then_eq_lt, Std.compare_eq_lt,
        Std.compare_eq_iff_eq, ih, List.cons_lex_cons_iff]

namespace Diagnostic

/-- **A tie**: the two diagnostics have the same file and the same start. -/
def Ties (a b : Diagnostic) : Prop :=
  a.file = b.file ∧ a.startKey = b.startKey

instance : DecidableRel Ties :=
  fun _ _ => inferInstanceAs (Decidable (_ ∧ _))

/-- **The order of a sorted list**: `a` may stand before `b`. -/
inductive MayPrecede (a b : Diagnostic) : Prop where
  /-- Its file comes before. -/
  | byFile (h : FileBefore a.file b.file)
  /-- The files are the same, and it starts no later. -/
  | byStart (hfile : a.file = b.file) (hstart : a.startKey ≤ b.startKey)

theorem compare_fileKey_eq_lt_iff {a b : Diagnostic} :
    compare a.fileKey b.fileKey = .lt ↔ FileBefore a.file b.file := by
  unfold fileKey
  cases a.file with
  | none =>
    cases b.file with
    | none => exact iff_of_false (by decide) nofun
    | some t => exact iff_of_true rfl .unnamed
  | some s =>
    cases b.file with
    | none => exact iff_of_false (fun h => by cases h) nofun
    | some t => exact compare_bytes_eq_lt_iff.trans ⟨.named, fun | .named h => h⟩

theorem compare_fileKey_eq_eq_iff {a b : Diagnostic} :
    compare a.fileKey b.fileKey = .eq ↔ a.file = b.file := by
  rw [Std.compare_eq_iff_eq]
  exact (Option.map_injective encode_injective).eq_iff

/-- The sort order compares the files, and the starts if these are the same. -/
theorem precedes_eq_isLE (a b : Diagnostic) :
    a.precedes b = (compareLex (compareOn fileKey) (compareOn startKey) a b).isLE := by
  rw [precedes, compareLex, compareOn, compareOn]
  cases compare a.fileKey b.fileKey with
  | lt => rfl
  | gt => rfl
  | eq =>
    show decide _ = (compare a.startKey b.startKey).isLE
    rw [Bool.eq_iff_iff, decide_eq_true_iff, Std.isLE_compare]

/-- **The sort order is by file, then by start.** -/
theorem precedes_iff {a b : Diagnostic} : a.precedes b = true ↔ a.MayPrecede b := by
  rw [precedes_eq_isLE, compareLex, Ordering.isLE_then_iff_or, compareOn, compareOn,
    compare_fileKey_eq_lt_iff, compare_fileKey_eq_eq_iff, Std.isLE_compare]
  constructor
  · rintro (h | ⟨hfile, hstart⟩)
    · exact .byFile h
    · exact .byStart hfile hstart
  · rintro (h | ⟨hfile, hstart⟩)
    · exact Or.inl h
    · exact Or.inr ⟨hfile, hstart⟩

theorem precedes_refl (a : Diagnostic) : a.precedes a = true := by
  rw [precedes_eq_isLE]
  exact Std.ReflCmp.isLE_rfl

theorem precedes_trans {a b c : Diagnostic} (hab : a.precedes b = true)
    (hbc : b.precedes c = true) : a.precedes c = true := by
  rw [precedes_eq_isLE] at *
  exact Std.TransCmp.isLE_trans hab hbc

theorem precedes_total (a b : Diagnostic) : a.precedes b = true ∨ b.precedes a = true := by
  rw [precedes_eq_isLE, precedes_eq_isLE, ← Std.OrientedCmp.isGE_eq_isLE (a := a) (b := b)]
  cases compareLex (compareOn fileKey) (compareOn startKey) a b <;> simp

theorem ties_refl (a : Diagnostic) : a.Ties a := ⟨rfl, rfl⟩

theorem Ties.symm {a b : Diagnostic} (h : a.Ties b) : b.Ties a :=
  ⟨h.1.symm, h.2.symm⟩

theorem Ties.trans {a b c : Diagnostic} (hab : a.Ties b) (hbc : b.Ties c) : a.Ties c :=
  ⟨hab.1.trans hbc.1, hab.2.trans hbc.2⟩

theorem Ties.precedes {a b : Diagnostic} (h : a.Ties b) : a.precedes b = true :=
  precedes_iff.2 (.byStart h.1 (UInt32.le_of_eq h.2))

/-- **Diagnostics tie if the order does not tell them apart.** -/
theorem ties_iff {a b : Diagnostic} : a.Ties b ↔ a.precedes b = true ∧ b.precedes a = true := by
  constructor
  · exact fun h => ⟨h.precedes, h.symm.precedes⟩
  · rintro ⟨hab, hba⟩
    rw [precedes_eq_isLE] at hab hba
    have heq := Std.OrientedCmp.isLE_antisymm hab hba
    rw [compareLex, Ordering.then_eq_eq, compareOn, compareOn, compare_fileKey_eq_eq_iff,
      Std.compare_eq_iff_eq] at heq
    exact heq

end Diagnostic

/-! ## Sorted lists -/

namespace Collection

open Diagnostic

/-- **The same ties**: those that tie with any one diagnostic are the same list in both. -/
def SameTies (l m : List Diagnostic) : Prop :=
  ∀ d : Diagnostic, l.filter (d.Ties ·) = m.filter (d.Ties ·)

/-- **What a sort is to do**: nothing is lost and nothing is added, the diagnostics stand
in order, and those that tie stand as they stood before. -/
structure SortsTo (before after : List Diagnostic) : Prop where
  /-- The diagnostics are the same. -/
  perm : after.Perm before
  /-- They stand in order. -/
  ordered : after.Pairwise MayPrecede
  /-- Those that tie stand as they stood before. -/
  sameTies : SameTies after before

/-- Two diagnostics that tie stand in the order in which they stood. -/
theorem SortsTo.pair_sublist_iff {before after : List Diagnostic} (h : SortsTo before after)
    {d e : Diagnostic} (hties : d.Ties e) :
    [d, e].Sublist after ↔ [d, e].Sublist before := by
  have hkept : ∀ l : List Diagnostic,
      [d, e].Sublist l ↔ [d, e].Sublist (l.filter (d.Ties ·)) := by
    intro l
    refine ⟨fun hl => ?_, fun hl => hl.trans List.filter_sublist⟩
    have hpair : [d, e].filter (d.Ties ·) = [d, e] := by
      simp [ties_refl, hties]
    exact hpair ▸ hl.filter (d.Ties ·)
  rw [hkept after, hkept before, h.sameTies]

/-- What is sorted to a list that is sorted again has been sorted to the second. -/
theorem SortsTo.trans {l m n : List Diagnostic} (h : SortsTo l m) (h' : SortsTo m n) :
    SortsTo l n :=
  ⟨h'.perm.trans h.perm, h'.ordered, fun d => (h'.sameTies d).trans (h.sameTies d)⟩

/-! ## There is one sorted list -/

/-- The first of a list in order may stand before all of it. -/
theorem precedes_of_mem {d e : Diagnostic} {l : List Diagnostic}
    (h : (d :: l).Pairwise MayPrecede) (he : e ∈ d :: l) : d.precedes e = true := by
  obtain rfl | he := List.mem_cons.1 he
  · exact precedes_refl e
  · exact precedes_iff.2 (List.rel_of_pairwise_cons h he)

/-- Lists with the same ties have the same members. -/
theorem SameTies.mem_iff {l m : List Diagnostic} (h : SameTies l m) (d : Diagnostic) :
    d ∈ l ↔ d ∈ m := by
  have hd : d ∈ l.filter (d.Ties ·) ↔ d ∈ m.filter (d.Ties ·) := by rw [h d]
  simpa [ties_refl] using hd

/-- **A list in order is known from its ties.** -/
theorem SameTies.eq_of_ordered {l m : List Diagnostic} (h : SameTies l m)
    (hl : l.Pairwise MayPrecede) (hm : m.Pairwise MayPrecede) : l = m := by
  induction l generalizing m with
  | nil =>
    cases m with
    | nil => rfl
    | cons b m => exact absurd ((h.mem_iff b).2 List.mem_cons_self) List.not_mem_nil
  | cons a l ih =>
    cases m with
    | nil => exact absurd ((h.mem_iff a).1 List.mem_cons_self) List.not_mem_nil
    | cons b m =>
      -- each of the two firsts is in the other list, so they tie
      have hab : a.Ties b :=
        ties_iff.2 ⟨precedes_of_mem hl ((h.mem_iff b).2 List.mem_cons_self),
          precedes_of_mem hm ((h.mem_iff a).1 List.mem_cons_self)⟩
      have hfirst := h a
      rw [List.filter_cons_of_pos (by simpa using ties_refl a),
        List.filter_cons_of_pos (by simpa using hab)] at hfirst
      obtain rfl : a = b := (List.cons.inj hfirst).1
      refine congrArg (a :: ·) (ih (fun d => ?_) hl.of_cons hm.of_cons)
      have hrest := h d
      by_cases hd : d.Ties a
      · rw [List.filter_cons_of_pos (by simpa using hd),
          List.filter_cons_of_pos (by simpa using hd)] at hrest
        exact List.tail_eq_of_cons_eq hrest
      · rwa [List.filter_cons_of_neg (by simpa using hd),
          List.filter_cons_of_neg (by simpa using hd)] at hrest

/-- **There is one list that a list is sorted to.** -/
theorem SortsTo.unique {before l m : List Diagnostic} (hl : SortsTo before l)
    (hm : SortsTo before m) : l = m :=
  SameTies.eq_of_ordered (fun d => (hl.sameTies d).trans (hm.sameTies d).symm) hl.ordered hm.ordered

/-- **Sorting does what a sort is to do.** -/
theorem sortsTo_sort (c : Collection) : SortsTo c.toList c.sort.toList := by
  have htrans : ∀ a b d : Diagnostic, a.precedes b = true → b.precedes d = true →
      a.precedes d = true := fun _ _ _ => precedes_trans
  have htotal : ∀ a b : Diagnostic, (a.precedes b || b.precedes a) = true := by
    intro a b
    rw [Bool.or_eq_true]
    exact precedes_total a b
  refine ⟨c.sort_perm, ?_, fun d => ?_⟩
  · exact (List.pairwise_mergeSort htrans htotal c.toList).imp precedes_iff.1
  · -- those that tie are in order as they are, and a stable sort keeps such a list
    have hordered : (c.toList.filter (d.Ties ·)).Pairwise
        (fun a b => a.precedes b = true) := by
      rw [List.pairwise_filter]
      refine List.pairwise_of_forall fun a b ha hb => ?_
      have hda : d.Ties a := of_decide_eq_true ha
      exact (hda.symm.trans (of_decide_eq_true hb)).precedes
    have hsub := (List.sublist_mergeSort htrans htotal hordered List.filter_sublist).filter
      (d.Ties ·)
    rw [List.filter_filter] at hsub
    simp only [Bool.and_self] at hsub
    exact (hsub.eq_of_length (c.sort_perm.filter _).length_eq.symm).symm

/-- **Sorting again does nothing.** -/
theorem sort_sort (c : Collection) : c.sort.sort = c.sort := by
  have htwice := (sortsTo_sort c).trans (sortsTo_sort c.sort)
  exact congrArg Collection.mk (htwice.unique (sortsTo_sort c))

/-! ## Runs -/

/-- The diagnostics that a step adds. -/
def Step.added : Step → List Diagnostic
  | .add d => [d]
  | .sort => []
  | .turn => []

/-- The diagnostics that steps add, in turn. -/
def addedBy (steps : List Step) : List Diagnostic :=
  steps.flatMap Step.added

/-- **Turning round is taking every diagnostic out and adding it again**, the last one
first. -/
theorem turn_eq_foldl_add (c : Collection) : c.turn = c.toList.reverse.foldl add empty := by
  have hfold : ∀ (ds : List Diagnostic) (b : Collection),
      (ds.foldl add b).toList = b.toList ++ ds := by
    intro ds
    induction ds with
    | nil => exact fun b => (List.append_nil _).symm
    | cons d ds ih =>
      intro b
      rw [List.foldl_cons, ih, toList_add, List.append_assoc]
      rfl
  exact congrArg Collection.mk (hfold c.toList.reverse empty).symm

/-- **A step loses and invents nothing.** -/
theorem step_perm (c : Collection) (s : Step) : (c.step s).toList.Perm (c.toList ++ s.added) := by
  cases s with
  | add d => exact List.Perm.refl _
  | sort =>
    rw [Step.added, List.append_nil]
    exact c.sort_perm
  | turn =>
    rw [Step.added, List.append_nil]
    exact List.reverse_perm _

/-- Nor do any steps. -/
theorem foldl_step_perm (c : Collection) (steps : List Step) :
    (steps.foldl step c).toList.Perm (c.toList ++ addedBy steps) := by
  induction steps generalizing c with
  | nil => simp [addedBy]
  | cons s steps ih =>
    have hadded : addedBy (s :: steps) = s.added ++ addedBy steps := List.flatMap_cons
    rw [hadded, ← List.append_assoc]
    exact (ih (c.step s)).trans ((c.step_perm s).append_right _)

/-- The collections of a run, the one at the start among them. -/
theorem getElem?_cons_run (c : Collection) {steps : List Step} {n : Nat}
    (h : n ≤ steps.length) : (c :: c.run steps)[n]? = some ((steps.take n).foldl step c) := by
  induction steps generalizing c n with
  | nil =>
    obtain rfl : n = 0 := Nat.le_zero.1 h
    rfl
  | cons s steps ih =>
    cases n with
    | zero => rfl
    | succ n => exact ih (c.step s) (Nat.le_of_succ_le_succ h)

/-- **Over any run, diagnostics are kept and sorted stably.** After each step of a run
the collection holds those it held at first and those added since, and nothing else;
turning round takes all out and adds them again from the last. A sort puts them in the
order of their files and their starts, which is total, and keeps the order of those
that tie; there is only one list like that, so sorting again does nothing. -/
theorem run_stably_ordered :
    (∀ (c : Collection) (steps : List Step) (n : Nat), n < steps.length →
        ∃ before after, (c :: c.run steps)[n]? = some before ∧ (c.run steps)[n]? = some after
          ∧ after.toList.Perm (c.toList ++ addedBy (steps.take (n + 1)))
          ∧ (steps[n]? = some .sort → SortsTo before.toList after.toList))
      ∧ (∀ c : Collection, c.step .turn = c.toList.reverse.foldl add empty)
      ∧ (∀ before after : List Diagnostic, SortsTo before after → ∀ d e : Diagnostic, d.Ties e →
        ([d, e].Sublist after ↔ [d, e].Sublist before))
      ∧ (∀ before l m : List Diagnostic, SortsTo before l → SortsTo before m → l = m)
      ∧ (∀ c : Collection, c.sort.sort = c.sort)
      ∧ (∀ a b : Diagnostic, a.precedes b = true ↔ a.MayPrecede b)
      ∧ (∀ a : Diagnostic, a.precedes a = true)
      ∧ (∀ a b d : Diagnostic, a.precedes b = true → b.precedes d = true → a.precedes d = true)
      ∧ ∀ a b : Diagnostic, a.precedes b = true ∨ b.precedes a = true := by
  refine ⟨fun c steps n hn => ?_, turn_eq_foldl_add, fun _ _ h _ _ => h.pair_sublist_iff,
    fun _ _ _ hl hm => hl.unique hm, sort_sort, fun _ _ => precedes_iff, precedes_refl,
    fun _ _ _ => precedes_trans, precedes_total⟩
  have hafter := c.getElem?_cons_run (Nat.succ_le_of_lt hn)
  refine ⟨_, _, c.getElem?_cons_run (Nat.le_of_lt hn), hafter, foldl_step_perm c _, fun hsort => ?_⟩
  rw [List.take_add_one, hsort, List.foldl_append]
  exact sortsTo_sort _

/-- A diagnostic with a file between two without one, of which one has no span either. -/
theorem run_stably_ordered_no_span :
    let named : Diagnostic := ⟨some "b", some ⟨3, 1⟩, "x", 1127, .error⟩
    let spanless : Diagnostic := ⟨none, none, "y", 1127, .error⟩
    let atStart : Diagnostic := ⟨none, some ⟨0, 1⟩, "z", 1127, .error⟩
    let steps : List Step := [.add spanless, .add named, .add atStart, .turn, .sort]
    (4 < steps.length ∧ steps[4]? = some .sort)
      ∧ SortsTo [atStart, named, spanless] [atStart, spanless, named]
      ∧ (atStart.Ties spanless ∧ ([atStart, spanless].Sublist [atStart, spanless, named]
        ↔ [atStart, spanless].Sublist [atStart, named, spanless]))
      ∧ (sort ⟨[atStart, named, spanless]⟩).toList = [atStart, spanless, named]
      ∧ (atStart.precedes spanless = true ∧ spanless.precedes named = true)
      ∧ atStart.precedes named = true := by
  intro named spanless atStart steps
  have hlen : 4 < steps.length := by decide
  have hsort : steps[4]? = some .sort := rfl
  have hties : atStart.Ties spanless := ⟨rfl, rfl⟩
  have hprecedes : atStart.precedes spanless = true ∧ spanless.precedes named = true := by
    constructor <;> decide +kernel
  obtain ⟨hrun, -, hpair, hunique, -, -, -, htrans, -⟩ := run_stably_ordered
  obtain ⟨before, after, hbefore, hafter, -, hsorts⟩ := hrun empty steps 4 hlen
  have hturned : (empty :: empty.run steps)[4]? = some ⟨[atStart, named, spanless]⟩ := rfl
  have hsorted : (empty.run steps)[4]? = some ⟨[atStart, spanless, named]⟩ := by
    show some (sort ⟨[atStart, named, spanless]⟩) = _
    have hfirst : atStart.precedes named = true := precedes_trans hprecedes.1 hprecedes.2
    have hnamed : named.precedes spanless = false := by decide +kernel
    simp [sort, List.mergeSort, List.MergeSort.Internal.splitInTwo, hprecedes.1, hfirst, hnamed]
  obtain rfl := Option.some_inj.1 (hbefore.symm.trans hturned)
  obtain rfl := Option.some_inj.1 (hafter.symm.trans hsorted)
  exact ⟨⟨hlen, hsort⟩, hsorts hsort, ⟨hties, hpair _ _ (hsorts hsort) _ _ hties⟩,
    hunique _ _ _ (sortsTo_sort _) (hsorts hsort), hprecedes,
    htrans _ _ _ hprecedes.1 hprecedes.2⟩

end Collection

end ScriptLexer

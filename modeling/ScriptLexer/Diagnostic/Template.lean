/-!
# Message templates

A template is a text with numbered placeholders – `{0}`, `{1}` and so on, a
decimal numeral between braces. Filling one in goes **argument by
argument**: every placeholder of the first argument is replaced, then in the
result every placeholder of the second, and so on. An argument that itself
looks like a later placeholder is therefore replaced in its turn, and a
placeholder without an argument stays as it is.
-/

namespace ScriptLexer

/-- **Replacing a pattern**: `cs` with every occurrence of `pattern`
replaced by `replacement`, taking occurrences from the left and without
overlap. What a replacement inserts is not searched again. The pattern is
its first character and the rest, so it is never empty. -/
def replaceAll (first : Char) (others replacement : List Char) :
    List Char → List Char
  | [] => []
  | c :: cs =>
    if c = first ∧ others.isPrefixOf cs then
      replacement ++ replaceAll first others replacement (cs.drop others.length)
    else c :: replaceAll first others replacement cs
termination_by cs => cs.length
decreasing_by
  · simp only [List.length_drop, List.length_cons]
    omega
  · simp only [List.length_cons]
    omega

/-- A stretch in which the pattern cannot begin stays as it is. -/
theorem replaceAll_append_of_not_mem {first : Char} (others replacement : List Char)
    {cs : List Char} (h : first ∉ cs) (ds : List Char) :
    replaceAll first others replacement (cs ++ ds)
      = cs ++ replaceAll first others replacement ds := by
  induction cs with
  | nil => rfl
  | cons c cs ih =>
    obtain ⟨hne, hcs⟩ := not_or.1 (mt List.mem_cons.2 h)
    rw [List.cons_append, replaceAll, if_neg (fun hmatch => hne hmatch.1.symm), ih hcs,
      List.cons_append]

/-- An occurrence of the pattern is replaced, and the search goes on behind
it. -/
theorem replaceAll_pattern_append (first : Char) (others replacement cs : List Char) :
    replaceAll first others replacement (first :: others ++ cs)
      = replacement ++ replaceAll first others replacement cs := by
  have hmatch : others.isPrefixOf (others ++ cs) = true :=
    List.isPrefixOf_iff_prefix.2 (List.prefix_append others cs)
  rw [List.cons_append, replaceAll, if_pos ⟨rfl, hmatch⟩, List.drop_left]

namespace Template

/-- Fill in the placeholder of the argument with index `i`. -/
def fill (i : Nat) (argument : List Char) (cs : List Char) : List Char :=
  replaceAll '{' (Nat.toDigits 10 i ++ ['}']) argument cs

/-- Fill in the placeholders of all arguments, the first of which has
index `i`, one argument after the other. -/
def fillFrom (i : Nat) : List (List Char) → List Char → List Char
  | [], cs => cs
  | argument :: arguments, cs => fillFrom (i + 1) arguments (fill i argument cs)

/-- **Filling in a template** with its arguments. -/
def format (template : String) (arguments : List String) : String :=
  String.ofList (fillFrom 0 (arguments.map String.toList) template.toList)

end Template

end ScriptLexer

import SymbolProbe.Proofs.Merging

/-!
# Precedence of merged rules

A merge takes in the named rules and the defaults of a file in any case, and its pattern rules all
or not at all (`RuleSet.merge_eq`). After any run of merges, a name is therefore looked up in the
last file that has an entry for it, whether its patterns were taken or not, and behind the entries
only the files with taken patterns are searched, the last file first
(`RuleSet.mergeAll_precedence`).
-/

namespace SymbolProbe

/-! ### The patterns of a file -/

/-- The rule that an entry states, if its text is a pattern. -/
def PatternEntry.compile? (e : PatternEntry) : Option PatternRule :=
  (Pattern.ofText? e.pattern).map fun p => ⟨p, e.rule⟩

namespace RuleFile

/-- The first text among the patterns of a file that is none. -/
def rejected? (f : RuleFile) : Option String :=
  (f.patterns.find? fun e => e.compile?.isNone).map PatternEntry.pattern

/-- The pattern rules that a merge takes from a file: all of them, in file order, or none if a text
is rejected. -/
def takenPatterns (f : RuleFile) : List PatternRule :=
  if f.rejected?.isSome then [] else f.patterns.filterMap PatternEntry.compile?

lemma rejected?_eq_none_iff (f : RuleFile) :
    f.rejected? = none ↔ ∀ e ∈ f.patterns, (Pattern.ofText? e.pattern).isSome := by
  simp [rejected?, PatternEntry.compile?, Option.isSome_iff_ne_none]

end RuleFile

namespace RuleSet

/-! ### One merge -/

lemma compilePatterns_eq (es : List PatternEntry) :
    compilePatterns es =
      match es.find? fun e => e.compile?.isNone with
      | some e => .error e.pattern
      | none => .ok (es.filterMap PatternEntry.compile?) := by
  induction es with
  | nil => rfl
  | cons e es ih =>
    rw [compilePatterns, ih]
    cases hp : Pattern.ofText? e.pattern with
    | none =>
      have he : e.compile? = none := by simp [PatternEntry.compile?, hp]
      simp [he]
    | some p =>
      have he : e.compile? = some ⟨p, e.rule⟩ := by simp [PatternEntry.compile?, hp]
      cases hes : es.find? fun e => e.compile?.isNone <;> simp [he, hes, Except.map]

/-- All that a merge does, be its patterns taken or not. -/
lemma merge_eq (r : RuleSet) (f : RuleFile) :
    r.merge f =
      ⟨{ r.mergeNamed f with patterns := f.takenPatterns ++ r.patterns }, f.rejected?⟩ := by
  rw [merge, compilePatterns_eq, RuleFile.takenPatterns, RuleFile.rejected?]
  cases f.patterns.find? fun e => e.compile?.isNone <;> simp [mergeNamed]

lemma rejected_merge (r : RuleSet) (f : RuleFile) : (r.merge f).rejected = f.rejected? := by
  rw [merge_eq]

lemma scope_merge (r : RuleSet) (f : RuleFile) : (r.merge f).rules.scope = r.scope := by
  rw [merge_eq]
  rfl

lemma find?_classes_merge (name : String) (r : RuleSet) (f : RuleFile) :
    (r.merge f).rules.classes.find? name = (f.classes.find? name).or (r.classes.find? name) := by
  rw [merge_eq]
  exact Table.find?_extend r.classes f.classes name

lemma find?_templates_merge (name : String) (r : RuleSet) (f : RuleFile) :
    (r.merge f).rules.templates.find? name =
      (f.templates.find? name).or (r.templates.find? name) := by
  rw [merge_eq]
  exact Table.find?_extend r.templates f.templates name

lemma find?_functions_merge (name : String) (r : RuleSet) (f : RuleFile) :
    (r.merge f).rules.functions.find? name =
      (f.functions.find? name).or (r.functions.find? name) := by
  rw [merge_eq]
  exact Table.find?_extend r.functions f.functions name

lemma defaults_merge (r : RuleSet) (f : RuleFile) :
    some (r.merge f).rules.defaults = f.templateDefaults.or (some r.defaults) := by
  rw [merge_eq]
  cases hd : f.templateDefaults <;> simp [mergeNamed, hd]

lemma patterns_merge (r : RuleSet) (f : RuleFile) :
    (r.merge f).rules.patterns = f.takenPatterns ++ r.patterns := by
  rw [merge_eq]

/-! ### A run of merges -/

lemma mergeAll_cons (r : RuleSet) (f : RuleFile) (fs : List RuleFile) :
    r.mergeAll (f :: fs) = (r.merge f).rules.mergeAll fs := rfl

/-- If every merge lets its file answer first, the last file with an answer decides. -/
lemma mergeAll_of_merge {α : Type} (look : RuleSet → Option α) {entry : RuleFile → Option α}
    (h : ∀ r f, look (r.merge f).rules = (entry f).or (look r)) (r : RuleSet)
    (fs : List RuleFile) : look (r.mergeAll fs) = (fs.reverse.findSome? entry).or (look r) := by
  induction fs generalizing r with
  | nil => rfl
  | cons f fs ih =>
    rw [mergeAll_cons, ih, h, ← Option.or_assoc, List.reverse_cons, List.findSome?_append]
    congr 2
    cases hf : entry f <;> simp [hf]

lemma scope_mergeAll (r : RuleSet) (fs : List RuleFile) : (r.mergeAll fs).scope = r.scope := by
  induction fs generalizing r with
  | nil => rfl
  | cons f fs ih => rw [mergeAll_cons, ih, scope_merge]

lemma patterns_mergeAll (r : RuleSet) (fs : List RuleFile) :
    (r.mergeAll fs).patterns = fs.reverse.flatMap RuleFile.takenPatterns ++ r.patterns := by
  induction fs generalizing r with
  | nil => rfl
  | cons f fs ih =>
    rw [mergeAll_cons, ih, patterns_merge, List.reverse_cons, List.flatMap_append,
      List.append_assoc]
    simp

lemma defaults_mergeAll (r : RuleSet) (fs : List RuleFile) :
    (r.mergeAll fs).defaults = (fs.reverse.findSome? RuleFile.templateDefaults).getD r.defaults := by
  have h := mergeAll_of_merge (fun r => some r.defaults) defaults_merge r fs
  cases hd : fs.reverse.findSome? RuleFile.templateDefaults with
  | none => simpa [hd] using h
  | some d => simpa [hd] using h

/-- The look-ups in a rule set `s` after files were merged over `r`, the last of them first. The
entries of all files count, the patterns of those whose patterns were taken. -/
structure Overlays (s r : RuleSet) (fs : List RuleFile) : Prop where
  scope : s.scope = r.scope
  classRule? (name : String) :
    s.classRule? name =
      (fs.reverse.findSome? fun f => f.classes.find? name).or (r.classRule? name)
  templateEntry? (name : String) :
    s.templates.find? name =
      (fs.reverse.findSome? fun f => f.templates.find? name).or (r.templates.find? name)
  functionEntry? (name : String) :
    s.functions.find? name =
      (fs.reverse.findSome? fun f => f.functions.find? name).or (r.functions.find? name)
  defaults : s.defaults = (fs.reverse.findSome? RuleFile.templateDefaults).getD r.defaults
  functionRule (name : String) :
    s.functionRule name =
      ((s.functions.find? name).or
        (((fs.reverse.flatMap RuleFile.takenPatterns ++ r.patterns).find? fun p =>
          p.pattern.isMatch name).map PatternRule.rule)).getD .address

/-- A merge is rejected for the first text of the file that is no pattern, and for no other reason.
After any run of merges the later files have precedence over the earlier ones. -/
theorem mergeAll_precedence (r : RuleSet) (fs : List RuleFile) :
    (∀ f, ((r.merge f).rejected = none ↔
        ∀ e ∈ f.patterns, (Pattern.ofText? e.pattern).isSome) ∧
      (r.merge f).rejected =
        (f.patterns.find? fun e => (Pattern.ofText? e.pattern).isNone).map PatternEntry.pattern) ∧
      (r.mergeAll fs).Overlays r fs := by
  refine ⟨fun f => ⟨?_, ?_⟩, ?_⟩
  · rw [rejected_merge, RuleFile.rejected?_eq_none_iff]
  · rw [rejected_merge, RuleFile.rejected?]
    simp only [PatternEntry.compile?, Option.isNone_map]
  · constructor
    case scope => exact scope_mergeAll r fs
    case classRule? =>
      exact fun name => mergeAll_of_merge (·.classes.find? name) (find?_classes_merge name) r fs
    case templateEntry? =>
      exact fun name => mergeAll_of_merge (·.templates.find? name) (find?_templates_merge name) r fs
    case functionEntry? =>
      exact fun name => mergeAll_of_merge (·.functions.find? name) (find?_functions_merge name) r fs
    case defaults => exact defaults_mergeAll r fs
    case functionRule =>
      intro name
      rw [functionRule, patternRule?, patterns_mergeAll]

end RuleSet

end SymbolProbe

import Mathlib.Data.List.Basic
import SymbolProbe.Proofs.NameFamilies
import SymbolProbe.Proofs.Precedence
import SymbolProbe.Proofs.Tally

/-!
# Overrides that survive merging

The built-in rules know functions that have no plain address and classes that are not constructed
without arguments. Merging may shadow their rules but never takes one away, so each of these names
keeps a rule of its own through any run of merges (`RuleSet.HasRuleFor.mergeAll`,
`RuleSet.Constructs.mergeAll`). As long as no file brings in the plain address, or a class entry
without arguments, no program takes the bare address of such a function or constructs such a class
without arguments (`RuleSet.overrides_survive`).
-/

namespace SymbolProbe

/-! ### Names with overrides -/

/-- The functions for which the built-in rules select an overload or an instantiation: some by their
names, and two families. -/
inductive HasOverride (name : String) : Prop
  | listed (h : name ∈ ["are_locked", "try_locks", "unlock_all", "absDistance", "areAlmostEqual",
      "degToRad", "getNormalizedDegree", "readNextValue"]) : HasOverride name
  | conversion (h : IsConversionName name.toList) : HasOverride name
  | setOperation (h : IsSetOperationName name.toList) : HasOverride name

/-- The classes that are constructed with arguments. -/
def overriddenClasses : List String := ["CException", "CLockGuard", "CSinCosTable"]

/-- No entry of a file for one of these classes is without arguments. -/
def RuleFile.KeepsArguments (f : RuleFile) : Prop :=
  ∀ name ∈ overriddenClasses, ∀ rule, f.classes.find? name = some rule → rule.args ≠ []

/-! ### Pointers -/

/-- A rule that selects an overload or an instantiation gives no bare address. -/
lemma RuleSet.ne_bare_of_mem_pointers {qualified p : String} {rule : FunctionRule}
    (hrule : rule ≠ .address) (hp : p ∈ pointers qualified rule) : p ≠ "(void*)" ++ qualified := by
  intro hbare
  have hlength := congrArg (fun text => text.toList.length) hbare
  cases rule with
  | address => exact hrule rfl
  | instantiate args =>
    obtain rfl := List.mem_singleton.1 hp
    simp at hlength
  | overloads signatures =>
    obtain ⟨s, -, rfl⟩ := List.mem_map.1 hp
    simp at hlength
    omega

namespace RuleSet

/-! ### Functions -/

/-- Some rule of the rule set, by name or by pattern, fits a function. -/
def HasRuleFor (r : RuleSet) (name : String) : Prop :=
  ((r.functions.find? name).or (r.patternRule? name)).isSome = true

variable {r : RuleSet} {name : String}

/-- A merge takes no rule away. -/
lemma HasRuleFor.merge (h : r.HasRuleFor name) (f : RuleFile) :
    (r.merge f).rules.HasRuleFor name := by
  rw [HasRuleFor, Option.isSome_or, Bool.or_eq_true] at h ⊢
  obtain h | h := h
  · left
    rw [find?_functions_merge, Option.isSome_or, h, Bool.or_true]
  · right
    rw [patternRule?, Option.isSome_map] at h ⊢
    rw [patterns_merge, List.find?_append, Option.isSome_or, h, Bool.or_true]

lemma HasRuleFor.mergeAll (h : r.HasRuleFor name) (fs : List RuleFile) :
    (r.mergeAll fs).HasRuleFor name := by
  induction fs generalizing r with
  | nil => exact h
  | cons f fs ih => exact ih (h.merge f)

/-- The built-in rules have one for every function with an override. -/
lemma hasRuleFor_builtin (scope : String) (h : HasOverride name) :
    (builtin scope).HasRuleFor name := by
  rw [HasRuleFor, Option.isSome_or, Bool.or_eq_true]
  cases h with
  | listed h =>
    left
    simp only [List.mem_cons, List.not_mem_nil, or_false] at h
    obtain rfl | rfl | rfl | rfl | rfl | rfl | rfl | rfl := h <;>
      simp [builtin, builtinFunctions, Table.find?_ofList]
  | conversion h =>
    right
    have hmatch := isMatch_conversionPattern.2 h
    simp [patternRule?, builtin, builtinPatterns, hmatch]
  | setOperation h =>
    right
    have hmatch := isMatch_setOperationPattern.2 h
    cases hconversion : conversionPattern.isMatch name <;>
      simp [patternRule?, builtin, builtinPatterns, hmatch, hconversion]

/-- Where a rule fits, no function has the plain address unless a rule brings it in. -/
lemma AllFunctionRules.functionRule_ne_address (h : r.AllFunctionRules (· ≠ .address))
    (hname : r.HasRuleFor name) : r.functionRule name ≠ .address := by
  obtain ⟨rule, hrule⟩ := Option.isSome_iff_exists.1 hname
  rw [RuleSet.functionRule, hrule, Option.getD_some]
  exact h.of_lookup hrule

lemma allFunctionRules_builtin_ne_address (scope : String) :
    (builtin scope).AllFunctionRules (· ≠ .address) := by
  refine allFunctionRules_builtin ?_
  simp [lockRule, distanceRule, comparisonRule, setOperationRule]

/-! ### Classes -/

/-- The rule set has a rule for a class that gives it arguments. -/
def Constructs (r : RuleSet) (name : String) : Prop :=
  ∃ rule, r.classRule? name = some rule ∧ rule.args ≠ []

/-- A class keeps its arguments, or gets the ones of the file. -/
lemma Constructs.merge (h : r.Constructs name) {f : RuleFile}
    (hf : ∀ rule, f.classes.find? name = some rule → rule.args ≠ []) :
    (r.merge f).rules.Constructs name := by
  obtain ⟨rule, hrule, hargs⟩ := h
  have hmerge : (r.merge f).rules.classRule? name =
      (f.classes.find? name).or (r.classRule? name) := find?_classes_merge name r f
  cases hnew : f.classes.find? name with
  | some new => exact ⟨new, by rw [hmerge, hnew, Option.some_or], hf new hnew⟩
  | none => exact ⟨rule, by rw [hmerge, hnew, Option.none_or, hrule], hargs⟩

lemma Constructs.mergeAll (h : r.Constructs name) {fs : List RuleFile}
    (hfs : ∀ f ∈ fs, ∀ rule, f.classes.find? name = some rule → rule.args ≠ []) :
    (r.mergeAll fs).Constructs name := by
  induction fs generalizing r with
  | nil => exact h
  | cons f fs ih => exact ih (h.merge (hfs f (by simp))) fun g hg => hfs g (by simp [hg])

lemma constructs_builtin (scope : String) (h : name ∈ overriddenClasses) :
    (builtin scope).Constructs name := by
  simp only [overriddenClasses, List.mem_cons, List.not_mem_nil, or_false] at h
  obtain rfl | rfl | rfl := h <;>
    simp [Constructs, classRule?, builtin, builtinClasses, Table.find?_ofList]

end RuleSet

/-! ### Programs -/

namespace Generator

variable {g : Generator} {l : Listing} {name : String}

/-- Without the plain address, no row of a function has the bare pointer. The row of a singleton
never has it. -/
lemma pointer_ne_bare (h : g.rules.functionRule name ≠ .address) {row : TableRow}
    (hrow : row ∈ (g.program l).table) (hname : row.name = name) :
    row.pointer ≠ "(void*)" ++ g.rules.qualified name := by
  rw [table_eq, List.mem_append] at hrow
  obtain hrow | hrow := hrow
  · obtain ⟨other, -, hrow⟩ := List.mem_flatMap.1 hrow
    obtain ⟨p, hp, rfl⟩ := List.mem_map.1 hrow
    obtain rfl : other = name := hname
    exact RuleSet.ne_bare_of_mem_pointers h hp
  · obtain ⟨other, -, rfl⟩ := List.mem_map.1 hrow
    obtain rfl : other = name := hname
    intro hbare
    have hlength := congrArg (fun text => text.toList.length) hbare
    simp [RuleSet.singletonRow] at hlength

/-- The check of a name that starts with `C` is that of a class. -/
lemma eq_classCheck_of_mem_objects {o : ObjectCheck} (ho : o ∈ (g.program l).objects)
    (hC : o.name.toList.head? = some 'C') : o = g.rules.classCheck o.name := by
  rw [program_eq] at ho
  obtain ⟨⟨kind, name⟩, hs, ho⟩ := List.mem_filterMap.1 ho
  cases kind with
  | objectClass =>
    obtain rfl := Option.some.inj ho
    rfl
  | classTemplate =>
    obtain rfl := Option.some.inj ho
    rw [symbols_eq] at hs
    obtain ⟨line, -, hclassify⟩ := List.mem_filterMap.1 (List.mem_filter.1 hs).1
    obtain ⟨t, -, hkind⟩ := Classifier.carries_of_classify hclassify
    cases hkind with
    | classTemplate _ _ hform =>
      have hT : name.toList.head? = some 'T' := hform.2.1
      rw [show (g.rules.templateCheck name).name = name from rfl, hT] at hC
      cases hC
  | freeFunction | globalSingleton => cases ho

/-- A class whose rule gives arguments is never constructed without them. -/
lemma isNullary_eq_false (h : g.rules.Constructs name) {o : ObjectCheck}
    (ho : o ∈ (g.program l).objects) (hname : o.name = name)
    (hC : name.toList.head? = some 'C') : o.isNullary = false := by
  subst hname
  obtain ⟨rule, hrule, hargs⟩ := h
  rw [eq_classCheck_of_mem_objects ho hC]
  simpa [ObjectCheck.isNullary, RuleSet.classCheck, hrule] using hargs

end Generator

namespace RuleSet

lemma head?_of_mem_overriddenClasses {name : String} (h : name ∈ overriddenClasses) :
    name.toList.head? = some 'C' := by
  simp only [overriddenClasses, List.mem_cons, List.not_mem_nil, or_false] at h
  obtain rfl | rfl | rfl := h <;> decide

/-- The overrides of the built-in rules survive every run of merges, be the patterns of a file taken
or not. Without files that bring in the plain address, the functions with an override never have it,
and no row for one is the bare pointer. Without files that take their arguments away, the
overridden classes are never constructed without any. -/
theorem overrides_survive (scope : String) (files : List RuleFile) :
    let r := (builtin scope).mergeAll files
    ((∀ f ∈ files, f.AllFunctionRules (· ≠ .address)) → ∀ name, HasOverride name →
      (r.functionRule name).isDisambiguating = true ∧
        ∀ c l, ∀ row ∈ (Generator.program ⟨c, r⟩ l).table, row.name = name →
          row.pointer ≠ "(void*)" ++ qualify scope name) ∧
    ((∀ f ∈ files, f.KeepsArguments) →
      ∀ c l, ∀ o ∈ (Generator.program ⟨c, r⟩ l).objects, o.name ∈ overriddenClasses →
        o.isNullary = false) := by
  intro r
  have hscope : r.scope = scope := scope_mergeAll (builtin scope) files
  constructor
  · intro hfiles name hname
    have hrules := (allFunctionRules_builtin_ne_address scope).mergeAll hfiles
    have hrule : r.functionRule name ≠ .address :=
      hrules.functionRule_ne_address ((hasRuleFor_builtin scope hname).mergeAll files)
    refine ⟨?_, fun c l row hrow hrowName => ?_⟩
    · cases hkind : r.functionRule name with
      | address => exact absurd hkind hrule
      | instantiate | overloads => rfl
    · have hbare := Generator.pointer_ne_bare (g := ⟨c, r⟩) hrule hrow hrowName
      rwa [qualified, hscope] at hbare
  · intro hfiles c l o ho hclass
    have hconstructs : r.Constructs o.name :=
      (constructs_builtin scope hclass).mergeAll fun f hf => hfiles f hf o.name hclass
    exact Generator.isNullary_eq_false (g := ⟨c, r⟩) hconstructs ho rfl
      (head?_of_mem_overriddenClasses hclass)

/-- A file whose pattern is rejected still brings in its entries, and a later file shadows a family;
the overrides survive both. -/
theorem overrides_survive_rejected_file :
    let rejected : RuleFile :=
      { classes := Table.ofList [("CLockGuard", { args := ["nullptr"] })]
        functions := Table.ofList [("to_string", .instantiate "int")]
        patterns := [⟨"(", .instantiate "char"⟩] }
    let shadowing : RuleFile := { patterns := [⟨"^set_", .overloads [⟨"void", []⟩]⟩] }
    let r := (builtin "pwx").mergeAll [rejected, shadowing]
    (r.functionRule "to_string").isDisambiguating = true ∧
      (r.functionRule "set_union").isDisambiguating = true ∧
      (∀ c l, ∀ row ∈ (Generator.program ⟨c, r⟩ l).table, row.name = "set_union" →
        row.pointer ≠ "(void*)" ++ qualify "pwx" "set_union") ∧
      ∀ c l, ∀ o ∈ (Generator.program ⟨c, r⟩ l).objects, o.name ∈ overriddenClasses →
        o.isNullary = false := by
  intro rejected shadowing r
  obtain ⟨hfunctions, hclasses⟩ := overrides_survive "pwx" [rejected, shadowing]
  have hfiles : ∀ f ∈ [rejected, shadowing], f.AllFunctionRules (· ≠ .address) := by
    simp only [List.mem_cons, List.not_mem_nil, or_false, forall_eq_or_imp, forall_eq]
    refine ⟨⟨fun name rule hrule => ?_, by simp [rejected]⟩,
      ⟨fun name rule hrule => ?_, by simp [shadowing]⟩⟩
    · have hmem := Table.mem_of_find?_ofList hrule
      simp only [List.mem_singleton, Prod.mk.injEq] at hmem
      simp [hmem.2]
    · cases hrule
  have harguments : ∀ f ∈ [rejected, shadowing], f.KeepsArguments := by
    simp only [List.mem_cons, List.not_mem_nil, or_false, forall_eq_or_imp, forall_eq]
    refine ⟨fun name _ rule hrule => ?_, fun name _ rule hrule => ?_⟩
    · have hmem := Table.mem_of_find?_ofList hrule
      simp only [List.mem_singleton, Prod.mk.injEq] at hmem
      simp [hmem.2]
    · cases hrule
  have hlower : ∀ c ∈ "union".toList, IsLowerLetter c :=
    List.forall_iff_forall_mem.1 (by decide)
  have htail : ∀ c ∈ "string".toList, IsLowerLetter c ∨ IsDecimalDigit c ∨ c = '_' :=
    List.forall_iff_forall_mem.1 (by decide)
  have hunion := hfunctions hfiles "set_union"
    (.setOperation ⟨"union".toList, by decide, hlower, by decide⟩)
  have hstring := hfunctions hfiles "to_string"
    (.conversion ⟨"string".toList, by decide, htail, by decide⟩)
  exact ⟨hstring.1, hunion.1, hunion.2, hclasses harguments⟩

end RuleSet

end SymbolProbe

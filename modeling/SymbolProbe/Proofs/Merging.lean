import Mathlib.Tactic.Lemma
import SymbolProbe.Rule.Builtin

/-!
# Function rules through merges

A property that all function rules of a rule set and of some files have is kept when the files are
merged, whether their patterns are taken or not, and holds of every rule that is looked up
afterwards.
-/

namespace SymbolProbe

/-- An entry of a table was in the list that the table is made from. -/
lemma Table.mem_of_find?_ofList {α : Type} {es : List (String × α)} {k : String} {v : α}
    (h : (ofList es).find? k = some v) : (k, v) ∈ es := by
  rw [find?_ofList, Option.map_eq_some_iff] at h
  obtain ⟨⟨_, _⟩, he, rfl⟩ := h
  obtain rfl : _ = k := by simpa using List.find?_some he
  exact List.mem_reverse.1 (List.mem_of_find?_eq_some he)

/-- All function rules of a file, by name or by pattern, have a property. -/
def RuleFile.AllFunctionRules (P : FunctionRule → Prop) (f : RuleFile) : Prop :=
  (∀ name rule, f.functions.find? name = some rule → P rule) ∧ ∀ e ∈ f.patterns, P e.rule

namespace RuleSet

/-- All function rules of a rule set, by name or by pattern, have a property. -/
def AllFunctionRules (P : FunctionRule → Prop) (r : RuleSet) : Prop :=
  (∀ name rule, r.functions.find? name = some rule → P rule) ∧ ∀ p ∈ r.patterns, P p.rule

/-- The rule set after files are merged one after the other. -/
def mergeAll (r : RuleSet) (fs : List RuleFile) : RuleSet :=
  fs.foldl (fun r f => (r.merge f).rules) r

variable {P : FunctionRule → Prop} {r : RuleSet}

/-! ### Look-up -/

/-- A rule that is found, by name or by pattern, is one of the rule set. -/
lemma AllFunctionRules.of_lookup (h : r.AllFunctionRules P) {name : String} {rule : FunctionRule}
    (hrule : (r.functions.find? name).or (r.patternRule? name) = some rule) : P rule := by
  obtain hname | ⟨-, hpattern⟩ := Option.or_eq_some_iff.1 hrule
  · exact h.1 name rule hname
  · obtain ⟨p, hp, rfl⟩ := Option.map_eq_some_iff.1 hpattern
    exact h.2 p (List.mem_of_find?_eq_some hp)

/-- A rule that is looked up is one of the rule set or the plain address. -/
lemma AllFunctionRules.functionRule (h : r.AllFunctionRules P) (ha : P .address) (name : String) :
    P (r.functionRule name) := by
  rw [RuleSet.functionRule]
  cases hrule : (r.functions.find? name).or (r.patternRule? name) with
  | some rule => exact h.of_lookup hrule
  | none => exact ha

/-! ### Merging -/

lemma exists_entry_of_mem_compilePatterns {es : List PatternEntry} {ps : List PatternRule}
    (h : compilePatterns es = .ok ps) {p : PatternRule} (hp : p ∈ ps) :
    ∃ e ∈ es, e.rule = p.rule := by
  induction es generalizing ps with
  | nil =>
    obtain rfl : [] = ps := by simpa [compilePatterns] using h
    simp at hp
  | cons e es ih =>
    rw [compilePatterns] at h
    split at h
    · cases h
    · cases hes : compilePatterns es with
      | error text => simp [hes, Except.map] at h
      | ok qs =>
        obtain rfl : ⟨_, e.rule⟩ :: qs = ps := by simpa [hes, Except.map] using h
        obtain rfl | hp := List.mem_cons.1 hp
        · exact ⟨e, by simp, rfl⟩
        · obtain ⟨d, hd, hrule⟩ := ih hes hp
          exact ⟨d, by simp [hd], hrule⟩

/-- A merge brings in no function rules but those of the file. -/
lemma AllFunctionRules.merge (h : r.AllFunctionRules P) {f : RuleFile}
    (hf : f.AllFunctionRules P) : (r.merge f).rules.AllFunctionRules P := by
  have hnamed : ∀ name rule, (r.mergeNamed f).functions.find? name = some rule → P rule := by
    intro name rule hrule
    rw [mergeNamed, Table.find?_extend, Option.or_eq_some_iff] at hrule
    obtain hrule | ⟨-, hrule⟩ := hrule
    · exact hf.1 name rule hrule
    · exact h.1 name rule hrule
  unfold RuleSet.merge
  split
  · rename_i ps hps
    refine ⟨hnamed, fun p hp => ?_⟩
    obtain hp | hp := List.mem_append.1 hp
    · obtain ⟨e, he, hrule⟩ := exists_entry_of_mem_compilePatterns hps hp
      exact hrule ▸ hf.2 e he
    · exact h.2 p hp
  · exact ⟨hnamed, h.2⟩

lemma AllFunctionRules.mergeAll (h : r.AllFunctionRules P) {fs : List RuleFile}
    (hfs : ∀ f ∈ fs, f.AllFunctionRules P) : (r.mergeAll fs).AllFunctionRules P := by
  induction fs generalizing r with
  | nil => exact h
  | cons f fs ih =>
    exact ih (h.merge (hfs f (by simp))) fun g hg => hfs g (by simp [hg])

/-! ### Where merging starts -/

lemma allFunctionRules_empty (scope : String) : (empty scope).AllFunctionRules P := by
  simp [AllFunctionRules, empty]

lemma allFunctionRules_builtin {scope : String}
    (h : ∀ rule ∈ [lockRule scope, distanceRule, comparisonRule, .instantiate "double",
      .instantiate "int", .instantiate "char*", setOperationRule scope], P rule) :
    (builtin scope).AllFunctionRules P := by
  constructor
  · intro name rule hrule
    have hmem := Table.mem_of_find?_ofList hrule
    simp only [List.mem_cons, Prod.mk.injEq, List.not_mem_nil, or_false] at hmem
    obtain ⟨-, rfl⟩ | ⟨-, rfl⟩ | ⟨-, rfl⟩ | ⟨-, rfl⟩ | ⟨-, rfl⟩ | ⟨-, rfl⟩ | ⟨-, rfl⟩ | ⟨-, rfl⟩ :=
      hmem <;> exact h _ (by simp)
  · intro p hp
    simp only [builtin, builtinPatterns, List.mem_cons, List.not_mem_nil, or_false] at hp
    obtain rfl | rfl := hp <;> exact h _ (by simp)

end RuleSet

end SymbolProbe

import SymbolProbe.Proofs.Precedence
import SymbolProbe.Proofs.Tally

/-!
# Merging a file again

A file that is merged a second time answers every look-up that its first merge could answer, and
answers it first. So the first merge can be left out, whatever files were merged in between
(`RuleSet.mergeAll_again`): the patterns of the file then stand in the rule set only once, but no
look-up finds the lower ones, and no program or report is made from anything but look-ups
(`RuleSet.LooksUpLike.program_eq`, `RuleSet.LooksUpLike.report_eq`).
-/

namespace SymbolProbe

namespace RuleSet

/-- No look-up tells the two rule sets apart, though their lists of patterns may differ. -/
structure LooksUpLike (r s : RuleSet) : Prop where
  scope : r.scope = s.scope
  classRule? (name : String) : r.classRule? name = s.classRule? name
  templateRule (name : String) : r.templateRule name = s.templateRule name
  functionRule (name : String) : r.functionRule name = s.functionRule name

/-! ### Programs by look-ups -/

namespace LooksUpLike

variable {r s : RuleSet}

lemma qualified (h : r.LooksUpLike s) (name : String) : r.qualified name = s.qualified name := by
  rw [RuleSet.qualified, RuleSet.qualified, h.scope]

lemma objectCheck? (h : r.LooksUpLike s) (x : Symbol) : r.objectCheck? x = s.objectCheck? x := by
  obtain ⟨kind, name⟩ := x
  cases kind with
  | objectClass =>
    simp only [RuleSet.objectCheck?, classCheck, h.qualified, h.classRule?]
  | classTemplate =>
    simp only [RuleSet.objectCheck?, templateCheck, h.qualified, h.templateRule]
  | freeFunction | globalSingleton => rfl

lemma functionRowsOf (h : r.LooksUpLike s) (x : Symbol) :
    r.functionRowsOf x = s.functionRowsOf x := by
  obtain ⟨kind, name⟩ := x
  cases kind with
  | freeFunction =>
    simp only [RuleSet.functionRowsOf, functionRows, h.qualified, h.functionRule]
  | objectClass | classTemplate | globalSingleton => rfl

lemma singletonRowsOf (h : r.LooksUpLike s) (x : Symbol) :
    r.singletonRowsOf x = s.singletonRowsOf x := by
  obtain ⟨kind, name⟩ := x
  cases kind with
  | globalSingleton => simp only [RuleSet.singletonRowsOf, singletonRow, h.qualified]
  | objectClass | classTemplate | freeFunction => rfl

variable (c : Config) (l : Listing)

/-- The lines are read by the namespace of the rule set and by nothing else of it. -/
lemma lineUses (h : r.LooksUpLike s) :
    Generator.lineUses ⟨c, r⟩ l = Generator.lineUses ⟨c, s⟩ l := by
  have hclassifier : Generator.classifier ⟨c, r⟩ = Generator.classifier ⟨c, s⟩ := by
    rw [Generator.classifier, Generator.classifier, h.scope]
  apply List.map_congr_left
  intro line _
  rw [Generator.lineUse, Generator.lineUse, hclassifier]

lemma program_eq (h : r.LooksUpLike s) :
    Generator.program ⟨c, r⟩ l = Generator.program ⟨c, s⟩ l := by
  rw [Generator.program_eq, Generator.program_eq, Generator.symbols, Generator.symbols,
    h.lineUses, funext h.objectCheck?, funext h.functionRowsOf, funext h.singletonRowsOf]
  rfl

lemma report_eq (h : r.LooksUpLike s) :
    Generator.report ⟨c, r⟩ l = Generator.report ⟨c, s⟩ l := by
  rw [Generator.report_eq, Generator.report_eq, h.lineUses, h.program_eq]
  rfl

end LooksUpLike

/-! ### Merges that are shadowed -/

lemma patternRule?_merge (name : String) (r : RuleSet) (f : RuleFile) :
    (r.merge f).rules.patternRule? name =
      ((f.takenPatterns.find? fun p => p.pattern.isMatch name).map PatternRule.rule).or
        (r.patternRule? name) := by
  rw [patternRule?, patterns_merge, List.find?_append, Option.map_or]
  rfl

/-- If every merge lets its file answer first, a file that is merged last need not have been merged
before. -/
lemma mergeAll_shadowed {α : Type} (look : RuleSet → Option α) {entry : RuleFile → Option α}
    (h : ∀ r f, look (r.merge f).rules = (entry f).or (look r)) (r : RuleSet) (f : RuleFile)
    (gs : List RuleFile) :
    look (r.mergeAll (f :: gs ++ [f])) = look (r.mergeAll (gs ++ [f])) := by
  rw [List.cons_append, mergeAll_cons, mergeAll_of_merge look h, mergeAll_of_merge look h, h]
  cases hf : entry f with
  | none => rw [Option.none_or]
  | some answer => simp [hf]

/-- A file that is merged first and last is only moved to the top, be the patterns of any of the
files taken or not: no look-up finds what its first merge left behind, and every listing gives the
same source and the same report. With no files in between, merging twice is merging once. -/
theorem mergeAll_again (r : RuleSet) (f : RuleFile) (gs : List RuleFile) :
    (r.mergeAll (f :: gs ++ [f])).LooksUpLike (r.mergeAll (gs ++ [f])) ∧
      ∀ c l,
        (Generator.program ⟨c, r.mergeAll (f :: gs ++ [f])⟩ l).source =
            (Generator.program ⟨c, r.mergeAll (gs ++ [f])⟩ l).source ∧
          Generator.report ⟨c, r.mergeAll (f :: gs ++ [f])⟩ l =
            Generator.report ⟨c, r.mergeAll (gs ++ [f])⟩ l := by
  have hlooks : (r.mergeAll (f :: gs ++ [f])).LooksUpLike (r.mergeAll (gs ++ [f])) := by
    constructor
    case scope => rw [scope_mergeAll, scope_mergeAll]
    case classRule? =>
      intro name
      exact mergeAll_shadowed (·.classes.find? name) (find?_classes_merge name) r f gs
    case templateRule =>
      intro name
      have hentry := mergeAll_shadowed (·.templates.find? name) (find?_templates_merge name) r f gs
      have hdefaults := mergeAll_shadowed (fun r => some r.defaults) defaults_merge r f gs
      rw [templateRule, templateRule, hentry, Option.some.inj hdefaults]
    case functionRule =>
      intro name
      have hentry := mergeAll_shadowed (·.functions.find? name) (find?_functions_merge name) r f gs
      have hpattern := mergeAll_shadowed (·.patternRule? name) (patternRule?_merge name) r f gs
      rw [functionRule, functionRule, hentry, hpattern]
  refine ⟨hlooks, ?_⟩
  intro c l
  exact ⟨congrArg Program.source (hlooks.program_eq c l), hlooks.report_eq c l⟩

end RuleSet

end SymbolProbe

import SymbolProbe.Proofs.Overrides

/-!
# The built-in table of functions

The built-in rules say of eight names, and of the names of two families, how the address of a
function is taken; every other function has the plain address. Exact names are looked up first, and
a family is told by a pattern that is searched for anywhere in the name, but no listed name belongs
to a family, the families have no name in common, and the patterns are found only in names that
belong to the family as a whole. So the order of the look-ups does not matter, and the table means
what it says for every name (`RuleSet.functionRule_builtin_iff`).
-/

namespace SymbolProbe

open Pattern (Atom Anchor ClassTree Expr Flags Tree)
open Unicode (CodeSet)

/-- What the built-in rules of a namespace say of a function. -/
inductive HasBuiltinRule (scope name : String) : FunctionRule → Prop
  /-- The lock helpers take two or three lockable objects. -/
  | lock (h : name ∈ ["are_locked", "try_locks", "unlock_all"]) :
      HasBuiltinRule scope name (.overloads [
        ⟨"bool", List.replicate 2 ("const " ++ scope ++ "::CLockable*")⟩,
        ⟨"bool", List.replicate 3 ("const " ++ scope ++ "::CLockable*")⟩])
  /-- A distance is taken in the plane or in space. -/
  | distance (h : name = "absDistance") :
      HasBuiltinRule scope name (.overloads [
        ⟨"double", List.replicate 4 "double"⟩, ⟨"double", List.replicate 6 "double"⟩])
  /-- Two numbers of one type are compared. -/
  | comparison (h : name = "areAlmostEqual") :
      HasBuiltinRule scope name (.overloads [
        ⟨"bool", ["float", "float"]⟩, ⟨"bool", ["double", "double"]⟩,
        ⟨"bool", ["long double", "long double"]⟩])
  | angle (h : name ∈ ["degToRad", "getNormalizedDegree"]) :
      HasBuiltinRule scope name (.instantiate "double")
  | reading (h : name = "readNextValue") : HasBuiltinRule scope name (.instantiate "int")
  | conversion (h : IsConversionName name.toList) :
      HasBuiltinRule scope name (.instantiate "char*")
  /-- A set operation takes two sets by pointer or by reference. -/
  | setOperation (h : IsSetOperationName name.toList) :
      HasBuiltinRule scope name (.overloads [
        ⟨scope ++ "::TSet<int>*", List.replicate 2 ("const " ++ scope ++ "::TSet<int>* const")⟩,
        ⟨scope ++ "::TSet<int>", List.replicate 2 ("const " ++ scope ++ "::TSet<int>&")⟩])
  | address (h : ¬ HasOverride name) : HasBuiltinRule scope name .address

/-! ### Families and listed names -/

/-- Whether a name is one of those with a built-in rule of their own. -/
def IsListed (name : String) : Prop :=
  name ∈ ["are_locked", "try_locks", "unlock_all", "absDistance", "areAlmostEqual", "degToRad",
    "getNormalizedDegree", "readNextValue"]

lemma IsConversionName.not_isListed {name : String} (h : IsConversionName name.toList) :
    ¬ IsListed name := by
  intro hlisted
  obtain ⟨rest, -, -, hname⟩ := h
  simp only [IsListed, List.mem_cons, List.not_mem_nil, or_false] at hlisted
  rcases hlisted with rfl | rfl | rfl | rfl | rfl | rfl | rfl | rfl <;> simp at hname

lemma IsSetOperationName.not_isListed {name : String} (h : IsSetOperationName name.toList) :
    ¬ IsListed name := by
  intro hlisted
  obtain ⟨rest, -, -, hname⟩ := h
  simp only [IsListed, List.mem_cons, List.not_mem_nil, or_false] at hlisted
  rcases hlisted with rfl | rfl | rfl | rfl | rfl | rfl | rfl | rfl <;> simp at hname

lemma IsSetOperationName.not_isConversionName {name : List Char} (h : IsSetOperationName name) :
    ¬ IsConversionName name := by
  rintro ⟨rest, -, -, hconversion⟩
  obtain ⟨rest', -, -, rfl⟩ := h
  simp at hconversion

namespace RuleSet

/-! ### The rules in full -/

lemma lockRule_eq (scope : String) :
    lockRule scope = .overloads [
      ⟨"bool", List.replicate 2 ("const " ++ scope ++ "::CLockable*")⟩,
      ⟨"bool", List.replicate 3 ("const " ++ scope ++ "::CLockable*")⟩] := by
  have hpointer : lockablePointer scope = "const " ++ scope ++ "::CLockable*" := by
    simp [lockablePointer, qualify, ← String.toList_inj]
  rw [lockRule, Signature.repeated, Signature.repeated, hpointer]

lemma setOperationRule_eq (scope : String) :
    setOperationRule scope = .overloads [
      ⟨scope ++ "::TSet<int>*", List.replicate 2 ("const " ++ scope ++ "::TSet<int>* const")⟩,
      ⟨scope ++ "::TSet<int>", List.replicate 2 ("const " ++ scope ++ "::TSet<int>&")⟩] := by
  simp [setOperationRule, Signature.repeated, setType, qualify, ← String.toList_inj]

/-! ### Look-up -/

lemma functionRule_of_not_isListed (scope : String) {name : String} (h : ¬ IsListed name) :
    (builtin scope).functionRule name = ((builtin scope).patternRule? name).getD .address := by
  have hentry : (builtin scope).functions.find? name = none := by
    rw [Option.eq_none_iff_forall_ne_some]
    intro rule hrule
    have hmem := Table.mem_of_find?_ofList hrule
    simp only [List.mem_cons, Prod.mk.injEq, List.not_mem_nil, or_false] at hmem
    apply h
    rcases hmem with ⟨rfl, -⟩ | ⟨rfl, -⟩ | ⟨rfl, -⟩ | ⟨rfl, -⟩ | ⟨rfl, -⟩ | ⟨rfl, -⟩ | ⟨rfl, -⟩ |
      ⟨rfl, -⟩ <;> simp [IsListed]
  rw [functionRule, hentry, Option.none_or]

lemma patternRule?_builtin (scope name : String) :
    (builtin scope).patternRule? name =
      if conversionPattern.isMatch name then some (.instantiate "char*")
      else if setOperationPattern.isMatch name then some (setOperationRule scope)
      else none := by
  rw [patternRule?, builtin, builtinPatterns, List.find?_cons, List.find?_cons]
  cases conversionPattern.isMatch name <;> cases setOperationPattern.isMatch name <;> rfl

/-- The rule that the table states is looked up. -/
lemma functionRule_of_hasBuiltinRule {scope name : String} {rule : FunctionRule}
    (h : HasBuiltinRule scope name rule) : (builtin scope).functionRule name = rule := by
  cases h with
  | lock h =>
    rw [← lockRule_eq]
    simp only [List.mem_cons, List.not_mem_nil, or_false] at h
    rcases h with rfl | rfl | rfl <;>
      simp [functionRule, builtin, builtinFunctions, Table.find?_ofList]
  | distance h =>
    subst h
    simp [functionRule, builtin, builtinFunctions, Table.find?_ofList, distanceRule,
      Signature.repeated]
  | comparison h =>
    subst h
    simp [functionRule, builtin, builtinFunctions, Table.find?_ofList, comparisonRule,
      Signature.repeated]
  | angle h =>
    simp only [List.mem_cons, List.not_mem_nil, or_false] at h
    rcases h with rfl | rfl <;>
      simp [functionRule, builtin, builtinFunctions, Table.find?_ofList]
  | reading h =>
    subst h
    simp [functionRule, builtin, builtinFunctions, Table.find?_ofList]
  | conversion h =>
    rw [functionRule_of_not_isListed scope h.not_isListed, patternRule?_builtin,
      if_pos (isMatch_conversionPattern.2 h), Option.getD_some]
  | setOperation h =>
    have hconversion : ¬ conversionPattern.isMatch name = true := by
      rw [isMatch_conversionPattern]
      exact h.not_isConversionName
    rw [functionRule_of_not_isListed scope h.not_isListed, patternRule?_builtin,
      if_neg hconversion, if_pos (isMatch_setOperationPattern.2 h), Option.getD_some,
      setOperationRule_eq]
  | address h =>
    have hconversion : ¬ conversionPattern.isMatch name = true := by
      rw [isMatch_conversionPattern]
      exact fun hname => h (.conversion hname)
    have hset : ¬ setOperationPattern.isMatch name = true := by
      rw [isMatch_setOperationPattern]
      exact fun hname => h (.setOperation hname)
    rw [functionRule_of_not_isListed scope (fun hname => h (.listed hname)), patternRule?_builtin,
      if_neg hconversion, if_neg hset, Option.getD_none]

/-- The table says something of every name. -/
lemma exists_hasBuiltinRule (scope name : String) : ∃ rule, HasBuiltinRule scope name rule := by
  by_cases h : HasOverride name
  · cases h with
    | listed h =>
      simp only [List.mem_cons, List.not_mem_nil, or_false] at h
      rcases h with h | h | h | h | h | h | h | h
      · exact ⟨_, .lock (by simp [h])⟩
      · exact ⟨_, .lock (by simp [h])⟩
      · exact ⟨_, .lock (by simp [h])⟩
      · exact ⟨_, .distance h⟩
      · exact ⟨_, .comparison h⟩
      · exact ⟨_, .angle (by simp [h])⟩
      · exact ⟨_, .angle (by simp [h])⟩
      · exact ⟨_, .reading h⟩
    | conversion h => exact ⟨_, .conversion h⟩
    | setOperation h => exact ⟨_, .setOperation h⟩
  · exact ⟨_, .address h⟩

/-! ### Families by their rules -/

lemma isConversionName_of_instantiate {scope name : String}
    (h : HasBuiltinRule scope name (.instantiate "char*")) : IsConversionName name.toList := by
  generalize hrule : FunctionRule.instantiate "char*" = rule at h
  cases h with
  | conversion h => exact h
  | angle | reading => simp at hrule
  | lock | distance | comparison | setOperation | address => cases hrule

/-- A set operation does not return a type of another rule, whatever the namespace is. -/
lemma setType_ne (scope : String) : scope ++ "::TSet<int>*" ≠ "bool" ∧
    scope ++ "::TSet<int>*" ≠ "double" := by
  constructor <;>
  · intro h
    have hlength := congrArg (fun text => text.toList.length) h
    simp at hlength

lemma isSetOperationName_of_setOperationRule {scope name : String}
    (h : HasBuiltinRule scope name (setOperationRule scope)) : IsSetOperationName name.toList := by
  rw [setOperationRule_eq] at h
  generalize hrule : FunctionRule.overloads _ = rule at h
  cases h with
  | setOperation h => exact h
  | lock | distance => simp [setType_ne] at hrule
  | comparison => simp at hrule
  | angle | reading | conversion | address => cases hrule

/-! ### Patterns by their texts -/

/-- The tree of a pattern for names that are a literal text followed by letters of a class. -/
def familyTree (start : String) (letters : ClassTree) : Tree :=
  .concat (.atom (.anchor .lineStart) :: ((start.toList.map fun c => .atom (.letter ⟨c, false⟩)) ++
    [.rep (.bracket false letters) 1 none false, .atom (.anchor .lineEnd)]))

lemma exprs?_letters_append {f : Flags} (hunicode : f.unicode = true) (cs : List Char)
    (ts : List Tree) :
    Tree.exprs? f ((cs.map fun c => .atom (.letter ⟨c, false⟩)) ++ ts) =
      (Tree.exprs? f ts).map fun r =>
        ((cs.map fun c => f.one (f.fold (.singleton c))) ++ r.1, r.2) := by
  induction cs with
  | nil => simp
  | cons c cs ih =>
    cases h : Tree.exprs? f ts <;> simp [Tree.exprs?, Tree.expr?, Atom.expr?, hunicode, ih, h]

lemma expr?_familyTree (start : String) {letters : ClassTree} {set : CodeSet}
    (h : letters.codes? {} = some set) :
    (familyTree start letters).expr? {} = some (.row (.look .textStart ::
      ((start.toList.map fun c => Flags.one {} (.singleton c)) ++
        [(Flags.one {} set).repeated 1 none true, .look .textEnd])), {}) := by
  have hclose : Flags.close? {} false set = some set := rfl
  have hfold (c : Char) : Flags.fold {} (.singleton c) = .singleton c := rfl
  simp [familyTree, Tree.expr?, Tree.exprs?, exprs?_letters_append, Atom.expr?, Anchor.look, h,
    hclose, hfold]

/-- The text of a family is a pattern for its names, if both automata are small enough. -/
lemma ofText?_family {text start : String} {letters : ClassTree} {set : CodeSet}
    (hparse : Tree.parse? text = some (familyTree start letters))
    (hcodes : letters.codes? {} = some set)
    (hdepth : (familyTree start letters).depth ≤ Pattern.maxDepth)
    (hrow : Expr.row (.look .textStart :: ((start.toList.map fun c => Flags.one {} (.singleton c)) ++
      [(Flags.one {} set).repeated 1 none true, .look .textEnd])) = namesFrom start set)
    (hforward : ((namesFrom start set).footprint .forward).fits = true)
    (hbackward : ((namesFrom start set).footprint .backward).fits = true) :
    Pattern.ofText? text = some ⟨text, namesFrom start set⟩ := by
  have hmeaning := expr?_familyTree start hcodes
  rw [hrow] at hmeaning
  simp [Pattern.ofText?, hparse, hmeaning, hforward, hbackward, Nat.not_lt.2 hdepth]

lemma ofText?_conversion : Pattern.ofText? "^to_[a-z_0-9]+$" = some conversionPattern := by
  have hparse : Tree.parse? "^to_[a-z_0-9]+$" = some (familyTree "to_" (.union
      [.span ⟨'a', false⟩ ⟨'z', false⟩, .letter ⟨'_', false⟩, .span ⟨'0', false⟩ ⟨'9', false⟩])) :=
    rfl
  -- the ranges are sorted when the class is read
  have hranges : CodeSet.ofRanges [(97, 122), (95, 95), (48, 57)] =
      ⟨[(48, 57), (95, 95), (97, 122)]⟩ := by
    simp [CodeSet.ofRanges, List.mergeSort, List.MergeSort.Internal.splitInTwo, List.splitAt,
      List.splitAt.go, CodeSet.coalesce, CodeSet.coalesce.go]
  have hcodes : (ClassTree.union [.span ⟨'a', false⟩ ⟨'z', false⟩, .letter ⟨'_', false⟩,
      .span ⟨'0', false⟩ ⟨'9', false⟩]).codes? {} = some ⟨[(48, 57), (95, 95), (97, 122)]⟩ := by
    rw [← hranges]
    rfl
  apply ofText?_family hparse hcodes <;> decide +kernel

lemma ofText?_setOperation : Pattern.ofText? "^set_[a-z]+$" = some setOperationPattern := by
  have hparse : Tree.parse? "^set_[a-z]+$" =
      some (familyTree "set_" (.span ⟨'a', false⟩ ⟨'z', false⟩)) :=
    rfl
  have hcodes : (ClassTree.span ⟨'a', false⟩ ⟨'z', false⟩).codes? {} = some ⟨[(97, 122)]⟩ := rfl
  apply ofText?_family hparse hcodes <;> decide +kernel

/-! ### The table -/

/-- The rule of a function is what the table says of its name. Conversions and set operations are
the functions whose names belong to the two families as a whole, and no others; the patterns that
tell them are those of their texts. -/
theorem functionRule_builtin_iff (scope name : String) :
    (∀ rule, (builtin scope).functionRule name = rule ↔ HasBuiltinRule scope name rule) ∧
      ((builtin scope).functionRule name = .instantiate "char*" ↔ IsConversionName name.toList) ∧
      ((builtin scope).functionRule name = setOperationRule scope ↔
        IsSetOperationName name.toList) ∧
      (builtin scope).patterns.map (fun p => some p.pattern) =
        [Pattern.ofText? "^to_[a-z_0-9]+$", Pattern.ofText? "^set_[a-z]+$"] := by
  have hrule : ∀ rule, (builtin scope).functionRule name = rule ↔
      HasBuiltinRule scope name rule := by
    intro rule
    constructor
    · rintro rfl
      obtain ⟨rule, hstated⟩ := exists_hasBuiltinRule scope name
      rwa [functionRule_of_hasBuiltinRule hstated]
    · exact functionRule_of_hasBuiltinRule
  refine ⟨hrule, ?_, ?_, ?_⟩
  · rw [hrule]
    exact ⟨isConversionName_of_instantiate, .conversion⟩
  · rw [hrule]
    constructor
    · exact isSetOperationName_of_setOperationRule
    · intro hname
      rw [setOperationRule_eq]
      exact .setOperation hname
  · rw [ofText?_conversion, ofText?_setOperation]
    rfl

/-- A line feed behind the name of a conversion makes it the name of another function. -/
example : (builtin "pwx").functionRule "to_string\n" = .address := by decide

end RuleSet

end SymbolProbe

import Mathlib.Data.List.Basic
import SymbolProbe.Proofs.Conservation
import SymbolProbe.Proofs.Merging

/-!
# Presence of the counted symbols

The program is the concatenation of what its lines contribute. A line that is counted as recognized
contributes a fragment that refers to its symbol, unless the symbol is a function whose rule lists
no overload: such a line is counted and leaves nothing in the program
(`Generator.presence_iff`). No rule set made from files without such rules has one.
-/

namespace SymbolProbe

/-! ### References -/

namespace RuleSet

variable (r : RuleSet) (name : String)

lemma qualified_isPrefix_classCheck :
    (r.qualified name).toList <+: (r.classCheck name).typeExpr.toList :=
  List.prefix_refl _

lemma qualified_isPrefix_templateCheck :
    (r.qualified name).toList <+: (r.templateCheck name).typeExpr.toList := by
  simp [templateCheck]

lemma isInfix_of_mem_pointers {qualified p : String} {rule : FunctionRule}
    (h : p ∈ pointers qualified rule) : qualified.toList <:+: p.toList := by
  cases rule with
  | address =>
    obtain rfl := List.mem_singleton.1 h
    exact ⟨"(void*)".toList, [], by simp⟩
  | instantiate args =>
    obtain rfl := List.mem_singleton.1 h
    exact ⟨"(void*)".toList, "<".toList ++ args.toList ++ ">".toList, by simp⟩
  | overloads signatures =>
    obtain ⟨s, -, rfl⟩ := List.mem_map.1 h
    exact ⟨"(void*)static_cast<".toList ++ s.pointerType.toList ++ ">(&".toList, ")".toList,
      by simp⟩

/-- Only a rule without overloads gives a function no rows. -/
lemma functionRows_eq_nil_iff :
    r.functionRows name = [] ↔ r.functionRule name = .overloads [] := by
  rw [functionRows, List.map_eq_nil_iff]
  cases r.functionRule name <;> simp [pointers]

/-- No built-in rule has an empty overload list, and merging brings in none. -/
lemma allFunctionRules_builtin_mergeAll {scope : String} {files : List RuleFile}
    (h : ∀ f ∈ files, f.AllFunctionRules (· ≠ .overloads [])) :
    ((builtin scope).mergeAll files).AllFunctionRules (· ≠ .overloads []) := by
  refine (allFunctionRules_builtin ?_).mergeAll h
  simp [lockRule, distanceRule, comparisonRule, setOperationRule]

end RuleSet

/-! ### Contributions of a line -/

namespace Generator

variable (g : Generator) (line : String)

/-- The object checks of a line, one at most. -/
def lineObjects : List ObjectCheck :=
  (g.lineUse line).symbol?.toList.filterMap g.rules.objectCheck?

/-- The rows of a line that names a free function. -/
def lineFunctionRows : List TableRow :=
  (g.lineUse line).symbol?.toList.flatMap g.rules.functionRowsOf

/-- The rows of a line that names a singleton. -/
def lineSingletonRows : List TableRow :=
  (g.lineUse line).symbol?.toList.flatMap g.rules.singletonRowsOf

/-- The rows of a line. -/
def lineRows : List TableRow := g.lineFunctionRows line ++ g.lineSingletonRows line

/-- Whether a line leaves a fragment in the program. -/
def contributes : Bool := !(g.lineObjects line).isEmpty || !(g.lineRows line).isEmpty

/-- Whether a line names a kept function whose rule lists no overload. -/
def isVoid : Bool :=
  (g.lineUse line).symbol?.any fun s =>
    s.kind == .freeFunction && g.rules.functionRule s.name == .overloads []

/-- A line leaves an object of a type that starts with the qualified name of a symbol, or a row
with a pointer that holds it. -/
def IsPresent (s : Symbol) : Prop :=
  (∃ o ∈ g.lineObjects line, (g.rules.qualified s.name).toList <+: o.typeExpr.toList) ∨
    ∃ row ∈ g.lineRows line, (g.rules.qualified s.name).toList <:+: row.pointer.toList

variable {g line}

/-- The program is the concatenation of the contributions of the lines. -/
lemma program_eq_flatMap (g : Generator) (l : Listing) :
    (g.program l).objects = l.lines.flatMap g.lineObjects ∧
      (g.program l).functions = l.lines.flatMap g.lineFunctionRows ∧
      (g.program l).singletons = l.lines.flatMap g.lineSingletonRows := by
  have hsymbols : g.symbols l = l.lines.flatMap fun line => (g.lineUse line).symbol?.toList := by
    rw [symbols, lineUses, List.filterMap_map, List.filterMap_eq_flatMap_toList]
    rfl
  rw [program_eq, hsymbols]
  exact ⟨List.filterMap_flatMap, List.flatMap_assoc, List.flatMap_assoc⟩

lemma lineObjects_of_kept {s : Symbol} (h : g.lineUse line = .kept s) :
    g.lineObjects line = (g.rules.objectCheck? s).toList := by
  cases ho : g.rules.objectCheck? s <;> simp [lineObjects, h, LineUse.symbol?, ho]

lemma lineRows_of_kept {s : Symbol} (h : g.lineUse line = .kept s) :
    g.lineRows line = g.rules.functionRowsOf s ++ g.rules.singletonRowsOf s := by
  simp [lineRows, lineFunctionRows, lineSingletonRows, h, LineUse.symbol?]

lemma isVoid_of_kept {s : Symbol} (h : g.lineUse line = .kept s) :
    g.isVoid line =
      (s.kind == .freeFunction && g.rules.functionRule s.name == .overloads []) := by
  simp [isVoid, h, LineUse.symbol?]

/-- A kept symbol is present unless it is a function without overloads. -/
lemma isPresent_iff {s : Symbol} (h : g.lineUse line = .kept s) :
    g.IsPresent line s ↔
      ¬ (s.kind = .freeFunction ∧ g.rules.functionRule s.name = .overloads []) := by
  rw [IsPresent, lineObjects_of_kept h, lineRows_of_kept h]
  obtain ⟨kind, name⟩ := s
  cases kind with
  | objectClass =>
    simp [RuleSet.objectCheck?, g.rules.qualified_isPrefix_classCheck name]
  | classTemplate =>
    simp [RuleSet.objectCheck?, g.rules.qualified_isPrefix_templateCheck name]
  | globalSingleton =>
    have hq : (g.rules.qualified name).toList <:+: (g.rules.singletonRow name).pointer.toList :=
      ⟨"(void*)&".toList, [], by simp [RuleSet.singletonRow]⟩
    simp [RuleSet.functionRowsOf, RuleSet.singletonRowsOf, hq]
  | freeFunction =>
    simp only [RuleSet.objectCheck?, RuleSet.functionRowsOf, RuleSet.singletonRowsOf,
      List.append_nil, Option.toList_none, List.not_mem_nil, false_and, exists_false, false_or,
      true_and, ← RuleSet.functionRows_eq_nil_iff]
    constructor
    · rintro ⟨row, hrow, -⟩ hnil
      simp [hnil] at hrow
    · intro hne
      obtain ⟨row, hrow⟩ := List.exists_mem_of_ne_nil _ hne
      obtain ⟨p, hp, rfl⟩ := List.mem_map.1 hrow
      exact ⟨_, hrow, RuleSet.isInfix_of_mem_pointers hp⟩

/-- The lines that leave a fragment are the kept ones that are not void. -/
lemma contributes_eq (g : Generator) (line : String) :
    g.contributes line = ((g.lineUse line).symbol?.isSome && !g.isVoid line) := by
  cases h : g.lineUse line with
  | blank | unrecognized | privateMember | debugFunction =>
    simp [contributes, lineObjects, lineRows, lineFunctionRows, lineSingletonRows, h,
      LineUse.symbol?]
  | kept s =>
    rw [contributes, lineObjects_of_kept h, lineRows_of_kept h, isVoid_of_kept h, Bool.eq_iff_iff]
    obtain ⟨kind, name⟩ := s
    cases kind <;> simp [LineUse.symbol?, RuleSet.objectCheck?, RuleSet.functionRowsOf,
      RuleSet.singletonRowsOf, RuleSet.functionRows_eq_nil_iff]

/-! ### Counts -/

/-- The kept lines are those that leave a fragment and the void ones. -/
lemma isSome_symbol?_eq (g : Generator) (line : String) :
    (g.lineUse line).symbol?.isSome = (g.contributes line || g.isVoid line) := by
  rw [contributes_eq]
  cases hv : g.isVoid line with
  | false => simp
  | true =>
    obtain ⟨hs, -⟩ := (Option.any_eq_true_iff_get _ _).1 hv
    simp [hs]

lemma countP_isSome_symbol? (g : Generator) (lines : List String) :
    lines.countP (fun line => (g.lineUse line).symbol?.isSome) =
      lines.countP g.contributes + lines.countP g.isVoid := by
  induction lines with
  | nil => rfl
  | cons line lines ih =>
    have hline := g.isSome_symbol?_eq line
    have hdisjoint : g.isVoid line = true → g.contributes line = false := by
      intro hv
      simp [contributes_eq, hv]
    simp only [List.countP_cons, ih, hline]
    cases hv : g.isVoid line with
    | true => simp [hdisjoint hv, Nat.add_assoc]
    | false => simp [Nat.add_right_comm]

lemma sum_isKept (us : List LineUse) :
    us.countP (LineUse.isKept .objectClass) + us.countP (LineUse.isKept .classTemplate) +
      us.countP (LineUse.isKept .freeFunction) + us.countP (LineUse.isKept .globalSingleton) =
      us.countP (·.symbol?.isSome) := by
  induction us with
  | nil => rfl
  | cons u us ih =>
    rw [List.countP_cons, List.countP_cons, List.countP_cons, List.countP_cons, List.countP_cons,
      ← ih]
    cases u with
    | blank | unrecognized | privateMember | debugFunction => rfl
    | kept s =>
      obtain ⟨kind, name⟩ := s
      cases kind <;> simp [LineUse.isKept, LineUse.symbol?] <;> omega

/-- The recognized lines are those that leave a fragment and the void ones. -/
lemma recognized_eq (g : Generator) (l : Listing) :
    (g.report l).recognized = l.lines.countP g.contributes + l.lines.countP g.isVoid := by
  rw [report_eq, Report.recognized, sum_isKept, lineUses, List.countP_map, ← countP_isSome_symbol?]
  rfl

/-- A kept function has a row, unless its line is void. -/
lemma functions_le (g : Generator) (l : Listing) :
    (g.lineUses l).countP (LineUse.isKept .freeFunction) ≤
      (g.program l).functions.length + l.lines.countP g.isVoid := by
  rw [(g.program_eq_flatMap l).2.1, lineUses, List.countP_map]
  induction l.lines with
  | nil => simp
  | cons line lines ih =>
    have hline : (if (g.lineUse line).isKept .freeFunction then 1 else 0) ≤
        (g.lineFunctionRows line).length + if g.isVoid line then 1 else 0 := by
      cases h : g.lineUse line with
      | blank | unrecognized | privateMember | debugFunction => simp [LineUse.isKept]
      | kept s =>
        obtain ⟨kind, name⟩ := s
        cases kind with
        | objectClass | classTemplate | globalSingleton => simp [LineUse.isKept]
        | freeFunction =>
          have hrows : g.lineFunctionRows line = g.rules.functionRows name := by
            simp [lineFunctionRows, h, LineUse.symbol?, RuleSet.functionRowsOf]
          rw [hrows, isVoid_of_kept h]
          by_cases hr : g.rules.functionRule name = .overloads []
          · simp [LineUse.isKept, hr]
          · have hne := mt (g.rules.functionRows_eq_nil_iff name).1 hr
            have hpos := List.length_pos_iff.2 hne
            simp [LineUse.isKept, hr]
            omega
    simp only [List.countP_cons, List.flatMap_cons, List.length_append, Function.comp_apply]
    omega

/-- The table has a row for each singleton and each function that is not void. -/
lemma functions_add_singletons_le (g : Generator) (l : Listing) :
    (g.report l).functions + (g.report l).singletons ≤
      (g.report l).tableRows + l.lines.countP g.isVoid := by
  have hf := g.functions_le l
  have hs := g.length_singletons l
  rw [report_eq]
  simp only [Program.table, List.length_append]
  omega

/-! ### Rule sets that leave no line void -/

/-- Rules merged from files without empty overload lists leave no line void. -/
lemma countP_isVoid_eq_zero {scope : String} {files : List RuleFile}
    (hg : g.rules = (RuleSet.builtin scope).mergeAll files ∨
      g.rules = (RuleSet.empty scope).mergeAll files)
    (hfiles : ∀ f ∈ files, f.AllFunctionRules (· ≠ .overloads [])) (l : Listing) :
    l.lines.countP g.isVoid = 0 := by
  have hrules : g.rules.AllFunctionRules (· ≠ .overloads []) := by
    obtain hg | hg := hg
    · rw [hg]
      exact RuleSet.allFunctionRules_builtin_mergeAll hfiles
    · rw [hg]
      exact (RuleSet.allFunctionRules_empty scope).mergeAll hfiles
  rw [List.countP_eq_zero]
  intro line _ hvoid
  obtain ⟨hs, hvoid⟩ := (Option.any_eq_true_iff_get _ _).1 hvoid
  simp only [Bool.and_eq_true, beq_iff_eq] at hvoid
  exact hrules.functionRule (by simp) _ hvoid.2

/-- The line of a function in a listing of a namespace. -/
def functionLine (scope name : String) : String := " " ++ qualify scope name ++ ";"

/-- Without filters, the line of a function is kept. -/
lemma lineUse_functionLine {r : RuleSet} (hscope : r.scope.toList.head? ≠ some ' ') {name : String}
    (hname : IsName name.toList) (hform : FunctionForm name.toList) :
    lineUse ⟨{ profile := .plain, privateScopes := [] }, r⟩ (functionLine r.scope name) =
      .kept ⟨.freeFunction, name⟩ := by
  have hcarries : Carries r.scope.toList (functionLine r.scope name).toList name.toList ';' :=
    ⟨[' '], [], by simp, by simp, hname, .inr (.inl rfl), by simp [functionLine, qualify]⟩
  have hclassify : (Classifier.mk r.scope 3).classify (functionLine r.scope name) =
      some ⟨.freeFunction, name⟩ :=
    (Classifier.classify_eq_some_iff_carries hscope).2 ⟨';', hcarries, hform.hasKind _ _⟩
  simp [lineUse, classifier, hclassify, Config.isPrivateScope, Config.excludesFunction,
    Profile.filtersDebugSymbols]

/-- A rule set presents all lines of all listings exactly when no function name has a rule without
overloads. -/
lemma forall_isPresent_iff {r : RuleSet} (hscope : r.scope.toList.head? ≠ some ' ') :
    (∀ c line s, lineUse ⟨c, r⟩ line = .kept s → IsPresent ⟨c, r⟩ line s) ↔
      ∀ name : String, IsName name.toList → FunctionForm name.toList →
        r.functionRule name ≠ .overloads [] := by
  constructor
  · intro h name hname hform hrule
    have hkept := lineUse_functionLine hscope hname hform
    exact (isPresent_iff hkept).1 (h _ _ _ hkept) ⟨rfl, hrule⟩
  · intro h c line s hkept
    refine (isPresent_iff hkept).2 ?_
    rintro ⟨hkind, hrule⟩
    have hclassify := classify_of_lineUse hkept
    obtain ⟨t, -, hform⟩ := Classifier.carries_of_classify hclassify
    rw [hkind] at hform
    exact h s.name (Classifier.isName_of_classify hclassify) hform.functionForm hrule

/-- A counted symbol is present in the program unless it is a function whose rule lists no
overload. The counters are off by the lines of such functions, of which there are none under rules
merged from files without empty overload lists. A rule set presents the symbols of all listings
exactly when it has no such rule for a function name. -/
theorem presence_iff (g : Generator) (l : Listing) :
    ((g.program l).objects = l.lines.flatMap g.lineObjects ∧
      (g.program l).functions = l.lines.flatMap g.lineFunctionRows ∧
      (g.program l).singletons = l.lines.flatMap g.lineSingletonRows) ∧
    (∀ line s, g.lineUse line = .kept s →
      (g.IsPresent line s ↔
        ¬ (s.kind = .freeFunction ∧ g.rules.functionRule s.name = .overloads []))) ∧
    (g.report l).recognized = l.lines.countP g.contributes + l.lines.countP g.isVoid ∧
    (g.report l).functions + (g.report l).singletons ≤
      (g.report l).tableRows + l.lines.countP g.isVoid ∧
    (∀ scope files,
      g.rules = (RuleSet.builtin scope).mergeAll files ∨
        g.rules = (RuleSet.empty scope).mergeAll files →
      (∀ f ∈ files, f.AllFunctionRules (· ≠ .overloads [])) → l.lines.countP g.isVoid = 0) ∧
    (g.rules.scope.toList.head? ≠ some ' ' →
      ((∀ c line s, lineUse ⟨c, g.rules⟩ line = .kept s → IsPresent ⟨c, g.rules⟩ line s) ↔
        ∀ name : String, IsName name.toList → FunctionForm name.toList →
          g.rules.functionRule name ≠ .overloads [])) :=
  ⟨g.program_eq_flatMap l, fun _ _ => isPresent_iff, g.recognized_eq l,
    g.functions_add_singletons_le l, fun _ _ hg hfiles => countP_isVoid_eq_zero hg hfiles l,
    forall_isPresent_iff⟩

/-- A function with one overload is present, and so is every symbol of every listing. -/
theorem presence_of_one_overload :
    let file : RuleFile := { functions := Table.ofList [("frob", .overloads [⟨"int", []⟩])] }
    let g : Generator := ⟨{}, (RuleSet.builtin "pwx").mergeAll [file]⟩
    let l : Listing := ⟨["  pwx::frob;", "  pwx::CFrob: x", " pwx::RNG;"], none⟩
    g.IsPresent "  pwx::frob;" ⟨.freeFunction, "frob"⟩ ∧
      (g.report l).recognized = l.lines.countP g.contributes ∧
      (g.report l).functions + (g.report l).singletons ≤ (g.report l).tableRows ∧
      ∀ c line s, lineUse ⟨c, g.rules⟩ line = .kept s → IsPresent ⟨c, g.rules⟩ line s := by
  intro file g l
  obtain ⟨-, hpresent, hrecognized, hrows, hvoid, hall⟩ := presence_iff g l
  have hfile : ∀ f ∈ [file], f.AllFunctionRules (· ≠ .overloads []) := by
    rw [List.forall_mem_singleton]
    refine ⟨fun name rule hrule => ?_, by simp [file]⟩
    have hmem := Table.mem_of_find?_ofList hrule
    simp only [List.mem_singleton, Prod.mk.injEq] at hmem
    simp [hmem.2]
  have hzero := hvoid "pwx" [file] (.inl rfl) hfile
  rw [hzero] at hrecognized hrows
  refine ⟨?_, hrecognized, hrows, (hall (by decide)).2 fun name _ _ => ?_⟩
  · exact (hpresent _ _ (by decide)).2 (by decide)
  · exact (RuleSet.allFunctionRules_builtin_mergeAll hfile).functionRule (by simp) name

/-- A function whose rule lists no overload is counted as recognized and leaves no fragment. -/
theorem recognized_without_fragment :
    let file : RuleFile := { functions := Table.ofList [("frob", .overloads [])] }
    let g : Generator := ⟨{}, ((RuleSet.builtin "pwx").merge file).rules⟩
    let l : Listing := ⟨["  pwx::frob;"], none⟩
    ((RuleSet.builtin "pwx").merge file).rejected = none ∧
      (g.report l).functions = 1 ∧ (g.report l).recognized = 1 ∧ (g.report l).tableRows = 0 ∧
      (g.program l).objects = [] ∧ (g.program l).table = [] ∧
      l.lines.countP g.contributes = 0 := by
  decide

end Generator

end SymbolProbe

import SymbolProbe.Proofs.Tally

/-!
# Interleaving of kinds

A run keeps the symbols of each kind apart: the object checks, the rows of functions and the rows
of singletons are made from the strand of their own kind, and so are the counters of kept symbols.
The program and the report on it are therefore functions of the three strands
(`Generator.program_congr`, `Generator.report_congr`): two listings with the same strands give the
same source, however the strands are interleaved and whatever lines are dropped in between
(`Generator.source_eq_of_strands_eq`).
-/

namespace SymbolProbe

/-! ### Strands -/

/-- Symbols sorted by the part of the program that they go to, each part in its own order. -/
structure Strands where
  objects : List Symbol
  functions : List Symbol
  singletons : List Symbol
deriving DecidableEq, Repr

/-- Sort symbols into strands. -/
def Strands.ofSymbols (ss : List Symbol) : Strands where
  objects := ss.filter fun s => s.kind.isObject
  functions := ss.filter fun s => s.kind == .freeFunction
  singletons := ss.filter fun s => s.kind == .globalSingleton

/-- The strands of the symbols that a run keeps: those of the lines that are neither unrecognized
nor dropped by a filter. -/
def Generator.strands (g : Generator) (l : Listing) : Strands := .ofSymbols (g.symbols l)

lemma RuleSet.filterMap_objectCheck? (r : RuleSet) (ss : List Symbol) :
    (ss.filter fun s => s.kind.isObject).filterMap r.objectCheck? = ss.filterMap r.objectCheck? := by
  rw [List.filterMap_filter]
  congr 1
  funext s
  obtain ⟨kind, name⟩ := s
  cases kind <;> rfl

/-- The lines that keep a symbol of a kind are as many as the kept symbols of that kind. -/
lemma LineUse.countP_isKept (kind : SymbolKind) (us : List LineUse) :
    us.countP (isKept kind) = (us.filterMap symbol?).countP (·.kind == kind) := by
  rw [List.countP_filterMap]
  congr 1
  funext u
  cases u <;> rfl

/-! ### Programs and reports by strands -/

namespace Generator

variable (g : Generator) (l : Listing)

lemma program_eq_strands :
    g.program l =
      { includes := g.includeList.includes
        objects := (g.strands l).objects.filterMap g.rules.objectCheck?
        functions := ((g.strands l).functions.map Symbol.name).flatMap g.rules.functionRows
        singletons := ((g.strands l).singletons.map Symbol.name).map g.rules.singletonRow } := by
  rw [program_eq, RuleSet.flatMap_functionRowsOf, RuleSet.flatMap_singletonRowsOf,
    ← RuleSet.filterMap_objectCheck?]
  rfl

lemma countP_isKept_lineUses (kind : SymbolKind) :
    (g.lineUses l).countP (LineUse.isKept kind) = (g.symbols l).countP (·.kind == kind) :=
  LineUse.countP_isKept kind (g.lineUses l)

/-- A kind of objects is counted in the strand of objects. -/
lemma countP_isKept_objects {kind : SymbolKind} (hk : kind.isObject = true) :
    (g.lineUses l).countP (LineUse.isKept kind) =
      (g.strands l).objects.countP (·.kind == kind) := by
  rw [countP_isKept_lineUses, strands, Strands.ofSymbols, List.countP_filter]
  congr 1
  funext s
  by_cases hs : s.kind = kind
  · simp [hs, hk]
  · simp [hs]

lemma countP_isKept_functions :
    (g.lineUses l).countP (LineUse.isKept .freeFunction) = (g.strands l).functions.length := by
  rw [countP_isKept_lineUses, List.countP_eq_length_filter]
  rfl

lemma countP_isKept_singletons :
    (g.lineUses l).countP (LineUse.isKept .globalSingleton) =
      (g.strands l).singletons.length := by
  rw [countP_isKept_lineUses, List.countP_eq_length_filter]
  rfl

end Generator

/-- Two reports tell the same of the symbols and of the headers. They may differ in the number of
lines and in the numbers of lines that were dropped. -/
structure Report.AgreesOnSymbols (r q : Report) : Prop where
  classes : r.classes = q.classes
  templates : r.templates = q.templates
  functions : r.functions = q.functions
  singletons : r.singletons = q.singletons
  tableRows : r.tableRows = q.tableRows
  duplicateObjects : r.duplicateObjects = q.duplicateObjects
  headersIncluded : r.headersIncluded = q.headersIncluded
  headersExcluded : r.headersExcluded = q.headersExcluded

namespace Generator

variable {g : Generator} {l m : Listing}

lemma program_congr (h : g.strands l = g.strands m) : g.program l = g.program m := by
  rw [program_eq_strands, program_eq_strands, h]

lemma countP_isKept_congr (h : g.strands l = g.strands m) (kind : SymbolKind) :
    (g.lineUses l).countP (LineUse.isKept kind) = (g.lineUses m).countP (LineUse.isKept kind) := by
  cases kind with
  | objectClass | classTemplate =>
    rw [countP_isKept_objects g l rfl, countP_isKept_objects g m rfl, h]
  | freeFunction => rw [countP_isKept_functions, countP_isKept_functions, h]
  | globalSingleton => rw [countP_isKept_singletons, countP_isKept_singletons, h]

lemma report_congr (h : g.strands l = g.strands m) :
    (g.report l).AgreesOnSymbols (g.report m) := by
  rw [report_eq, report_eq, program_congr h]
  constructor
  case classes => exact countP_isKept_congr h .objectClass
  case templates => exact countP_isKept_congr h .classTemplate
  case functions => exact countP_isKept_congr h .freeFunction
  case singletons => exact countP_isKept_congr h .globalSingleton
  all_goals rfl

/-- Listings with the same strands give the same source and the same account of it. -/
theorem source_eq_of_strands_eq (h : g.strands l = g.strands m) :
    (g.program l).source = (g.program m).source ∧ (g.report l).AgreesOnSymbols (g.report m) :=
  ⟨congrArg Program.source (program_congr h), report_congr h⟩

/-- The lines of the second listing come in another order, with other indents and endings and with
dropped lines in between. -/
theorem source_of_rearranged_lines :
    let g : Generator := .ofConfig {}
    let l : Listing := ⟨["  pwx::CLockable;", "  pwx::lerp;", "  pwx::TSet;", "  pwx::RNG;",
      "  pwx::CLockable;", "  pwx::degToRad;"], none⟩
    let m : Listing := ⟨["# symbols", " pwx::RNG: x", "   pwx::lerp*", "", " pwx::CLockable::a",
      "  pwx::debug_log;", " pwx::degToRad;", "  pwx::TSet;b", "  pwx::private_::do_lock;",
      "  pwx::CLockable;"], none⟩
    g.strands l = g.strands m ∧ (g.program l).source = (g.program m).source ∧
      (g.report l).AgreesOnSymbols (g.report m) := by
  intro g l m
  have h : g.strands l = g.strands m := by decide
  exact ⟨h, source_eq_of_strands_eq h⟩

end Generator

end SymbolProbe

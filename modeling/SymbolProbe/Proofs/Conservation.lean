import Mathlib.Algebra.GroupWithZero.Nat
import Mathlib.Tactic.Lemma
import SymbolProbe.Proofs.Tally

/-!
# Conservation of lines

Every line of a listing is counted in exactly one counter of the report, and every counter counts
the lines of its class (`Generator.report_accountsFor`). The rows of the table are one per singleton
and, for each kept function, as many as its rule states.
-/

namespace SymbolProbe

/-! ### Headers -/

lemma HeaderUse.length_include?_add_excluded? (us : List HeaderUse) :
    (us.filterMap include?).length + (us.filterMap excluded?).length = us.length := by
  induction us with
  | nil => rfl
  | cons u us ih =>
    rw [List.length_cons, ← ih]
    cases u <;> simp [List.filterMap_cons, include?, excluded?] <;> omega

/-- Every header path is either included or left out. -/
lemma IncludeList.length_ofPaths (excludeForward : Bool) (paths : List String) :
    (ofPaths excludeForward paths).includes.length +
      (ofPaths excludeForward paths).excluded.length = paths.length := by
  rw [ofPaths, HeaderUse.length_include?_add_excluded?, List.length_map]

/-! ### Lines -/

/-- Every line has one use. -/
lemma LineUse.length_eq_sum (us : List LineUse) :
    us.length = us.countP (· matches .blank) + us.countP (· matches .unrecognized _) +
      us.countP (isKept .objectClass) + us.countP (isKept .classTemplate) +
      us.countP (isKept .freeFunction) + us.countP (isKept .globalSingleton) +
      us.countP (· matches .debugFunction _) + us.countP (· matches .privateMember _) := by
  induction us with
  | nil => rfl
  | cons u us ih =>
    rw [List.length_cons, ih]
    cases u with
    | blank | unrecognized | privateMember | debugFunction => simp [isKept]; omega
    | kept s =>
      obtain ⟨kind, name⟩ := s
      cases kind <;> simp [isKept] <;> omega

namespace Generator

variable (g : Generator) (l : Listing)

/-- The number of lines that name a symbol with a property. -/
def countSymbols (p : Symbol → Bool) : Nat :=
  l.lines.countP fun line => (g.classifier.classify line).any p

lemma countP_lineUses {p : LineUse → Bool} {q : String → Bool}
    (h : ∀ line, p (g.lineUse line) = q line) : (g.lineUses l).countP p = l.lines.countP q := by
  rw [lineUses, List.countP_map]
  congr 1
  funext line
  exact h line

/-- For a kind without filters, every line that names a symbol of it is kept. -/
lemma countP_isKept_of_ne {kind : SymbolKind} (hk : kind ≠ .freeFunction) :
    (g.lineUses l).countP (LineUse.isKept kind) = g.countSymbols l (·.kind == kind) := by
  refine g.countP_lineUses l fun line => ?_
  rw [isKept_lineUse]
  congr 1
  funext s
  by_cases hs : s.kind = kind
  · simp [Config.keeps_of_kind_ne (hs ▸ hk)]
  · simp [hs]

lemma length_listedSingletons :
    (g.listedSingletons l).length = (g.lineUses l).countP (LineUse.isKept .globalSingleton) := by
  rw [countP_isKept_of_ne g l (by decide), countSymbols, listedSingletons, List.length_map,
    ← List.countP_eq_length_filter, List.countP_filterMap]
  congr 1
  funext line
  cases g.classifier.classify line <;> rfl

/-- There is one row for each singleton. -/
lemma length_singletons :
    (g.program l).singletons.length = (g.lineUses l).countP (LineUse.isKept .globalSingleton) := by
  rw [program_eq, RuleSet.flatMap_singletonRowsOf, filter_symbols_globalSingleton, List.length_map,
    length_listedSingletons]

lemma length_table :
    (g.program l).table.length =
      (g.lineUses l).countP (LineUse.isKept .globalSingleton) +
        ((g.keptFunctions l).map fun name => (g.rules.functionRule name).rowCount).sum := by
  rw [table_eq, List.length_append, List.length_map, length_listedSingletons, List.length_flatMap,
    Nat.add_comm]
  simp only [RuleSet.length_functionRows]

end Generator

/-- The report accounts for every line of a listing: its counters are the numbers of the lines of
each class, the rows of the table are those of the singletons and of the rules of the kept
functions, and the header counters share out the header paths. -/
structure Report.AccountsFor (r : Report) (g : Generator) (l : Listing) : Prop where
  lines : r.lines = l.lines.length
  total : r.lines = r.blankLines + r.skippedLines + r.classes + r.templates + r.functions +
    r.singletons + r.debugFiltered + r.privateSkipped
  blankLines : r.blankLines = l.lines.countP fun line => line.toList.all Text.isBlank
  skippedLines : r.skippedLines = l.lines.countP fun line =>
    (g.classifier.classify line).isNone && !line.toList.all Text.isBlank
  classes : r.classes = g.countSymbols l (·.kind == .objectClass)
  templates : r.templates = g.countSymbols l (·.kind == .classTemplate)
  singletons : r.singletons = g.countSymbols l (·.kind == .globalSingleton)
  privateSkipped : r.privateSkipped = g.countSymbols l fun s =>
    s.kind == .freeFunction && g.config.privateScopes.contains s.name
  debugFiltered : r.debugFiltered = g.countSymbols l fun s =>
    s.kind == .freeFunction && !g.config.privateScopes.contains s.name &&
      g.config.excludesFunction s.name
  functions : r.functions = g.countSymbols l fun s =>
    s.kind == .freeFunction && !g.config.privateScopes.contains s.name &&
      !g.config.excludesFunction s.name
  tableRows : r.tableRows = r.singletons +
    ((g.keptFunctions l).map fun name => (g.rules.functionRule name).rowCount).sum
  headers : r.headersIncluded + r.headersExcluded = g.config.headers.length

theorem Generator.report_accountsFor (g : Generator) (l : Listing) :
    (g.report l).AccountsFor g l := by
  rw [report_eq]
  constructor
  case lines => rfl
  case total =>
    have hsize : l.size = (g.lineUses l).length := by simp [lineUses, Listing.size]
    exact hsize.trans (LineUse.length_eq_sum _)
  case blankLines => exact g.countP_lineUses l g.lineUse_matches_blank
  case skippedLines => exact g.countP_lineUses l g.lineUse_matches_unrecognized
  case classes => exact g.countP_isKept_of_ne l (by decide)
  case templates => exact g.countP_isKept_of_ne l (by decide)
  case singletons => exact g.countP_isKept_of_ne l (by decide)
  case privateSkipped => exact g.countP_lineUses l g.lineUse_matches_privateMember
  case debugFiltered => exact g.countP_lineUses l g.lineUse_matches_debugFunction
  case functions =>
    refine g.countP_lineUses l fun line => ?_
    rw [isKept_lineUse]
    congr 1
    funext s
    exact g.config.isFunction_and_keeps s
  case tableRows => exact g.length_table l
  case headers => exact IncludeList.length_ofPaths _ _

end SymbolProbe

import Mathlib.Data.List.Basic
import SymbolProbe.Proofs.Conservation
import SymbolProbe.Proofs.Interleaving

/-!
# The two profiles

The filtered profile is the plain one behind two sieves. What becomes of a line differs only where
the plain profile keeps a debug function (`Generator.lineUse_filtered`), and the includes differ
only by forward headers (`IncludeList.includes_ofPaths_true`). All else of two runs that differ in
their profile is the same (`Generator.withProfile_differByFilters`).
-/

namespace SymbolProbe

/-! ### Headers -/

lemma HeaderUse.include?_ofPath_true (path : String) :
    (ofPath true path).include? =
      (ofPath false path).include?.filter fun name => !Text.occursIn forwardMarker name.toList := by
  by_cases he : (baseName path.toList).isEmpty
  · simp [ofPath, he, include?]
  · cases ho : Text.occursIn forwardMarker (baseName path.toList) <;>
      simp [ofPath, he, ho, include?, Option.filter_some]

/-- Leaving out forward headers takes those includes away that are marked. -/
lemma IncludeList.includes_ofPaths_true (paths : List String) :
    (ofPaths true paths).includes =
      (ofPaths false paths).includes.filter fun name =>
        !Text.occursIn forwardMarker name.toList := by
  simp only [ofPaths, List.filterMap_map, List.filter_filterMap, Function.comp_def,
    HeaderUse.include?_ofPath_true]

/-! ### Function rows -/

/-- All rows of a function carry its name, so rows are chosen by choosing functions. -/
lemma RuleSet.filter_flatMap_functionRows (r : RuleSet) (q : String → Bool) (names : List String) :
    (names.flatMap r.functionRows).filter (fun row => q row.name) =
      (names.filter q).flatMap r.functionRows := by
  have hrows : ∀ name, (r.functionRows name).filter (fun row => q row.name) =
      if q name then r.functionRows name else [] := by
    intro name
    cases hq : q name <;> simp [functionRows, List.filter_map, Function.comp_def, hq]
  induction names with
  | nil => rfl
  | cons name names ih =>
    rw [List.flatMap_cons, List.filter_append, ih, hrows, List.filter_cons]
    cases q name <;> simp

/-! ### Uses of lines -/

namespace LineUse

/-- The use of a line when some of the kept functions are dropped for the debug filter. -/
def sieve (drops : Symbol → Bool) : LineUse → LineUse
  | .kept s => if drops s then .debugFunction s.name else .kept s
  | u => u

variable {drops : Symbol → Bool}

/-- A predicate that does not look at functions counts as many uses behind the sieve. -/
lemma countP_map_sieve {p : LineUse → Bool} (h : ∀ u, p (u.sieve drops) = p u)
    (us : List LineUse) : (us.map (sieve drops)).countP p = us.countP p := by
  rw [List.countP_map]
  congr 1
  funext u
  exact h u

lemma sieve_congr {p : LineUse → Bool} (hkept : ∀ s, p (.kept s) = false)
    (hdebug : ∀ name, p (.debugFunction name) = false) (u : LineUse) : p (u.sieve drops) = p u := by
  cases u with
  | blank | unrecognized | privateMember | debugFunction => rfl
  | kept s => cases hs : drops s <;> simp [sieve, hs, hkept, hdebug]

lemma isKept_sieve (hdrops : ∀ s, drops s = true → s.kind = .freeFunction) {kind : SymbolKind}
    (hk : kind ≠ .freeFunction) (u : LineUse) : (u.sieve drops).isKept kind = u.isKept kind := by
  cases u with
  | blank | unrecognized | privateMember | debugFunction => rfl
  | kept s =>
    cases hs : drops s with
    | false => simp [sieve, hs]
    | true => simp [sieve, isKept, hs, hdrops s hs, Ne.symm hk]

/-- Where no function is dropped yet, a kept one stays kept or becomes a dropped one. -/
lemma countP_isKept_freeFunction (hdrops : ∀ s, drops s = true → s.kind = .freeFunction)
    {us : List LineUse} (h : us.countP (· matches .debugFunction _) = 0) :
    us.countP (isKept .freeFunction) =
      (us.map (sieve drops)).countP (isKept .freeFunction) +
        (us.map (sieve drops)).countP (· matches .debugFunction _) := by
  induction us with
  | nil => rfl
  | cons u us ih =>
    rw [List.countP_cons, Nat.add_eq_zero_iff] at h
    rw [List.map_cons, List.countP_cons, List.countP_cons, List.countP_cons, ih h.1]
    cases u with
    | debugFunction => simp at h
    | blank | unrecognized | privateMember => simp [sieve, isKept]
    | kept s =>
      cases hs : drops s with
      | false => simp [sieve, isKept, hs, Nat.add_right_comm]
      | true => simp [sieve, isKept, hs, hdrops s hs, Nat.add_assoc]

end LineUse

/-! ### Runs under the two profiles -/

namespace Generator

/-- The run with another profile. -/
def withProfile (g : Generator) (p : Profile) : Generator :=
  { g with config := { g.config with profile := p } }

variable (g : Generator) (l : Listing)

lemma dropsDebug_plain (s : Symbol) : (g.withProfile .plain).config.dropsDebug s = false := by
  simp [Config.dropsDebug, Config.excludesFunction, withProfile, Profile.filtersDebugSymbols]

lemma kind_of_dropsDebug {c : Config} (s : Symbol) (h : c.dropsDebug s = true) :
    s.kind = .freeFunction := by
  simp only [Config.dropsDebug, Bool.and_eq_true, beq_iff_eq] at h
  exact h.1.1

/-- The filtered profile drops debug functions among the lines that the plain one keeps. -/
lemma lineUse_filtered (line : String) :
    (g.withProfile .filtered).lineUse line =
      ((g.withProfile .plain).lineUse line).sieve
        (g.withProfile .filtered).config.dropsDebug := by
  have hclassifier : (g.withProfile .plain).classifier = (g.withProfile .filtered).classifier := rfl
  have hprivate : (g.withProfile .plain).config.dropsPrivate =
      (g.withProfile .filtered).config.dropsPrivate := rfl
  rw [lineUse_eq, lineUse_eq, hclassifier, hprivate]
  cases (g.withProfile .filtered).classifier.classify line with
  | none => cases Text.isBlankText line.toList <;> rfl
  | some s =>
    cases hp : (g.withProfile .filtered).config.dropsPrivate s with
    | true => simp [LineUse.sieve, hp]
    | false => simp [LineUse.sieve, hp, dropsDebug_plain]

lemma lineUses_filtered :
    (g.withProfile .filtered).lineUses l =
      ((g.withProfile .plain).lineUses l).map
        (LineUse.sieve (g.withProfile .filtered).config.dropsDebug) := by
  rw [lineUses, lineUses, List.map_map]
  exact List.map_congr_left fun line _ => g.lineUse_filtered line

lemma countP_debugFunction_plain :
    ((g.withProfile .plain).lineUses l).countP (· matches .debugFunction _) = 0 := by
  rw [countP_lineUses _ l (lineUse_matches_debugFunction _), List.countP_eq_zero]
  intro line _
  cases (g.withProfile .plain).classifier.classify line <;> simp [dropsDebug_plain]

/-- A class of uses without functions is as large under both profiles. -/
lemma countP_lineUses_filtered {p : LineUse → Bool}
    (h : ∀ u, p (u.sieve (g.withProfile .filtered).config.dropsDebug) = p u) :
    ((g.withProfile .filtered).lineUses l).countP p =
      ((g.withProfile .plain).lineUses l).countP p := by
  rw [lineUses_filtered]
  exact LineUse.countP_map_sieve h _

/-- So is a class of lines that are neither kept nor dropped as debug functions. -/
lemma countP_unkept_filtered {p : LineUse → Bool} (hkept : ∀ s, p (.kept s) = false)
    (hdebug : ∀ name, p (.debugFunction name) = false) :
    ((g.withProfile .filtered).lineUses l).countP p =
      ((g.withProfile .plain).lineUses l).countP p :=
  g.countP_lineUses_filtered l (LineUse.sieve_congr hkept hdebug)

lemma functions_eq : (g.program l).functions = (g.keptFunctions l).flatMap g.rules.functionRows := by
  rw [program_eq, RuleSet.flatMap_functionRowsOf, filter_symbols_freeFunction]

lemma excludesFunction_plain (name : String) :
    (g.withProfile .plain).config.excludesFunction name = false := by
  simp [Config.excludesFunction, withProfile, Profile.filtersDebugSymbols]

lemma keptFunctions_filtered :
    (g.withProfile .filtered).keptFunctions l =
      ((g.withProfile .plain).keptFunctions l).filter fun name =>
        !(g.withProfile .filtered).config.excludesFunction name := by
  rw [keptFunctions, keptFunctions, List.filter_map, List.filter_filter]
  congr 2
  funext s
  simp only [excludesFunction_plain, Function.comp_apply, Bool.not_false, Bool.and_true]
  rw [Bool.and_comm]
  rfl

/-- Under the filtered profile the functions without the debug filter's names have rows. -/
lemma functions_filtered :
    ((g.withProfile .filtered).program l).functions =
      ((g.withProfile .plain).program l).functions.filter fun row =>
        !(g.withProfile .filtered).config.excludesFunction row.name := by
  rw [functions_eq, functions_eq, keptFunctions_filtered]
  exact (RuleSet.filter_flatMap_functionRows _ _ _).symm

/-- Symbols that are no functions are the same under both profiles. -/
lemma filter_symbols_withProfile {p : Symbol → Bool} (hp : ∀ s, p s = true → s.kind ≠ .freeFunction)
    (q : Profile) : ((g.withProfile q).symbols l).filter p = (g.symbols l).filter p := by
  rw [filter_symbols _ hp, filter_symbols _ hp]
  rfl

lemma objects_withProfile (q : Profile) :
    ((g.withProfile q).program l).objects = (g.program l).objects := by
  have hkind : ∀ s : Symbol, s.kind.isObject = true → s.kind ≠ .freeFunction := by
    intro s hs hkind
    simp [hkind, SymbolKind.isObject] at hs
  rw [program_eq_strands, program_eq_strands]
  exact congrArg (List.filterMap g.rules.objectCheck?) (g.filter_symbols_withProfile l hkind q)

lemma singletons_withProfile (q : Profile) :
    ((g.withProfile q).program l).singletons = (g.program l).singletons := by
  have hkind : ∀ s : Symbol, (s.kind == .globalSingleton) = true → s.kind ≠ .freeFunction := by
    intro s hs hkind
    simp [hkind] at hs
  rw [program_eq_strands, program_eq_strands]
  exact congrArg (fun ss => (ss.map Symbol.name).map g.rules.singletonRow)
    (g.filter_symbols_withProfile l hkind q)

end Generator

/-! ### All differences -/

lemma Program.source_congr {p q : Program} (hincludes : p.includes = q.includes)
    (hobjects : p.objects = q.objects) (hfunctions : p.functions = q.functions)
    (hsingletons : p.singletons = q.singletons) : p.source = q.source := by
  have hparts : p = q := by
    cases p
    cases q
    simp_all
  rw [hparts]

/-- The runs of two generators differ by the two filters of the profiles only: `f` leaves out the
rows of debug functions, unless they are enabled, and the forward headers of `p`. -/
structure Generator.DifferByFilters (f p : Generator) (l : Listing) : Prop where
  objects : (f.program l).objects = (p.program l).objects
  singletonRows : (f.program l).singletons = (p.program l).singletons
  lines : (f.report l).lines = (p.report l).lines
  blankLines : (f.report l).blankLines = (p.report l).blankLines
  skippedLines : (f.report l).skippedLines = (p.report l).skippedLines
  classes : (f.report l).classes = (p.report l).classes
  templates : (f.report l).templates = (p.report l).templates
  singletons : (f.report l).singletons = (p.report l).singletons
  privateSkipped : (f.report l).privateSkipped = (p.report l).privateSkipped
  duplicateObjects : (f.report l).duplicateObjects = (p.report l).duplicateObjects
  debugFiltered : (p.report l).debugFiltered = 0
  functions : (p.report l).functions = (f.report l).functions + (f.report l).debugFiltered
  functionRows (h : f.config.debugSymbols ≠ "true") :
    (f.program l).functions =
      (p.program l).functions.filter fun row => !Text.occursIn debugMarker row.name.toList
  functionRows_enabled (h : f.config.debugSymbols = "true") :
    (f.program l).functions = (p.program l).functions
  includes : (f.program l).includes =
    (p.program l).includes.filter fun name => !Text.occursIn forwardMarker name.toList
  headers : (p.report l).headersIncluded + (p.report l).headersExcluded =
    (f.report l).headersIncluded + (f.report l).headersExcluded
  source
    (hdebug : f.config.debugSymbols = "true" ∨
      ∀ name ∈ p.keptFunctions l, Text.occursIn debugMarker name.toList = false)
    (hforward : ∀ name ∈ (p.program l).includes,
      Text.occursIn forwardMarker name.toList = false) :
    (f.program l).source = (p.program l).source

namespace Generator

variable (g : Generator) (l : Listing)

lemma functions_filtered_of_enabled (h : g.config.debugSymbols = "true") :
    ((g.withProfile .filtered).program l).functions =
      ((g.withProfile .plain).program l).functions := by
  have hkeeps : ∀ name, (g.withProfile .filtered).config.excludesFunction name = false := by
    intro name
    simp [Config.excludesFunction, Config.debugEnabled, withProfile, debugEnabledFlag, h]
  rw [functions_filtered, List.filter_eq_self]
  intro row _
  rw [hkeeps, Bool.not_false]

lemma functions_filtered_of_not_enabled (h : g.config.debugSymbols ≠ "true") :
    ((g.withProfile .filtered).program l).functions =
      ((g.withProfile .plain).program l).functions.filter fun row =>
        !Text.occursIn debugMarker row.name.toList := by
  have hdrops : ∀ name, (g.withProfile .filtered).config.excludesFunction name =
      Text.occursIn debugMarker name.toList := by
    intro name
    simp [Config.excludesFunction, Config.debugEnabled, withProfile, Profile.filtersDebugSymbols,
      debugEnabledFlag, h]
  simp only [functions_filtered, hdrops]

/-- Without debug functions the filtered profile has all rows of the plain one. -/
lemma functions_filtered_eq_self
    (h : g.config.debugSymbols = "true" ∨
      ∀ name ∈ (g.withProfile .plain).keptFunctions l,
        Text.occursIn debugMarker name.toList = false) :
    ((g.withProfile .filtered).program l).functions =
      ((g.withProfile .plain).program l).functions := by
  by_cases he : g.config.debugSymbols = "true"
  · exact g.functions_filtered_of_enabled l he
  · have hnames := h.resolve_left he
    rw [g.functions_filtered_of_not_enabled l he, List.filter_eq_self, functions_eq]
    intro row hrow
    obtain ⟨name, hname, hrow⟩ := List.mem_flatMap.1 hrow
    obtain ⟨pointer, -, rfl⟩ := List.mem_map.1 hrow
    rw [hnames name hname, Bool.not_false]

lemma includes_filtered :
    ((g.withProfile .filtered).program l).includes =
      ((g.withProfile .plain).program l).includes.filter fun name =>
        !Text.occursIn forwardMarker name.toList :=
  IncludeList.includes_ofPaths_true g.config.headers

/-- The two profiles differ by their two filters and by nothing else. -/
theorem withProfile_differByFilters :
    DifferByFilters (g.withProfile .filtered) (g.withProfile .plain) l := by
  have hobjects : ((g.withProfile .filtered).program l).objects =
      ((g.withProfile .plain).program l).objects := by
    rw [objects_withProfile, objects_withProfile]
  have hsingletons : ((g.withProfile .filtered).program l).singletons =
      ((g.withProfile .plain).program l).singletons := by
    rw [singletons_withProfile, singletons_withProfile]
  have hkept : ∀ {kind : SymbolKind}, kind ≠ .freeFunction →
      ((g.withProfile .filtered).lineUses l).countP (LineUse.isKept kind) =
        ((g.withProfile .plain).lineUses l).countP (LineUse.isKept kind) :=
    fun hk => g.countP_lineUses_filtered l (LineUse.isKept_sieve kind_of_dropsDebug hk)
  constructor
  case objects => exact hobjects
  case singletonRows => exact hsingletons
  case lines => rfl
  case blankLines =>
    rw [report_eq, report_eq]
    exact g.countP_unkept_filtered l (fun _ => rfl) fun _ => rfl
  case skippedLines =>
    rw [report_eq, report_eq]
    exact g.countP_unkept_filtered l (fun _ => rfl) fun _ => rfl
  case classes =>
    rw [report_eq, report_eq]
    exact hkept (by decide)
  case templates =>
    rw [report_eq, report_eq]
    exact hkept (by decide)
  case singletons =>
    rw [report_eq, report_eq]
    exact hkept (by decide)
  case privateSkipped =>
    rw [report_eq, report_eq]
    exact g.countP_unkept_filtered l (fun _ => rfl) fun _ => rfl
  case duplicateObjects =>
    rw [report_eq, report_eq, hobjects]
  case debugFiltered =>
    rw [report_eq]
    exact g.countP_debugFunction_plain l
  case functions =>
    rw [report_eq, report_eq, lineUses_filtered]
    exact LineUse.countP_isKept_freeFunction kind_of_dropsDebug (g.countP_debugFunction_plain l)
  case functionRows => exact fun h => g.functions_filtered_of_not_enabled l h
  case functionRows_enabled => exact fun h => g.functions_filtered_of_enabled l h
  case includes => exact g.includes_filtered l
  case headers =>
    rw [report_eq, report_eq]
    exact (IncludeList.length_ofPaths _ _).trans (IncludeList.length_ofPaths _ _).symm
  case source =>
    intro hdebug hforward
    have hincludes : ((g.withProfile .filtered).program l).includes =
        ((g.withProfile .plain).program l).includes := by
      rw [includes_filtered, List.filter_eq_self]
      intro name hname
      rw [hforward name hname, Bool.not_false]
    exact Program.source_congr hincludes hobjects (g.functions_filtered_eq_self l hdebug)
      hsingletons

/-- With debug functions enabled and no forward header the profiles give one source. -/
theorem source_filtered_of_enabled :
    let g : Generator :=
      .ofConfig { debugSymbols := "true", headers := ["src/pwx/CLockable.h", "fwd/pwx.h"] }
    let l : Listing := ⟨["  pwx::debug_log;", "  pwx::CLockable;", "  pwx::private_::a;"], none⟩
    g.config.debugSymbols = "true" ∧
      ((g.withProfile .filtered).program l).includes = ["CLockable.h", "pwx.h"] ∧
      ((g.withProfile .filtered).program l).source = ((g.withProfile .plain).program l).source := by
  intro g l
  refine ⟨rfl, by decide, ?_⟩
  exact (withProfile_differByFilters g l).source (.inl rfl) (by decide)

end Generator

end SymbolProbe

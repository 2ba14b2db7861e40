import SymbolProbe.Proofs.LineUse

/-!
# What a run gathers

The tally of a run is described by the lines behind it: every counter counts the lines of one use,
and every list of fragments is that of the kept symbols, in order. One line keeps this
(`Tally.Gathers.addLine`), so it holds of a whole listing (`Generator.gathers_tally`), and the
program and the report can be read off the lines (`Generator.program_eq`, `Generator.report_eq`).
-/

namespace SymbolProbe

/-! ### Repeated names -/

/-- The names that stand in a list for a second or later time, or that were seen before it. -/
def repetitions (seen : List String) : List String → List String
  | [] => []
  | n :: ns =>
    if seen.contains n then n :: repetitions seen ns else repetitions (n :: seen) ns

/-- A name behind a list is a repetition when the list holds it or it was seen before. -/
lemma repetitions_concat (seen ns : List String) (n : String) :
    repetitions seen (ns ++ [n]) =
      repetitions seen ns ++ if n ∈ seen ∨ n ∈ ns then [n] else [] := by
  induction ns generalizing seen with
  | nil =>
    by_cases h : n ∈ seen <;> simp [repetitions, h]
  | cons m ns ih =>
    by_cases h : m ∈ seen
    · have hmem : n ∈ seen ∨ n ∈ ns ↔ n ∈ seen ∨ n = m ∨ n ∈ ns := by
        constructor
        · rintro (hn | hn)
          · exact .inl hn
          · exact .inr (.inr hn)
        · rintro (hn | rfl | hn)
          · exact .inl hn
          · exact .inl h
          · exact .inr hn
      simp [repetitions, h, ih, hmem]
    · have hmem : n ∈ m :: seen ∨ n ∈ ns ↔ n ∈ seen ∨ n ∈ m :: ns := by
        simp only [List.mem_cons]
        rw [or_assoc, or_left_comm]
      simp only [List.cons_append, repetitions, List.contains_eq_mem, h, decide_false,
        Bool.false_eq_true, if_false, ih, hmem]

/-! ### The invariant -/

namespace Tally

/-- The tally is what lines of these uses come to. -/
structure Gathers (r : RuleSet) (us : List LineUse) (t : Tally) : Prop where
  blankLines : t.blankLines = us.countP (· matches .blank)
  skippedLines : t.skippedLines = us.countP (· matches .unrecognized _)
  privateSkipped : t.privateSkipped = us.countP (· matches .privateMember _)
  debugFiltered : t.debugFiltered = us.countP (· matches .debugFunction _)
  classes : t.classes = us.countP (LineUse.isKept .objectClass)
  templates : t.templates = us.countP (LineUse.isKept .classTemplate)
  functions : t.functions = us.countP (LineUse.isKept .freeFunction)
  singletons : t.singletons = us.countP (LineUse.isKept .globalSingleton)
  objects : t.objects.toList = (us.filterMap LineUse.symbol?).filterMap r.objectCheck?
  functionRows : t.functionRows.toList = (us.filterMap LineUse.symbol?).flatMap r.functionRowsOf
  singletonRows : t.singletonRows.toList = (us.filterMap LineUse.symbol?).flatMap r.singletonRowsOf
  seenObjects : ∀ n, n ∈ t.seenObjects ↔ n ∈ t.objects.toList.map ObjectCheck.name
  duplicateObjects :
    t.duplicateObjects.toList = repetitions [] (t.objects.toList.map ObjectCheck.name)

variable {r : RuleSet} {us : List LineUse} {t : Tally}

lemma gathers_nil (r : RuleSet) : Gathers r [] {} := by
  constructor <;> simp [repetitions]

/-! ### One object check -/

lemma mem_seenObjects_addObject {o : ObjectCheck} {n : String} :
    n ∈ (t.addObject o).seenObjects ↔ n ∈ t.seenObjects ∨ n = o.name := by
  by_cases h : o.name ∈ t.seenObjects
  · have hn : n = o.name → n ∈ t.seenObjects := by
      rintro rfl
      exact h
    simpa [addObject, h] using hn
  · simp [addObject, h, or_comm]

lemma duplicateObjects_addObject (t : Tally) (o : ObjectCheck) :
    (t.addObject o).duplicateObjects.toList =
      t.duplicateObjects.toList ++ if o.name ∈ t.seenObjects then [o.name] else [] := by
  by_cases h : o.name ∈ t.seenObjects <;> simp [addObject, h]

namespace Gathers

/-- A seen name stays seen, and a name that is taken in twice is noted as a duplicate. -/
lemma seenObjects_addObject (h : Gathers r us t) (o : ObjectCheck) (n : String) :
    n ∈ (t.addObject o).seenObjects ↔ n ∈ (t.addObject o).objects.toList.map ObjectCheck.name := by
  rw [mem_seenObjects_addObject, h.seenObjects]
  simp [addObject]

lemma duplicateObjects_addObject (h : Gathers r us t) (o : ObjectCheck) :
    (t.addObject o).duplicateObjects.toList =
      repetitions [] ((t.addObject o).objects.toList.map ObjectCheck.name) := by
  rw [Tally.duplicateObjects_addObject, h.duplicateObjects]
  simp [addObject, h.seenObjects, repetitions_concat]

/-! ### One line -/

/-- One more line is counted under its use, and its fragment goes behind those of its list. -/
lemma addLine (h : Gathers r us t) (u : LineUse) : Gathers r (us ++ [u]) (t.addLine r u) := by
  obtain ⟨_, _, _, _, _, _, _, _, _, _, _, _, _⟩ := id h
  cases u with
  | blank | unrecognized | privateMember | debugFunction =>
    constructor <;> simp [Tally.addLine, LineUse.isKept, LineUse.symbol?, *]
  | kept s =>
    obtain ⟨kind, name⟩ := s
    cases kind with
    | objectClass | classTemplate =>
      constructor
      case seenObjects => exact h.seenObjects_addObject _
      case duplicateObjects => exact h.duplicateObjects_addObject _
      all_goals simp [Tally.addLine, addFragment, addObject, RuleSet.fragment, LineUse.isKept,
        LineUse.symbol?, RuleSet.objectCheck?, RuleSet.functionRowsOf, RuleSet.singletonRowsOf, *]
    | freeFunction | globalSingleton =>
      constructor <;> simp [Tally.addLine, addFragment, RuleSet.fragment, LineUse.isKept,
        LineUse.symbol?, RuleSet.objectCheck?, RuleSet.functionRowsOf, RuleSet.singletonRowsOf, *]

/-- A run from a tally of some lines gives the tally of those and the lines it reads. -/
lemma foldl (h : Gathers r us t) (vs : List LineUse) :
    Gathers r (us ++ vs) (vs.foldl (Tally.addLine r) t) := by
  induction vs generalizing us t with
  | nil => simpa using h
  | cons v vs ih => simpa using ih (h.addLine v)

end Gathers

end Tally

/-! ### Fragments by kind -/

namespace RuleSet

variable (r : RuleSet) (ss : List Symbol)

lemma map_name_objectChecks :
    (ss.filterMap r.objectCheck?).map ObjectCheck.name =
      (ss.filter fun s => s.kind.isObject).map Symbol.name := by
  induction ss with
  | nil => rfl
  | cons s ss ih =>
    obtain ⟨kind, name⟩ := s
    cases kind <;>
      simp [objectCheck?, classCheck, templateCheck, SymbolKind.isObject, List.filterMap_cons, ih]

lemma flatMap_functionRowsOf :
    ss.flatMap r.functionRowsOf =
      ((ss.filter fun s => s.kind == .freeFunction).map Symbol.name).flatMap r.functionRows := by
  induction ss with
  | nil => rfl
  | cons s ss ih =>
    obtain ⟨kind, name⟩ := s
    cases kind <;> simp [functionRowsOf, ih]

lemma flatMap_singletonRowsOf :
    ss.flatMap r.singletonRowsOf =
      ((ss.filter fun s => s.kind == .globalSingleton).map Symbol.name).map r.singletonRow := by
  induction ss with
  | nil => rfl
  | cons s ss ih =>
    obtain ⟨kind, name⟩ := s
    cases kind <;> simp [singletonRowsOf, ih]

end RuleSet

/-! ### Whole listings -/

namespace Generator

lemma gathers_tally (g : Generator) (l : Listing) :
    (g.tally l).Gathers g.rules (g.lineUses l) :=
  (Tally.gathers_nil g.rules).foldl (g.lineUses l)

/-- The program is made of the fragments of the kept symbols. -/
lemma program_eq (g : Generator) (l : Listing) :
    g.program l =
      { includes := g.includeList.includes
        objects := (g.symbols l).filterMap g.rules.objectCheck?
        functions := (g.symbols l).flatMap g.rules.functionRowsOf
        singletons := (g.symbols l).flatMap g.rules.singletonRowsOf } := by
  have h := g.gathers_tally l
  simp [program, symbols, h.objects, h.functionRows, h.singletonRows]

/-- The checks are those of the listed classes and class templates. -/
lemma map_name_objects (g : Generator) (l : Listing) :
    (g.program l).objects.map ObjectCheck.name = g.listedObjects l := by
  rw [program_eq, RuleSet.map_name_objectChecks, filter_symbols_isObject]

/-- The rows are those of the kept functions and then those of the singletons. -/
lemma table_eq (g : Generator) (l : Listing) :
    (g.program l).table =
      (g.keptFunctions l).flatMap g.rules.functionRows ++
        (g.listedSingletons l).map g.rules.singletonRow := by
  rw [Program.table, program_eq, RuleSet.flatMap_functionRowsOf, RuleSet.flatMap_singletonRowsOf,
    filter_symbols_freeFunction, filter_symbols_globalSingleton]

/-- The report counts the uses of the lines. -/
lemma report_eq (g : Generator) (l : Listing) :
    g.report l =
      { lines := l.size
        blankLines := (g.lineUses l).countP (· matches .blank)
        skippedLines := (g.lineUses l).countP (· matches .unrecognized _)
        classes := (g.lineUses l).countP (LineUse.isKept .objectClass)
        templates := (g.lineUses l).countP (LineUse.isKept .classTemplate)
        functions := (g.lineUses l).countP (LineUse.isKept .freeFunction)
        singletons := (g.lineUses l).countP (LineUse.isKept .globalSingleton)
        tableRows := (g.program l).table.length
        debugFiltered := (g.lineUses l).countP (· matches .debugFunction _)
        privateSkipped := (g.lineUses l).countP (· matches .privateMember _)
        duplicateObjects := repetitions [] ((g.program l).objects.map ObjectCheck.name)
        headersIncluded := g.includeList.includes.length
        headersExcluded := g.includeList.excluded.length } := by
  have h := g.gathers_tally l
  simp [report, program, h.blankLines, h.skippedLines, h.privateSkipped, h.debugFiltered,
    h.classes, h.templates, h.functions, h.singletons, h.duplicateObjects]

end Generator

end SymbolProbe

import Mathlib.Data.Finset.Card
import SymbolProbe.Proofs.Interleaving

/-!
# Listings one after the other

A run keeps the lists of fragments of its lines in order and counts its lines, so over two listings
one after the other it gathers both lists and both counts. Only the duplicates look back: a name in
the second listing repeats one of the first as well (`repetitions_append`). So the duplicates are
those of the first listing, followed by the names of the second that stand in the first or earlier
in the second (`Generator.run_append`), and what is left after taking them away are as many names as
there are different ones.
-/

namespace SymbolProbe

/-! ### Repeated names -/

/-- The names of a list, in order and with repetition, that stand in an earlier list or further in
front in their own. -/
def namesAgain (earlier names : List String) : List String :=
  (names.zipIdx.filter fun p => decide (p.1 ∈ earlier ++ names.take p.2)).map Prod.fst

lemma namesAgain_concat (earlier names : List String) (n : String) :
    namesAgain earlier (names ++ [n]) =
      namesAgain earlier names ++ if n ∈ earlier ∨ n ∈ names then [n] else [] := by
  have hfront : (names.zipIdx.filter fun p =>
        decide (p.1 ∈ earlier ++ (names ++ [n]).take p.2)) =
      names.zipIdx.filter fun p => decide (p.1 ∈ earlier ++ names.take p.2) := by
    apply List.filter_congr
    intro p hp
    have hplace : p.2 ≤ names.length := by
      have hlt := List.snd_lt_of_mem_zipIdx hp
      omega
    rw [List.take_append_of_le_length hplace]
  rw [namesAgain, List.zipIdx_append, List.filter_append, hfront, List.map_append, ← namesAgain]
  congr 1
  by_cases h : n ∈ earlier ∨ n ∈ names <;> simp [h]

lemma repetitions_eq_namesAgain (earlier names : List String) :
    repetitions earlier names = namesAgain earlier names := by
  induction names using List.reverseRecOn with
  | nil => rfl
  | append_singleton names n ih => rw [repetitions_concat, namesAgain_concat, ih]

/-- What stands in front of a list counts as seen before it. -/
lemma repetitions_append (seen front back : List String) :
    repetitions seen (front ++ back) =
      repetitions seen front ++ repetitions (seen ++ front) back := by
  induction back using List.reverseRecOn with
  | nil => simp [repetitions]
  | append_singleton back n ih =>
    rw [← List.append_assoc, repetitions_concat, ih, repetitions_concat, List.append_assoc]
    simp only [List.mem_append, or_assoc]

lemma repetitions_eq_nil_iff {names : List String} : repetitions [] names = [] ↔ names.Nodup := by
  induction names using List.reverseRecOn with
  | nil => simp [repetitions]
  | append_singleton names n ih =>
    rw [repetitions_concat, List.append_eq_nil_iff, ih, ← List.concat_eq_append,
      List.nodup_concat]
    by_cases h : n ∈ names <;> simp [h]

/-- A name is a repetition unless it is new. -/
lemma length_repetitions_add_card (names : List String) :
    (repetitions [] names).length + names.toFinset.card = names.length := by
  induction names using List.reverseRecOn with
  | nil => rfl
  | append_singleton names n ih =>
    have hset : (names ++ [n]).toFinset = insert n names.toFinset := by
      ext m
      simp
    rw [repetitions_concat, hset, List.length_append, List.length_append]
    by_cases h : n ∈ names
    · rw [Finset.insert_eq_of_mem (List.mem_toFinset.2 h), if_pos (.inr h)]
      simp only [List.length_singleton]
      omega
    · have hnew : n ∉ names.toFinset := fun hn => h (List.mem_toFinset.1 hn)
      rw [Finset.card_insert_of_notMem hnew, if_neg (by simp [h])]
      simp only [List.length_nil, List.length_singleton]
      omega

/-! ### Objects of a run -/

namespace Generator

variable (g : Generator)

/-- Every class and every class template that is counted has one check. -/
lemma length_objects (l : Listing) :
    (g.program l).objects.length = (g.report l).classes + (g.report l).templates := by
  rw [program_eq, report_eq, countP_isKept_lineUses, countP_isKept_lineUses]
  simp only
  induction g.symbols l with
  | nil => rfl
  | cons s ss ih =>
    obtain ⟨kind, name⟩ := s
    cases kind <;> simp [RuleSet.objectCheck?, List.filterMap_cons, ih] <;> omega

lemma nodup_functionNames_iff {os : List ObjectCheck} :
    (os.map ObjectCheck.functionName).Nodup ↔ (os.map ObjectCheck.name).Nodup := by
  have hnames : os.map ObjectCheck.functionName =
      (os.map ObjectCheck.name).map fun name => "test_" ++ name := by
    simp [ObjectCheck.functionName]
  have hinjective : Function.Injective fun name : String => "test_" ++ name := by
    intro m n h
    simpa [← String.toList_inj] using h
  rw [hnames, List.nodup_map_iff hinjective]

/-! ### Runs over two listings -/

/-- The run over a listing gathers what the runs over two others do, one after the other. -/
structure GathersBoth (a b l : Listing) : Prop where
  objects : (g.program l).objects = (g.program a).objects ++ (g.program b).objects
  functionRows : (g.program l).functions = (g.program a).functions ++ (g.program b).functions
  singletonRows : (g.program l).singletons = (g.program a).singletons ++ (g.program b).singletons
  lines : (g.report l).lines = (g.report a).lines + (g.report b).lines
  blankLines : (g.report l).blankLines = (g.report a).blankLines + (g.report b).blankLines
  skippedLines : (g.report l).skippedLines = (g.report a).skippedLines + (g.report b).skippedLines
  classes : (g.report l).classes = (g.report a).classes + (g.report b).classes
  templates : (g.report l).templates = (g.report a).templates + (g.report b).templates
  functions : (g.report l).functions = (g.report a).functions + (g.report b).functions
  singletons : (g.report l).singletons = (g.report a).singletons + (g.report b).singletons
  tableRows : (g.report l).tableRows = (g.report a).tableRows + (g.report b).tableRows
  debugFiltered :
    (g.report l).debugFiltered = (g.report a).debugFiltered + (g.report b).debugFiltered
  privateSkipped :
    (g.report l).privateSkipped = (g.report a).privateSkipped + (g.report b).privateSkipped
  headersIncluded : (g.report l).headersIncluded = (g.report a).headersIncluded ∧
    (g.report l).headersIncluded = (g.report b).headersIncluded
  headersExcluded : (g.report l).headersExcluded = (g.report a).headersExcluded ∧
    (g.report l).headersExcluded = (g.report b).headersExcluded
  duplicateObjects : (g.report l).duplicateObjects = (g.report a).duplicateObjects ++
    namesAgain ((g.program a).objects.map ObjectCheck.name)
      ((g.program b).objects.map ObjectCheck.name)

/-- The duplicates of a run tell whether its test functions have different names, and how many
different names there are. -/
structure CountsDuplicates (l : Listing) : Prop where
  eq_nil_iff : (g.report l).duplicateObjects = [] ↔
    ((g.program l).objects.map ObjectCheck.functionName).Nodup
  length : (g.report l).duplicateObjects.length +
    ((g.program l).objects.map ObjectCheck.name).toFinset.card =
      (g.report l).classes + (g.report l).templates

lemma gathersBoth_append (a b : Listing) (origin : Option String) :
    g.GathersBoth a b ⟨a.lines ++ b.lines, origin⟩ := by
  have huses : g.lineUses ⟨a.lines ++ b.lines, origin⟩ = g.lineUses a ++ g.lineUses b :=
    List.map_append
  have hprogram : g.program ⟨a.lines ++ b.lines, origin⟩ =
      { includes := g.includeList.includes
        objects := (g.program a).objects ++ (g.program b).objects
        functions := (g.program a).functions ++ (g.program b).functions
        singletons := (g.program a).singletons ++ (g.program b).singletons } := by
    simp [program_eq, symbols, huses]
  constructor
  case objects | functionRows | singletonRows => rw [hprogram]
  case headersIncluded | headersExcluded => exact ⟨rfl, rfl⟩
  case lines => exact List.length_append
  case tableRows =>
    simp only [report, hprogram, Program.table, List.length_append]
    omega
  case duplicateObjects =>
    simp only [report_eq, hprogram, List.map_append]
    rw [repetitions_append, List.nil_append, repetitions_eq_namesAgain (List.map _ _)]
  all_goals simp only [report_eq, huses, List.countP_append]

lemma countsDuplicates (l : Listing) : g.CountsDuplicates l := by
  have hduplicates : (g.report l).duplicateObjects =
      repetitions [] ((g.program l).objects.map ObjectCheck.name) := by
    rw [report_eq]
  constructor
  case eq_nil_iff => rw [hduplicates, repetitions_eq_nil_iff, nodup_functionNames_iff]
  case length =>
    rw [hduplicates, length_repetitions_add_card, List.length_map, length_objects]

/-- The run over the lines of two listings gathers what the runs over either do, with the names
that the second repeats of the first as the only trace of their order. In every run the duplicates
are what keeps the test functions from having different names. -/
theorem run_append (a b : Listing) (origin : Option String) :
    g.GathersBoth a b ⟨a.lines ++ b.lines, origin⟩ ∧ ∀ l, g.CountsDuplicates l :=
  ⟨g.gathersBoth_append a b origin, g.countsDuplicates⟩

end Generator

end SymbolProbe

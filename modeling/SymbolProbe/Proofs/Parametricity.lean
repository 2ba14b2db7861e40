import SymbolProbe.Proofs.Conservation
import SymbolProbe.Proofs.Merging
import SymbolProbe.Proofs.Scheme
import SymbolProbe.Proofs.SourceMarks

/-!
# Parametricity in the namespace

With the built-in rules a run uses its namespace in one way only: to qualify. Which symbols a line
names does not depend on the namespace in front of them (`OpenLine.classify_fill`), and every line
of the program is uniform for given symbols (`RuleSet.areUniform_bodyLines`). So one scheme gives
the sources for all namespaces, and the report is the same for all of them
(`Generator.source_eq_fill`). A generator with a rule set of its own reads the namespace of the
rule set only.
-/

namespace SymbolProbe

/-! ### Fixed texts -/

lemma IsName.isUnqualified {name : String} (h : IsName name.toList) : IsUnqualified name := by
  rw [IsUnqualified, Bool.eq_false_iff]
  intro hcolons
  have hcolon : ':' ∈ name.toList := (Text.occursIn_iff.1 hcolons).subset (by simp)
  exact h.not_mem (by decide) hcolon

lemma IsUniform.indented {f : String → String} (h : IsUniform f) :
    IsUniform fun scope => indented 1 (f scope) :=
  h.append_left (by decide)

/-- The look-ups in a table of made entries. -/
lemma Table.find?_ofList_map {α β : Type} (es : List (String × α)) (make : α → β) (n : String) :
    (ofList (es.map fun e => (e.1, make e.2))).find? n = ((ofList es).find? n).map make := by
  rw [find?_ofList, find?_ofList, ← List.map_reverse, List.find?_map, Option.map_map,
    Option.map_map]
  rfl

namespace RuleSet

/-! ### Built-in function rules -/

/-- A built-in function rule is chosen by the name, whatever the namespace is. -/
lemma exists_functionRule_builtin (name : String) :
    ∃ rule ∈ [lockRule, fun _ => distanceRule, fun _ => comparisonRule,
        fun _ => .instantiate "double", fun _ => .instantiate "int", fun _ => .instantiate "char*",
        setOperationRule, fun _ => .address],
      ∀ scope, (builtin scope).functionRule name = rule scope := by
  let entries : List (String × (String → FunctionRule)) := [
    ("are_locked", lockRule), ("try_locks", lockRule), ("unlock_all", lockRule),
    ("absDistance", fun _ => distanceRule), ("areAlmostEqual", fun _ => comparisonRule),
    ("degToRad", fun _ => .instantiate "double"),
    ("getNormalizedDegree", fun _ => .instantiate "double"),
    ("readNextValue", fun _ => .instantiate "int")]
  have hentries : ∀ scope, (builtin scope).functions.find? name =
      ((Table.ofList entries).find? name).map fun rule => rule scope := fun scope =>
    Table.find?_ofList_map entries (fun rule => rule scope) name
  cases hrule : (Table.ofList entries).find? name with
  | some rule =>
    have hmem := Table.mem_of_find?_ofList hrule
    refine ⟨rule, ?_, fun scope => by simp [functionRule, hentries, hrule]⟩
    simp only [entries, List.mem_cons, Prod.mk.injEq, List.not_mem_nil, or_false] at hmem
    obtain ⟨-, rfl⟩ | ⟨-, rfl⟩ | ⟨-, rfl⟩ | ⟨-, rfl⟩ | ⟨-, rfl⟩ | ⟨-, rfl⟩ | ⟨-, rfl⟩ | ⟨-, rfl⟩ :=
      hmem <;> simp
  | none =>
    have hpattern : ∀ scope, (builtin scope).functionRule name =
        (((builtinPatterns scope).find? fun p => p.pattern.isMatch name).map
          PatternRule.rule).getD .address := by
      intro scope
      rw [functionRule, hentries, hrule]
      rfl
    simp only [hpattern, builtinPatterns, List.find?_cons]
    cases conversionPattern.isMatch name with
    | true => exact ⟨fun _ => .instantiate "char*", by simp, fun _ => rfl⟩
    | false =>
      cases setOperationPattern.isMatch name with
      | true => exact ⟨setOperationRule, by simp, fun _ => rfl⟩
      | false => exact ⟨fun _ => .address, by simp, fun _ => rfl⟩

/-- The address of an overload with one type repeated. -/
lemma isUniform_cast {returns param : String → String} {name : String}
    (hreturns : IsUniform returns) (hparam : IsUniform param) (arity : Nat) (hname : IsUnqualified name) :
    IsUniform fun scope =>
      "(void*)static_cast<" ++
        (Signature.repeated (returns scope) (param scope) arity).pointerType ++
        ">(&" ++ qualify scope name ++ ")" := by
  have hcomma : IsUnqualified "," := by decide
  have hparams := (AreUniform.replicate hparam arity).intercalate hcomma
  have htype : IsUniform fun scope =>
      (Signature.repeated (returns scope) (param scope) arity).pointerType :=
    ((hreturns.append_right (by decide)).append hparams).append_right (by decide)
  exact (((htype.append_left (by decide)).append_right (by decide)).append
    (IsUniform.qualify hname)).append_right (by decide)

/-- The addresses of a function. -/
lemma areUniform_pointers {name : String} (hname : IsUnqualified name) :
    AreUniform fun scope => pointers (qualify scope name) ((builtin scope).functionRule name) := by
  obtain ⟨rule, hmem, hrule⟩ := exists_functionRule_builtin name
  simp only [hrule]
  have hqualified := IsUniform.qualify hname
  have hfixed : ∀ {t : String}, IsUnqualified t → IsUniform fun _ => t := IsUniform.const
  have hlockable : IsUniform lockablePointer :=
    ((IsUniform.qualify (by decide)).append_left (by decide)).append_right (by decide)
  have hset : IsUniform setType := IsUniform.qualify (by decide)
  have hsetPointer : IsUniform fun scope => setType scope ++ "*" := hset.append_right (by decide)
  have hsetConst : IsUniform fun scope => "const " ++ setType scope := hset.append_left (by decide)
  have hinstance : ∀ {args : String}, IsUnqualified args →
      AreUniform fun scope => pointers (qualify scope name) (.instantiate args) := fun hargs =>
    .cons ((((hqualified.append_left (by decide)).append_right (by decide)).append_right
      hargs).append_right (by decide)) .nil
  simp only [List.mem_cons, List.not_mem_nil, or_false] at hmem
  obtain rfl | rfl | rfl | rfl | rfl | rfl | rfl | rfl := hmem
  · exact .cons (isUniform_cast (hfixed (by decide)) hlockable 2 hname)
      (.cons (isUniform_cast (hfixed (by decide)) hlockable 3 hname) .nil)
  · exact .cons (isUniform_cast (hfixed (by decide)) (hfixed (by decide)) 4 hname)
      (.cons (isUniform_cast (hfixed (by decide)) (hfixed (by decide)) 6 hname) .nil)
  · exact .cons (isUniform_cast (hfixed (by decide)) (hfixed (by decide)) 2 hname)
      (.cons (isUniform_cast (hfixed (by decide)) (hfixed (by decide)) 2 hname)
        (.cons (isUniform_cast (hfixed (by decide)) (hfixed (by decide)) 2 hname) .nil))
  · exact hinstance (by decide)
  · exact hinstance (by decide)
  · exact hinstance (by decide)
  · exact .cons (isUniform_cast hsetPointer (hsetConst.append_right (by decide)) 2 hname)
      (.cons (isUniform_cast hset (hsetConst.append_right (by decide)) 2 hname) .nil)
  · exact .cons (hqualified.append_left (by decide)) .nil

/-! ### Checks -/

lemma isUniform_definitionHead {name : String} (h : IsUnqualified name) :
    IsUniform fun _ => definitionHead name := by
  delta definitionHead
  exact ((IsUniform.const h).append_left (by decide)).append_right (by decide)

lemma isUniform_printed {name : String} (h : IsUnqualified name) :
    IsUniform fun _ => "printf(\"%16s: %p\\n\", \"" ++ name ++ "\", (void*)&test_obj);" :=
  ((IsUniform.const h).append_left (by decide)).append_right (by decide)

/-- The definition of a check, given its type, its statements and its arguments. -/
lemma areUniform_definition {o : String → ObjectCheck} {name : String} {args : List String}
    (hname : IsUnqualified name) (hobject : ∀ scope, (o scope).name = name ∧ (o scope).args = args)
    (htype : IsUniform fun scope => (o scope).typeExpr)
    (hprelude : AreUniform fun scope => (o scope).prelude)
    (hargs : IsUnqualified (declarationEnd args)) :
    AreUniform fun scope => (o scope).definition := by
  have hhead : IsUniform fun scope => definitionHead (o scope).name := by
    simp only [(hobject _).1]
    exact isUniform_definitionHead hname
  have hdeclaration : IsUniform fun scope => (o scope).declaration := by
    simp only [ObjectCheck.declaration_eq, (hobject _).2]
    exact htype.append_right hargs
  have hprint : IsUniform fun scope => (o scope).printStatement := by
    simp only [ObjectCheck.printStatement_eq, (hobject _).1]
    exact isUniform_printed hname
  simp only [ObjectCheck.definition_eq]
  exact .cons hhead ((hprelude.map fun u hu => hu.indented).append
    (.cons hdeclaration.indented (.cons hprint.indented (.cons (.const (by decide)) .nil))))

/-- The check of a class. -/
lemma areUniform_classCheck {name : String} (hname : IsUnqualified name) :
    AreUniform fun scope => ((builtin scope).classCheck name).definition := by
  let entries : List (String × (String → ClassRule)) := [
    ("CException", fun _ =>
      { args := ["\"name\"", "\"what\"", "\"where\"", "\"func\"", "\"when\""] }),
    ("CLockGuard", fun scope =>
      { prelude := [qualify scope "CLockable" ++ " lock_me;"], args := ["&lock_me"] }),
    ("CSinCosTable", fun _ => { args := ["2"] })]
  have hentries : ∀ scope, (builtin scope).classRule? name =
      ((Table.ofList entries).find? name).map fun rule => rule scope := fun scope =>
    Table.find?_ofList_map entries (fun rule => rule scope) name
  obtain ⟨rule, args, hrule, hprelude, hargs⟩ : ∃ (rule : String → ClassRule) (args : List String),
      (∀ scope, ((builtin scope).classRule? name).getD {} = rule scope ∧ (rule scope).args = args) ∧
        AreUniform (fun scope => (rule scope).prelude) ∧ IsUnqualified (declarationEnd args) := by
    cases hrule : (Table.ofList entries).find? name with
    | none =>
      refine ⟨fun _ => {}, [], fun scope => ⟨?_, rfl⟩, .nil, by decide⟩
      rw [hentries, hrule]
      rfl
    | some rule =>
      have hchosen : ∀ scope, ((builtin scope).classRule? name).getD {} = rule scope := by
        intro scope
        rw [hentries, hrule]
        rfl
      have hmem := Table.mem_of_find?_ofList hrule
      simp only [entries, List.mem_cons, Prod.mk.injEq, List.not_mem_nil, or_false] at hmem
      obtain ⟨-, rfl⟩ | ⟨-, rfl⟩ | ⟨-, rfl⟩ := hmem
      · exact ⟨_, _, fun scope => ⟨hchosen scope, rfl⟩, .nil, by decide⟩
      · exact ⟨_, _, fun scope => ⟨hchosen scope, rfl⟩,
          .cons ((IsUniform.qualify (by decide)).append_right (by decide)) .nil, by decide⟩
      · exact ⟨_, _, fun scope => ⟨hchosen scope, rfl⟩, .nil, by decide⟩
  refine areUniform_definition hname (fun scope => ⟨rfl, ?_⟩) (IsUniform.qualify hname) ?_ hargs
  · rw [classCheck, (hrule scope).1, (hrule scope).2]
  · simpa only [classCheck, (hrule _).1] using hprelude

/-- The check of a class template. -/
lemma areUniform_templateCheck {name : String} (hname : IsUnqualified name) :
    AreUniform fun scope => ((builtin scope).templateCheck name).definition := by
  have hrule : ∀ scope, (builtin scope).templateRule name = TemplateDefaults.rule {} name :=
    fun _ => rfl
  have hshape : IsUnqualified (",".intercalate (TemplateDefaults.rule {} name).params) ∧
      (∀ s ∈ (TemplateDefaults.rule {} name).prelude, IsUnqualified s) ∧
      IsUnqualified (declarationEnd (TemplateDefaults.rule {} name).args) := by
    rw [TemplateDefaults.rule]
    cases TemplateDefaults.isAssociative {} name <;>
      cases TemplateDefaults.isElement {} name <;> decide
  obtain ⟨hparams, hprelude, hargs⟩ := hshape
  refine areUniform_definition hname (fun scope => ⟨rfl, rfl⟩) ?_ ?_ hargs
  · simp only [templateCheck, hrule]
    exact (((IsUniform.qualify hname).append_right (by decide)).append_right
      hparams).append_right (by decide)
  · simp only [templateCheck, hrule]
    exact .const hprelude

/-- The lines that define the checks of symbols, each behind an empty line. -/
lemma areUniform_objectLines {symbols : List Symbol} (h : ∀ s ∈ symbols, IsUnqualified s.name) :
    AreUniform fun scope =>
      (symbols.filterMap (builtin scope).objectCheck?).flatMap fun o => "" :: o.definition := by
  induction symbols with
  | nil => exact .nil
  | cons s symbols ih =>
    obtain ⟨kind, name⟩ := s
    have hname : IsUnqualified name := h ⟨kind, name⟩ (by simp)
    have hrest := ih fun t ht => h t (by simp [ht])
    have hblank : IsUniform fun _ => "" := .const (by decide)
    cases kind with
    | objectClass => exact (AreUniform.cons hblank (areUniform_classCheck hname)).append hrest
    | classTemplate => exact (AreUniform.cons hblank (areUniform_templateCheck hname)).append hrest
    | freeFunction | globalSingleton => exact hrest

/-! ### Rows -/

/-- The row of a name with an address. -/
lemma isUniform_row {name : String} (hname : IsUnqualified name) (kind : SymbolKind)
    {pointer : String → String} (h : IsUniform pointer) :
    IsUniform fun scope => TableRow.line ⟨kind, name, pointer scope⟩ := by
  have htext : IsUniform fun scope => name ++ "\", " ++ pointer scope ++ " \x7d," :=
    (((IsUniform.const hname).append_right (by decide)).append h).append_right (by decide)
  exact htext.append_left (by decide)

/-- The rows of symbols as free functions. -/
lemma areUniform_functionRows {symbols : List Symbol} (h : ∀ s ∈ symbols, IsUnqualified s.name) :
    AreUniform fun scope => (symbols.flatMap (builtin scope).functionRowsOf).map TableRow.line := by
  simp only [List.map_flatMap]
  refine AreUniform.flatMap fun s hs => ?_
  obtain ⟨kind, name⟩ := s
  have hname : IsUnqualified name := h ⟨kind, name⟩ hs
  cases kind with
  | freeFunction =>
    have hrows : AreUniform fun scope =>
        (pointers (qualify scope name) ((builtin scope).functionRule name)).map fun p =>
          TableRow.line ⟨.freeFunction, name, p⟩ :=
      (areUniform_pointers hname).map fun _ hu => isUniform_row hname _ hu
    simp only [functionRowsOf, functionRows, List.map_map]
    exact hrows
  | objectClass | classTemplate | globalSingleton => exact .nil

/-- The rows of symbols as singletons. -/
lemma areUniform_singletonRows {symbols : List Symbol} (h : ∀ s ∈ symbols, IsUnqualified s.name) :
    AreUniform fun scope =>
      (symbols.flatMap (builtin scope).singletonRowsOf).map TableRow.line := by
  simp only [List.map_flatMap]
  refine AreUniform.flatMap fun s hs => ?_
  obtain ⟨kind, name⟩ := s
  have hname : IsUnqualified name := h ⟨kind, name⟩ hs
  cases kind with
  | globalSingleton =>
    exact .cons (isUniform_row hname _ ((IsUniform.qualify hname).append_left (by decide))) .nil
  | objectClass | classTemplate | freeFunction => exact .nil

/-- The rows of symbols. -/
lemma areUniform_table {symbols : List Symbol} (h : ∀ s ∈ symbols, IsUnqualified s.name) :
    AreUniform fun scope =>
      (symbols.flatMap (builtin scope).functionRowsOf ++
        symbols.flatMap (builtin scope).singletonRowsOf).map TableRow.line := by
  simp only [List.map_append]
  exact (areUniform_functionRows h).append (areUniform_singletonRows h)

end RuleSet

/-! ### Programs -/

/-- The lines of a program behind the include directives. -/
def Program.bodyLines (p : Program) : List String :=
  p.objectLines ++ p.tableLines ++ "" :: mainHead :: p.backLines

lemma Program.lines_eq_append (p : Program) : p.lines = p.includeLines ++ p.bodyLines := by
  simp [lines_eq, frontLines, bodyLines]

/-- The body of a program is uniform if its definitions and its rows are, and if the names of its
checks are fixed. -/
lemma AreUniform.bodyLines {p : String → Program} {names : List String}
    (hnames : ∀ name ∈ names, IsUnqualified name)
    (hcalls : ∀ scope, (p scope).objects.map ObjectCheck.name = names)
    (hobjects : AreUniform fun scope => (p scope).objectLines)
    (htable : AreUniform fun scope => (p scope).table.map TableRow.line) :
    AreUniform fun scope => (p scope).bodyLines := by
  have hempty : ∀ scope, (p scope).table = [] ↔ (p "").table = [] := by
    intro scope
    have hlength := htable.length_eq scope ""
    simp only [List.length_map] at hlength
    rw [← List.length_eq_zero_iff, ← List.length_eq_zero_iff, hlength]
  have hcalls : AreUniform fun scope => (p scope).objects.map fun o => callLine o.name := by
    have hmap : ∀ scope, ((p scope).objects.map fun o => callLine o.name) =
        names.map callLine := by
      intro scope
      rw [← hcalls scope, List.map_map]
      rfl
    simp only [hmap]
    exact (AreUniform.const hnames).map fun u hu =>
      (hu.append_left (by decide)).append_right (by decide)
  have hend : AreUniform fun _ => ["\treturn 0;", "\x7d"] := .const (by decide)
  have hmain : IsUniform fun _ => mainHead := .const (by decide)
  have hblank : IsUniform fun _ => "" := .const (by decide)
  simp only [Program.bodyLines, Program.backLines, Program.tableLines_eq, Program.printLines_eq,
    hempty]
  by_cases h : (p "").table = []
  · simp only [h, if_true]
    exact (hobjects.append .nil).append
      (.cons hblank (.cons hmain ((hcalls.append .nil).append hend)))
  · simp only [h, if_false]
    have hclose : AreUniform fun _ => ["\x7d;"] := .const (by decide)
    have hloop : AreUniform fun _ => ["", loopHead, loopBody] := .const (by decide)
    have hhead : IsUniform fun _ => tableHead := .const (by decide)
    exact (hobjects.append ((AreUniform.cons hblank (.cons hhead htable)).append hclose)).append
      (.cons hblank (.cons hmain ((hcalls.append hloop).append hend)))

/-- The program of symbols under the built-in rules of a namespace. -/
def RuleSet.builtinProgram (includes : List String) (symbols : List Symbol) (scope : String) :
    Program where
  includes := includes
  objects := symbols.filterMap (builtin scope).objectCheck?
  functions := symbols.flatMap (builtin scope).functionRowsOf
  singletons := symbols.flatMap (builtin scope).singletonRowsOf

lemma RuleSet.areUniform_bodyLines {symbols : List Symbol}
    (h : ∀ s ∈ symbols, IsUnqualified s.name) (includes : List String) :
    AreUniform fun scope => (builtinProgram includes symbols scope).bodyLines := by
  have hnames : ∀ name ∈ (symbols.filter fun s => s.kind.isObject).map Symbol.name,
      IsUnqualified name := by
    intro name hname
    obtain ⟨s, hs, rfl⟩ := List.mem_map.1 hname
    exact h s (List.mem_filter.1 hs).1
  exact AreUniform.bodyLines hnames (fun scope => map_name_objectChecks _ symbols)
    (areUniform_objectLines h) (areUniform_table h)

/-! ### Lines without a namespace -/

/-- A listing line in which the namespace is left open: blanks in front of it, and a text behind it
that starts with `::`. -/
structure OpenLine where
  indent : String
  tail : String
  indent_ne : indent ≠ ""
  blanks : ∀ c ∈ indent.toList, c = ' '
  colons : [':', ':'] <+: tail.toList

namespace OpenLine

/-- The line for a namespace. -/
def fill (scope : String) (line : OpenLine) : String := line.indent ++ scope ++ line.tail

variable (line : OpenLine) {scope : String}

lemma split?_fill (hscope : scope.toList.head? ≠ some ' ') (maxLength : Nat) :
    (Classifier.mk scope maxLength).split? (line.fill scope).toList =
      (Text.after? [':', ':'] line.tail.toList).bind Classifier.nameAndTerminator? := by
  obtain ⟨rest, hrest⟩ := line.colons
  have hbody : (scope.toList ++ line.tail.toList).head? ≠ some ' ' := by
    cases hs : scope.toList with
    | nil => simp [← hrest]
    | cons c cs => simpa [hs] using hscope
  have hindent : line.indent.toList ≠ [] := by simpa using line.indent_ne
  have hunindent : Classifier.unindent? (line.fill scope).toList =
      some (scope.toList ++ line.tail.toList) :=
    Classifier.unindent?_eq_some_iff.2
      ⟨line.indent.toList, hindent, line.blanks, hbody, by simp [fill]⟩
  simp only [Classifier.split?, hunindent, Option.bind_eq_bind, Option.bind_some,
    Text.after?_append]

/-- The symbol that a line names is the same for all namespaces that do not start with a blank. -/
lemma classify_fill (hscope : scope.toList.head? ≠ some ' ') (maxLength : Nat) :
    (Classifier.mk scope maxLength).classify (line.fill scope) =
      (Classifier.mk "" maxLength).classify (line.fill "") := by
  have hempty : "".toList.head? ≠ some ' ' := by decide
  simp only [Classifier.classify, line.split?_fill hscope, line.split?_fill hempty]
  rfl

/-- The listing of open lines for a namespace. -/
def listing (lines : List OpenLine) (scope : String) (origin : Option String) : Listing :=
  ⟨lines.map (fill scope), origin⟩

lemma not_isBlankText_fill (scope : String) :
    Text.isBlankText (line.fill scope).toList = false := by
  obtain ⟨rest, hrest⟩ := line.colons
  rw [Text.isBlankText, List.all_eq_false]
  exact ⟨':', by simp [fill, ← hrest], by decide⟩

end OpenLine

/-! ### Runs -/

namespace Generator

/-- The generator of a configuration for a namespace, with the built-in rules. -/
def inScope (c : Config) (scope : String) : Generator := ofConfig { c with scope := scope }

variable (c : Config) (lines : List OpenLine) {scope : String}

lemma classify_fill (hscope : scope.toList.head? ≠ some ' ') (line : OpenLine) :
    (inScope c scope).classifier.classify (line.fill scope) =
      (inScope c "").classifier.classify (line.fill "") :=
  line.classify_fill hscope c.maxSingletonLength

/-- Open lines are used in the same way for all namespaces. -/
lemma countP_lineUses_fill (hscope : scope.toList.head? ≠ some ' ') (origin : Option String)
    (p : LineUse → Bool) (hp : ∀ t t', p (.unrecognized t) = p (.unrecognized t')) :
    ((inScope c scope).lineUses (OpenLine.listing lines scope origin)).countP p =
      ((inScope c "").lineUses (OpenLine.listing lines "" none)).countP p := by
  simp only [lineUses, OpenLine.listing, List.map_map, List.countP_map]
  congr 1
  funext line
  simp only [Function.comp_apply, lineUse_eq, line.not_isBlankText_fill, classify_fill c hscope]
  cases (inScope c "").classifier.classify (line.fill "") with
  | none => exact hp _ _
  | some s => rfl

/-- Open lines name the same symbols for all namespaces. -/
lemma symbols_fill (hscope : scope.toList.head? ≠ some ' ') (origin : Option String) :
    (inScope c scope).symbols (OpenLine.listing lines scope origin) =
      (inScope c "").symbols (OpenLine.listing lines "" none) := by
  simp only [symbols_eq, OpenLine.listing, List.filterMap_map, Function.comp_def,
    classify_fill c hscope]
  rfl

/-- The program for open lines is made of the same symbols for all namespaces. -/
lemma program_fill (hscope : scope.toList.head? ≠ some ' ') (origin : Option String) :
    (inScope c scope).program (OpenLine.listing lines scope origin) =
      RuleSet.builtinProgram (ofConfig c).includeList.includes
        ((inScope c "").symbols (OpenLine.listing lines "" none)) scope := by
  rw [program_eq, symbols_fill c lines hscope]
  rfl

lemma isUnqualified_of_mem_symbols (g : Generator) (l : Listing) :
    ∀ s ∈ g.symbols l, IsUnqualified s.name :=
  fun _ hs => (isName_of_mem_symbols hs).isUnqualified

/-- The report on open lines is the same for all namespaces. -/
lemma report_fill (hscope : scope.toList.head? ≠ some ' ') (origin : Option String) :
    (inScope c scope).report (OpenLine.listing lines scope origin) =
      (inScope c "").report (OpenLine.listing lines "" none) := by
  have hempty : "".toList.head? ≠ some ' ' := by decide
  have hcount := countP_lineUses_fill c lines hscope origin
  have hsize : (OpenLine.listing lines scope origin).size =
      (OpenLine.listing lines "" none).size := by
    simp [OpenLine.listing]
  have hnamed := isUnqualified_of_mem_symbols (inScope c "") (OpenLine.listing lines "" none)
  have hrows := (RuleSet.areUniform_table hnamed).length_eq scope ""
  have htable : ((inScope c scope).program (OpenLine.listing lines scope origin)).table.length =
      ((inScope c "").program (OpenLine.listing lines "" none)).table.length := by
    simp only [List.length_map] at hrows
    rw [program_fill c lines hscope, program_fill c lines hempty]
    exact hrows
  have hnames : ((inScope c scope).program (OpenLine.listing lines scope origin)).objects.map
      ObjectCheck.name =
        ((inScope c "").program (OpenLine.listing lines "" none)).objects.map ObjectCheck.name := by
    rw [program_fill c lines hscope, program_fill c lines hempty]
    exact (RuleSet.map_name_objectChecks _ _).trans (RuleSet.map_name_objectChecks _ _).symm
  rw [report_eq, report_eq, htable, hnames, hsize]
  congr 1
  all_goals exact hcount _ fun _ _ => rfl

/-- The text of the include directives, which does not depend on the namespace. -/
def includeText (g : Generator) : String :=
  String.join (("#include <cstdio>" :: g.includeList.directives).map (· ++ "\n"))

/-- With the built-in rules the namespace is used to qualify and for nothing else: one scheme, in
which the holes are the qualifiers behind the include directives, gives the sources for all
namespaces that do not start with a blank, and the report is the same for all of them. Whatever the
rules are, the namespace of the configuration alone changes nothing. -/
theorem source_eq_fill (c : Config) (lines : List OpenLine) :
    (∃ (s : Scheme) (r : Report), s.Qualifies ∧
      ∀ scope origin, scope.toList.head? ≠ some ' ' →
        let g := inScope c scope
        let l := OpenLine.listing lines scope origin
        (g.program l).source = Scheme.fill (.text (ofConfig c).includeText :: s) scope ∧
          g.report l = r) ∧
    ∀ (rules : RuleSet) (scope : String) (l : Listing),
      let g : Generator := ⟨{ c with scope := scope }, rules⟩
      (g.program l).source = ((Generator.mk c rules).program l).source ∧
        g.report l = (Generator.mk c rules).report l := by
  refine ⟨?_, fun _ _ _ => ⟨rfl, rfl⟩⟩
  -- The symbols are the same in every namespace, so they may be taken from the empty one.
  let symbols := (inScope c "").symbols (OpenLine.listing lines "" none)
  let includes := (ofConfig c).includeList.includes
  have hnamed : ∀ s ∈ symbols, IsUnqualified s.name := isUnqualified_of_mem_symbols _ _
  have hended : AreUniform fun scope =>
      (RuleSet.builtinProgram includes symbols scope).bodyLines.map (· ++ "\n") :=
    (RuleSet.areUniform_bodyLines hnamed includes).map fun _ hu => hu.append_right (by decide)
  obtain ⟨s, hs, hfill⟩ := hended.join
  refine ⟨s, _, hs, fun scope origin hscope => ⟨?_, report_fill c lines hscope origin⟩⟩
  rw [program_fill c lines hscope, Program.source, Program.lines_eq_append, List.map_append,
    String.join_append, Scheme.fill_text_cons]
  exact congrArg (includeText (ofConfig c) ++ ·) (hfill scope)

/-- A lock guard, an element of an associative container, a set operation and a singleton are
written with one scheme for the default namespace, for a nested one and for the empty one. -/
theorem source_of_open_lines :
    let lines : List OpenLine :=
      [⟨"  ", "::CLockGuard: x", by decide, by simp, by decide⟩,
        ⟨" ", "::THashElement;", by decide, by simp, by decide⟩,
        ⟨" ", "::set_union;", by decide, by simp, by decide⟩,
        ⟨" ", "::RNG;", by decide, by simp, by decide⟩,
        ⟨" ", "::?", by decide, by simp, by decide⟩]
    let source := fun scope =>
      ((inScope {} scope).program (OpenLine.listing lines scope none)).source
    let report := fun scope => (inScope {} scope).report (OpenLine.listing lines scope none)
    (∃ s : Scheme, s.Qualifies ∧ ∀ scope ∈ ["pwx", "a::b", ""],
      source scope = Scheme.fill (.text "#include <cstdio>\n" :: s) scope) ∧
      (report "a::b").tableRows = 3 ∧ (report "a::b").skippedLines = 1 ∧
      (Generator.mk { scope := "a::b" } (.builtin "pwx")).report
        (OpenLine.listing lines "pwx" none) = report "a::b" := by
  intro lines source report
  obtain ⟨⟨s, r, hs, hfill⟩, hfree⟩ := source_eq_fill {} lines
  have hreport : report "a::b" = report "pwx" :=
    (hfill "a::b" none (by decide)).2.trans (hfill "pwx" none (by decide)).2.symm
  refine ⟨⟨s, hs, fun scope hscope => ?_⟩, ?_, ?_, ?_⟩
  · have hblank : scope.toList.head? ≠ some ' ' := by
      revert scope
      decide
    exact (hfill scope none hblank).1
  · rw [hreport]
    decide
  · rw [hreport]
    decide
  · rw [hreport]
    exact (hfree (.builtin "pwx") "a::b" _).2

end Generator

end SymbolProbe

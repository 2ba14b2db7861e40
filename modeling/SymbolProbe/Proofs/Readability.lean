import SymbolProbe.Proofs.SourceLines

/-!
# Reading a program's text

The empty lines of a program's text part it into sections: the directives, one section for each
check, the table, the main function, and the loop that prints the table. A line inside a section is
never empty, since all that the program brings in stands behind a tab or a fixed start. So the
sections are found again, the first line of a section tells what it holds, and the parts of the
program are read off the sections, even if the statements of a check look like braces, directives or
rows (`ProgramReading.ofSections_sections`). What is read is all that the text depends on, so two
programs have the same text exactly when they read the same (`Program.source_eq_iff`).
-/

namespace SymbolProbe

/-! ### Readings -/

/-- What the definition of a check tells of it. -/
structure CheckReading where
  name : String
  prelude : List String
  declaration : String
deriving DecidableEq, Repr

/-- What the text of a program tells of it. -/
structure ProgramReading where
  includes : List String
  checks : List CheckReading
  /-- The names and pointers of the table's rows. -/
  rows : List (String × String)
deriving DecidableEq, Repr

def ObjectCheck.reading (o : ObjectCheck) : CheckReading := ⟨o.name, o.prelude, o.declaration⟩

def Program.reading (p : Program) : ProgramReading where
  includes := p.includes
  checks := p.objects.map ObjectCheck.reading
  rows := p.table.map fun r => (r.name, r.pointer)

/-! ### Lines -/

/-- A line without its first character. -/
def outdented (line : String) : String := String.ofList line.toList.tail

/-- The name of the file that a line includes. -/
def includeName? (line : String) : Option String := between? "#include \"" "\"" line

/-- The name and the pointer of the row that a line holds. -/
def readRow? (line : String) : Option (String × String) := do
  let text ← between? rowStart " \x7d," line
  let pointer ← Text.after? ['"', ',', ' '] (text.toList.dropWhile (· != '"'))
  pure (String.ofList (text.toList.takeWhile (· != '"')), String.ofList pointer)

/-- The line that holds a row. -/
def writeRow (row : String × String) : String := rowLine (row.1 ++ "\", " ++ row.2 ++ " \x7d,")

@[simp] lemma outdented_indented (line : String) : outdented (indented 1 line) = line := by
  simp [outdented]

@[simp] lemma includeName?_directive (name : String) :
    includeName? (IncludeList.directive name) = some name :=
  between?_eq_some_iff.2 rfl

/-- A row is read back as long as its name does not close the literal that holds it. -/
lemma readRow?_writeRow {row : String × String} (h : '"' ∉ row.1.toList) :
    readRow? (writeRow row) = some row := by
  have htext : between? rowStart " \x7d," (writeRow row) = some (row.1 ++ "\", " ++ row.2) := by
    rw [between?_eq_some_iff]
    simp [writeRow, rowLine, ← String.toList_inj]
  have hname : ∀ c ∈ row.1.toList, (c != '"') = true := by
    intro c hc
    rw [bne_iff_ne]
    rintro rfl
    exact h hc
  have hchars : (row.1 ++ "\", " ++ row.2).toList =
      row.1.toList ++ '"' :: ',' :: ' ' :: row.2.toList := by
    simp
  rw [readRow?, htext, Option.bind_eq_bind, Option.bind_some, hchars,
    List.dropWhile_append_of_pos hname, List.takeWhile_append_of_pos hname]
  simp [Text.after?]

/-! ### Checks -/

namespace CheckReading

/-- The statement that prints the name and the address of a check's object. -/
def printStatement (name : String) : String :=
  "printf(\"%16s: %p\\n\", \"" ++ name ++ "\", (void*)&test_obj);"

/-- The section that defines a check. -/
def definition (c : CheckReading) : List String :=
  definitionHead c.name ::
    (c.prelude.map (indented 1) ++
      [indented 1 c.declaration, indented 1 (printStatement c.name), "\x7d"])

/-- The check that a section defines, if it starts like a definition. Its last three lines are the
declaration, the print statement and the closing brace. -/
def ofSection? : List String → Option CheckReading
  | [] => none
  | head :: body =>
    match definitionName? head, body.reverse with
    | some name, _ :: _ :: declaration :: prelude =>
      some ⟨name, prelude.reverse.map outdented, outdented declaration⟩
    | _, _ => none

@[simp] lemma ofSection?_definition (c : CheckReading) : ofSection? c.definition = some c := by
  have hname : definitionName? (definitionHead c.name) = some c.name :=
    definitionName?_eq_some_iff.2 rfl
  simp [definition, ofSection?, hname, Function.comp_def]

lemma ofSection?_eq_none {head : String} (h : definitionName? head = none) (body : List String) :
    ofSection? (head :: body) = none := by
  simp [ofSection?, h]

end CheckReading

lemma ObjectCheck.definition_eq_reading (o : ObjectCheck) :
    o.definition = o.reading.definition := by
  rw [definition_eq, printStatement_eq]
  rfl

/-! ### Sections -/

/-- The sections of lines: the groups that the empty lines part. -/
def sectionsOf (lines : List String) : List (List String) := lines.splitOn ""

lemma splitOn_append_flatMap {α : Type} [DecidableEq α] {a : α} {l : List α} {ls : List (List α)}
    (hl : a ∉ l) (hls : ∀ k ∈ ls, a ∉ k) : (l ++ ls.flatMap (a :: ·)).splitOn a = l :: ls := by
  induction ls generalizing l with
  | nil => rw [List.flatMap_nil, List.append_nil, List.splitOn_eq_singleton hl]
  | cons k ls ih =>
    rw [List.flatMap_cons, List.cons_append, List.splitOn_append_cons_self_of_not_mem hl,
      ih (hls k (by simp)) fun m hm => hls m (by simp [hm])]

namespace ProgramReading

variable (r : ProgramReading)

/-- The section of the directives. -/
def directives : List String := "#include <cstdio>" :: r.includes.map IncludeList.directive

/-- The section of the table. -/
def table : List String := tableHead :: r.rows.map writeRow ++ ["\x7d;"]

/-- The main function up to its end, or up to the loop. -/
def calls : List String := mainHead :: r.checks.map fun c => callLine c.name

/-- The sections behind the directives. The main function is parted in two if it holds the loop. -/
def bodySections : List (List String) :=
  r.checks.map CheckReading.definition ++
    if r.rows = [] then [r.calls ++ ["\treturn 0;", "\x7d"]]
    else [r.table, r.calls, [loopHead, loopBody, "\treturn 0;", "\x7d"]]

/-- The lines of a program's text. -/
def lines : List String := r.directives ++ r.bodySections.flatMap ("" :: ·)

/-- The rows that a section holds, if it starts like the table. -/
def rowsOfSection (s : List String) : List (String × String) :=
  if s.head? = some tableHead then s.filterMap readRow? else []

/-- What sections tell of a program. -/
def ofSections (sections : List (List String)) : ProgramReading where
  includes := (sections.headD []).filterMap includeName?
  checks := sections.filterMap CheckReading.ofSection?
  rows := sections.flatMap rowsOfSection

/-- What a text tells of a program. -/
def ofText (text : String) : ProgramReading :=
  ofSections (sectionsOf ((text.toList.splitOn '\n').map String.ofList))

/-! ### Sections are found again -/

lemma indented_ne_empty (line : String) : indented 1 line ≠ "" := by
  simp [← String.toList_inj]

lemma empty_not_mem_directives : "" ∉ r.directives := by
  simp [directives, IncludeList.directive, ← String.toList_inj]

lemma empty_not_mem_definition (c : CheckReading) : "" ∉ c.definition := by
  have hhead : definitionHead c.name ≠ "" := by simp [← String.toList_inj]
  simp [CheckReading.definition, indented_ne_empty, hhead.symm, (indented_ne_empty _).symm]

lemma empty_not_mem_bodySections : ∀ s ∈ r.bodySections, "" ∉ s := by
  have hcalls : "" ∉ r.calls := by
    simp [calls, mainHead, ← String.toList_inj]
  have htable : "" ∉ r.table := by
    simp [table, tableHead, writeRow, rowStart, ← String.toList_inj]
  have hloop : "" ∉ [loopHead, loopBody, "\treturn 0;", "\x7d"] := by decide
  intro s hs
  rw [bodySections, List.mem_append, List.mem_map] at hs
  rcases hs with ⟨c, -, rfl⟩ | hs
  · exact empty_not_mem_definition c
  · split at hs
    · obtain rfl := List.mem_singleton.1 hs
      simp [hcalls]
    · simp only [List.mem_cons, List.not_mem_nil, or_false] at hs
      rcases hs with rfl | rfl | rfl
      · exact htable
      · exact hcalls
      · exact hloop

/-- The empty line behind the text's last line feed makes a last section without lines. -/
lemma sectionsOf_lines : sectionsOf (r.lines ++ [""]) = r.directives :: (r.bodySections ++ [[]]) := by
  have hlines : r.lines ++ [""] = r.directives ++ (r.bodySections ++ [[]]).flatMap ("" :: ·) := by
    simp [lines]
  rw [sectionsOf, hlines, splitOn_append_flatMap r.empty_not_mem_directives]
  intro s hs
  rcases List.mem_append.1 hs with hs | hs
  · exact r.empty_not_mem_bodySections s hs
  · simp_all

/-! ### Parts are read back -/

lemma filterMap_includeName?_directives : r.directives.filterMap includeName? = r.includes := by
  have hcstdio : includeName? "#include <cstdio>" = none := by decide
  rw [directives, List.filterMap_cons_none hcstdio, List.filterMap_map]
  simp

lemma filterMap_readRow?_table (h : ∀ row ∈ r.rows, '"' ∉ row.1.toList) :
    r.table.filterMap readRow? = r.rows := by
  have hhead : readRow? tableHead = none := by decide
  have hend : readRow? "\x7d;" = none := by decide
  have hrows : (r.rows.map writeRow).filterMap readRow? = r.rows := by
    rw [List.filterMap_map]
    conv_rhs => rw [← List.filterMap_some (l := r.rows)]
    apply List.filterMap_congr
    intro row hrow
    exact readRow?_writeRow (h row hrow)
  rw [table, List.cons_append, List.filterMap_cons_none hhead, List.filterMap_append, hrows]
  simp [hend]

/-- The head of a definition is not that of the table. -/
lemma definitionHead_ne_tableHead (name : String) : definitionHead name ≠ tableHead := by
  intro h
  cases Mark.line_injective (m := .definition name) (n := .table) h

/-- Only the definitions of checks start like one. -/
lemma filterMap_ofSection?_bodySections :
    r.bodySections.filterMap CheckReading.ofSection? = r.checks := by
  have htable : definitionName? tableHead = none := by decide
  have hmain : definitionName? mainHead = none := by decide
  have hloop : definitionName? loopHead = none := by decide
  have hchecks : (r.checks.map CheckReading.definition).filterMap CheckReading.ofSection? =
      r.checks := by
    rw [List.filterMap_map]
    simp
  rw [bodySections, List.filterMap_append, hchecks]
  by_cases h : r.rows = []
  · simp [h, calls, CheckReading.ofSection?_eq_none hmain]
  · simp [h, calls, table, CheckReading.ofSection?_eq_none hmain,
      CheckReading.ofSection?_eq_none hloop, CheckReading.ofSection?_eq_none htable]

/-- Only the table starts like one. -/
lemma flatMap_rowsOfSection_bodySections (h : ∀ row ∈ r.rows, '"' ∉ row.1.toList) :
    r.bodySections.flatMap rowsOfSection = r.rows := by
  have hmain : mainHead ≠ tableHead := by decide
  have hloop : loopHead ≠ tableHead := by decide
  have hchecks : (r.checks.map CheckReading.definition).flatMap rowsOfSection = [] := by
    rw [List.flatMap_eq_nil_iff]
    intro s hs
    obtain ⟨c, -, rfl⟩ := List.mem_map.1 hs
    simp [rowsOfSection, CheckReading.definition, definitionHead_ne_tableHead]
  have htable : rowsOfSection r.table = r.rows := by
    rw [rowsOfSection, if_pos (by simp [table]), r.filterMap_readRow?_table h]
  rw [bodySections, List.flatMap_append, hchecks]
  by_cases hrows : r.rows = []
  · simp [hrows, calls, rowsOfSection, hmain]
  · rw [if_neg hrows, List.nil_append, List.flatMap_cons, htable]
    simp [calls, rowsOfSection, hmain, hloop]

/-- All parts of a program are read off its sections, whatever its statements look like. -/
lemma ofSections_sections (h : ∀ row ∈ r.rows, '"' ∉ row.1.toList) :
    ofSections (r.directives :: (r.bodySections ++ [[]])) = r := by
  have hcheck : CheckReading.ofSection? r.directives = none :=
    CheckReading.ofSection?_eq_none (by decide) _
  have hstart : "#include <cstdio>" ≠ tableHead := by decide
  have hrows : rowsOfSection r.directives = [] := by
    rw [rowsOfSection, if_neg (by simpa [directives] using hstart)]
  rw [ofSections, List.headD_cons, r.filterMap_includeName?_directives,
    List.filterMap_cons_none hcheck, List.filterMap_append, r.filterMap_ofSection?_bodySections,
    List.flatMap_cons, hrows, List.flatMap_append, r.flatMap_rowsOfSection_bodySections h]
  simp [List.filterMap_cons, CheckReading.ofSection?, rowsOfSection]

end ProgramReading

/-! ### Programs -/

namespace Program

/-- No part of a program breaks its line, and the names of its objects and rows are identifiers. -/
structure IsLegible (p : Program) : Prop where
  includes : ∀ name ∈ p.includes, '\n' ∉ name.toList
  objectNames : ∀ o ∈ p.objects, IsName o.name.toList
  preludes : ∀ o ∈ p.objects, ∀ s ∈ o.prelude, '\n' ∉ s.toList
  types : ∀ o ∈ p.objects, '\n' ∉ o.typeExpr.toList
  args : ∀ o ∈ p.objects, ∀ a ∈ o.args, '\n' ∉ a.toList
  rowNames : ∀ r ∈ p.functions ++ p.singletons, IsName r.name.toList
  pointers : ∀ r ∈ p.functions ++ p.singletons, '\n' ∉ r.pointer.toList

variable {p q : Program}

lemma IsLegible.isUnbroken (h : p.IsLegible) : p.IsUnbroken where
  includes := h.includes
  definitions := by
    intro o ho line hline
    have hargs : '\n' ∉ [',', ' '].intercalate (o.args.map String.toList) := by
      apply not_mem_intercalate (by decide)
      intro text htext
      obtain ⟨a, ha, rfl⟩ := List.mem_map.1 htext
      exact h.args o ho a ha
    have hdeclaration : '\n' ∉ o.declaration.toList := by
      rw [o.declaration_eq, declarationEnd]
      split <;> simp [h.types o ho, hargs]
    exact ObjectCheck.feed_not_mem_definition ((h.objectNames o ho).not_mem (by decide))
      (h.preludes o ho) hdeclaration hline
  rows r hr := ⟨(h.rowNames r hr).not_mem (by decide), h.pointers r hr⟩

/-- A program's text depends on nothing but what it tells. -/
lemma lines_eq_reading (p : Program) : p.lines = p.reading.lines := by
  have hdirectives : p.includeLines = p.reading.directives := rfl
  have hobjects : p.objectLines =
      (p.reading.checks.map CheckReading.definition).flatMap ("" :: ·) := by
    simp [objectLines, reading, List.flatMap_map, ObjectCheck.definition_eq_reading]
  have hrows : p.table.map TableRow.line = p.reading.rows.map writeRow := by
    rw [reading, List.map_map]
    rfl
  have hcalls : p.objects.map (fun o => callLine o.name) =
      p.reading.checks.map fun c => callLine c.name := by
    rw [reading, List.map_map]
    rfl
  have hempty : p.reading.rows = [] ↔ p.table = [] := List.map_eq_nil_iff
  rw [lines_eq, frontLines, backLines, tableLines_eq, printLines_eq, hdirectives, hobjects, hrows,
    hcalls, ProgramReading.lines, ProgramReading.bodySections]
  by_cases h : p.table = []
  · rw [if_pos h, if_pos h, if_pos (hempty.2 h)]
    simp [ProgramReading.calls]
  · rw [if_neg h, if_neg h, if_neg (fun hrows => h (hempty.1 hrows))]
    simp [ProgramReading.calls, ProgramReading.table]

/-- The parts of a legible program are read off its text. -/
lemma IsLegible.ofText_source (h : p.IsLegible) : ProgramReading.ofText p.source = p.reading := by
  have hsource : ProgramReading.ofText p.source =
      ProgramReading.ofSections (sectionsOf p.sourceLines) := rfl
  have hquotes : ∀ row ∈ p.reading.rows, '"' ∉ row.1.toList := by
    intro row hrow
    obtain ⟨r, hr, rfl⟩ := List.mem_map.1 hrow
    exact (h.rowNames r hr).not_mem (by decide)
  rw [hsource, h.isUnbroken.sourceLines_eq, lines_eq_reading, ProgramReading.sectionsOf_lines,
    ProgramReading.ofSections_sections _ hquotes]

/-- Legible programs have the same text exactly when they have the same includes, checks of the same
names, preludes and declarations in the same order, and the same names and pointers of functions and
then of singletons; one reader recovers all of these from the text. -/
theorem source_eq_iff (hp : p.IsLegible) (hq : q.IsLegible) :
    (p.source = q.source ↔ p.reading = q.reading) ∧
      ProgramReading.ofText p.source = p.reading ∧ ProgramReading.ofText q.source = q.reading := by
  refine ⟨?_, hp.ofText_source, hq.ofText_source⟩
  constructor
  · intro h
    rw [← hp.ofText_source, h, hq.ofText_source]
  · intro h
    rw [source, source, lines_eq_reading, lines_eq_reading, h]

/-- The parts of a program may look like the ends and starts of other parts. Where the arguments of a
check are parted and which rows are singletons is not told by the text. -/
theorem source_of_disguised_parts :
    let o : ObjectCheck :=
      { kind := .objectClass
        name := "CFoo"
        typeExpr := "pwx::CFoo"
        prelude := ["\x7d", "", "#include \"b.h\"", "\x7b (void*)\"f\", 0 \x7d,", "int main(void) \x7b"]
        args := ["1", "2); pwx::CBar test_obj("] }
    let p : Program :=
      { includes := ["a\".h", "<b.h>"]
        objects := [o]
        functions := [⟨.freeFunction, "f", "0 \x7d, \x7b (void*)\"g\", 1"⟩]
        singletons := [⟨.globalSingleton, "RNG", "\", \""⟩] }
    let q : Program :=
      { p with
        objects := [{ o with args := ["1, 2); pwx::CBar test_obj("] }]
        functions := p.table
        singletons := [] }
    p.IsLegible ∧ q.IsLegible ∧ p.source = q.source ∧ p.reading = q.reading ∧
      ProgramReading.ofText p.source = p.reading := by
  intro o p q
  have hp : p.IsLegible := by
    constructor <;> decide
  have hq : q.IsLegible := by
    constructor <;> decide
  have hsource : p.source = q.source := by decide +kernel
  obtain ⟨hiff, hread, -⟩ := source_eq_iff hp hq
  exact ⟨hp, hq, hsource, hiff.1 hsource, hread⟩

end Program

end SymbolProbe

import Mathlib.Data.List.Basic
import SymbolProbe.Program
import SymbolProbe.Proofs.LineGrammar

/-!
# Marked lines of the program's text

Six forms of lines mark the parts of a program: the heads of the definitions of its checks, the head
and the rows of its table, the head of the main function, the calls of the checks and the head of
the loop that prints the table. No line has two of these forms, so they can be read back
(`mark?_eq_some_iff`). As long as no statement of a check looks like one of them, the marks of a
program's text are those of its parts, in order (`Program.IsPlain.filterMap_lines`).
-/

namespace SymbolProbe

/-! ### Texts between two others -/

/-- What precedes `s` in `t`, when `t` ends with `s`. -/
def Text.before? (s t : List Char) : Option (List Char) :=
  (after? s.reverse t.reverse).map List.reverse

lemma Text.before?_eq_some_iff {s t r : List Char} : before? s t = some r ↔ t = r ++ s := by
  rw [before?, Option.map_eq_some_iff]
  constructor
  · rintro ⟨u, hu, rfl⟩
    rw [after?_eq_some_iff] at hu
    simpa using congrArg List.reverse hu
  · rintro rfl
    exact ⟨r.reverse, by simp, by simp⟩

/-- What stands between a text that a line starts with and one that it ends with. -/
def between? (start stop line : String) : Option String :=
  ((Text.after? start.toList line.toList).bind (Text.before? stop.toList)).map String.ofList

lemma between?_eq_some_iff {start stop line name : String} :
    between? start stop line = some name ↔ line = start ++ name ++ stop := by
  rw [between?, Option.map_eq_some_iff]
  constructor
  · rintro ⟨t, ht, rfl⟩
    obtain ⟨u, hu, ht⟩ := Option.bind_eq_some_iff.1 ht
    rw [Text.after?_eq_some_iff] at hu
    rw [Text.before?_eq_some_iff] at ht
    rw [← String.toList_inj]
    simp [hu, ht]
  · rintro rfl
    refine ⟨name.toList, Option.bind_eq_some_iff.2 ⟨name.toList ++ stop.toList, ?_, ?_⟩, by simp⟩
    · rw [Text.after?_eq_some_iff]
      simp
    · rw [Text.before?_eq_some_iff]

/-! ### Marks -/

/-- The head of the definition of the check of a name. -/
def definitionHead (name : String) : String := "static void test_" ++ name ++ "(void) \x7b"

/-- The call of the check of a name. -/
def callLine (name : String) : String := "\ttest_" ++ name ++ "();"

/-- The head of the table. -/
def tableHead : String := "static void* functions[][2] = \x7b"

/-- What all rows of the table start with. -/
def rowStart : String := "\t\x7b (void*)\""

/-- The row with a text behind the start. -/
def rowLine (text : String) : String := rowStart ++ text

/-- The head of the main function. -/
def mainHead : String := "int main(void) \x7b"

/-- The head of the loop that prints the table. -/
def loopHead : String := "\tfor (unsigned i = 0; i < sizeof(functions)/sizeof(void*)/2; i++)"

/-- The statement of the loop. -/
def loopBody : String :=
  "\t\tprintf(\"%16s: %p\\n\", (const char*)functions[i][0], functions[i][1]);"

/-- What a line of a program's text marks. -/
inductive Mark
  /-- The definition of the check of a name starts. -/
  | definition (name : String)
  /-- The table starts. -/
  | table
  /-- A row of the table, with what follows the start of all rows. -/
  | row (text : String)
  /-- The main function starts. -/
  | main
  /-- The check of a name is called. -/
  | call (name : String)
  /-- The loop over the table starts. -/
  | loop
deriving DecidableEq, Repr

/-- The line with a mark. -/
def Mark.line : Mark → String
  | .definition name => definitionHead name
  | .table => tableHead
  | .row text => rowLine text
  | .main => mainHead
  | .call name => callLine name
  | .loop => loopHead

/-- The name of the check whose definition starts with a line. -/
def definitionName? (line : String) : Option String :=
  between? "static void test_" "(void) \x7b" line

/-- The name of the check that a line calls. -/
def callName? (line : String) : Option String := between? "\ttest_" "();" line

/-- What follows the start of a row. -/
def rowText? (line : String) : Option String := between? rowStart "" line

/-- The mark of a line. -/
def mark? (line : String) : Option Mark :=
  ((definitionName? line).map .definition).or <|
    ((callName? line).map .call).or <|
      ((rowText? line).map .row).or <|
        [Mark.table, .main, .loop].find? fun m => m.line == line

lemma definitionName?_eq_some_iff {line name : String} :
    definitionName? line = some name ↔ line = definitionHead name :=
  between?_eq_some_iff

lemma callName?_eq_some_iff {line name : String} :
    callName? line = some name ↔ line = callLine name :=
  between?_eq_some_iff

lemma rowText?_eq_some_iff {line text : String} :
    rowText? line = some text ↔ line = rowLine text := by
  rw [rowText?, between?_eq_some_iff, String.append_empty, rowLine]

/-! ### Characters of marked lines -/

-- A text that starts with a long literal is opened by `delta`: its equation takes too long.
@[simp] lemma toList_definitionHead (name : String) :
    (definitionHead name).toList =
      "static void test_".toList ++ name.toList ++ "(void) \x7b".toList := by
  delta definitionHead
  rw [String.toList_append, String.toList_append]

@[simp] lemma toList_callLine (name : String) :
    (callLine name).toList = "\ttest_".toList ++ name.toList ++ "();".toList := by
  rw [callLine, String.toList_append, String.toList_append]

@[simp] lemma toList_rowLine (text : String) :
    (rowLine text).toList = rowStart.toList ++ text.toList := by
  rw [rowLine, String.toList_append]

/-- No line has two marks. -/
lemma Mark.line_injective {m n : Mark} (h : m.line = n.line) : m = n := by
  -- Lines of two kinds differ within the texts they start with.
  rw [← String.toList_inj] at h
  cases m <;> cases n <;>
    simp [Mark.line, tableHead, rowStart, mainHead, loopHead] at h ⊢ <;>
    exact String.toList_inj.1 h

/-! ### Reading marks -/

lemma line_of_mark? {line : String} {m : Mark} (h : mark? line = some m) : line = m.line := by
  rw [mark?, Option.or_eq_some_iff, Option.or_eq_some_iff, Option.or_eq_some_iff] at h
  obtain h | ⟨-, h | ⟨-, h | ⟨-, h⟩⟩⟩ := h
  · obtain ⟨name, hname, rfl⟩ := Option.map_eq_some_iff.1 h
    exact definitionName?_eq_some_iff.1 hname
  · obtain ⟨name, hname, rfl⟩ := Option.map_eq_some_iff.1 h
    exact callName?_eq_some_iff.1 hname
  · obtain ⟨text, htext, rfl⟩ := Option.map_eq_some_iff.1 h
    exact rowText?_eq_some_iff.1 htext
  · have hline := List.find?_some h
    exact (beq_iff_eq.1 hline).symm

lemma mark?_line_ne_none (m : Mark) : mark? m.line ≠ none := by
  intro h
  rw [mark?, Option.or_eq_none_iff, Option.or_eq_none_iff, Option.or_eq_none_iff] at h
  obtain ⟨hdefinition, hcall, hrow, hhead⟩ := h
  cases m with
  | definition name => simp [Mark.line, definitionName?_eq_some_iff.2 rfl] at hdefinition
  | call name => simp [Mark.line, callName?_eq_some_iff.2 rfl] at hcall
  | row text => simp [Mark.line, rowText?_eq_some_iff.2 rfl] at hrow
  | table | main | loop => simp at hhead

/-- The mark of a line is read back. -/
lemma mark?_eq_some_iff {line : String} {m : Mark} : mark? line = some m ↔ line = m.line := by
  constructor
  · exact line_of_mark?
  · rintro rfl
    obtain ⟨n, hn⟩ := Option.ne_none_iff_exists'.1 (mark?_line_ne_none m)
    rw [hn, Mark.line_injective (line_of_mark? hn)]

@[simp] lemma mark?_line (m : Mark) : mark? m.line = some m :=
  mark?_eq_some_iff.2 rfl

lemma mark?_eq_none_iff {line : String} : mark? line = none ↔ ∀ m : Mark, line ≠ m.line := by
  rw [Option.eq_none_iff_forall_ne_some]
  simp only [ne_eq, mark?_eq_some_iff]

/-! ### Lines without marks -/

/-- A statement of a check stands on one line, starts with a name and ends with a semicolon, but not
like a call without arguments. -/
structure IsStatement (s : String) : Prop where
  oneLine : '\n' ∉ s.toList
  start : ∃ c rest, s.toList = c :: rest ∧ StartsName c
  semicolon : [';'] <:+ s.toList
  not_call : ¬ ['(', ')', ';'] <:+ s.toList

@[simp] lemma toList_indented (depth : Nat) (line : String) :
    (indented depth line).toList = List.replicate depth '\t' ++ line.toList := by
  rw [indented, String.toList_append, String.toList_ofList]

/-- A statement of a check has no mark. -/
lemma IsStatement.mark?_indented {s : String} (h : IsStatement s) :
    mark? (indented 1 s) = none := by
  rw [mark?_eq_none_iff]
  intro m hline
  obtain ⟨c, rest, hs, hc⟩ := h.start
  have hchars : '\t' :: s.toList = m.line.toList := by simp [← hline]
  cases m with
  | definition name => simp [Mark.line] at hchars
  | table => simp [Mark.line, tableHead] at hchars
  | main => simp [Mark.line, mainHead] at hchars
  | row text =>
    obtain rfl : c = '\x7b' := by
      simp [Mark.line, rowStart, hs] at hchars
      exact hchars.1
    exact absurd (isNameStart_iff.2 hc) (by decide)
  | call name =>
    refine h.not_call ⟨"test_".toList ++ name.toList, ?_⟩
    simp [Mark.line] at hchars
    simp [hchars]
  | loop =>
    have hend := h.semicolon
    simp [Mark.line, loopHead] at hchars
    rw [hchars] at hend
    exact absurd hend (by decide)

lemma mark?_directive (name : String) : mark? (IncludeList.directive name) = none := by
  rw [mark?_eq_none_iff]
  intro m hline
  have hchars := congrArg String.toList hline
  cases m <;>
    simp [IncludeList.directive, Mark.line, tableHead, rowStart, mainHead, loopHead] at hchars

/-! ### Statements -/

/-- A text on one line that ends a statement, but not like a call without arguments. -/
def EndsStatement (stop : List Char) : Prop :=
  '\n' ∉ stop ∧ [';'] <:+ stop ∧ ¬ ['(', ')', ';'] <:+ stop ∧ 3 ≤ stop.length

instance (stop : List Char) : Decidable (EndsStatement stop) :=
  inferInstanceAs (Decidable (_ ∧ _))

/-- A text on one line that starts with a name. -/
def StartsStatement (start : List Char) : Prop :=
  '\n' ∉ start ∧ ∃ c rest, start = c :: rest ∧ StartsName c

lemma StartsStatement.append {start : String} (h : StartsStatement start.toList) (stop : String)
    (hstop : EndsStatement stop.toList) : IsStatement (start ++ stop) := by
  obtain ⟨hline, c, rest, hchars, hc⟩ := h
  obtain ⟨hstopLine, hsemicolon, hcall, hlength⟩ := hstop
  constructor
  case oneLine => simp [hline, hstopLine]
  case start => exact ⟨c, rest ++ stop.toList, by simp [hchars], hc⟩
  case semicolon =>
    rw [String.toList_append]
    exact List.suffix_append_of_suffix hsemicolon
  case not_call =>
    intro hsuffix
    rw [String.toList_append] at hsuffix
    exact hcall (List.suffix_of_suffix_length_le hsuffix (List.suffix_append _ _) hlength)

/-- What follows the type in the declaration of an object with given arguments. -/
def declarationEnd (args : List String) : String :=
  if args.isEmpty then " test_obj;" else " test_obj(" ++ ", ".intercalate args ++ ");"

namespace ObjectCheck

variable (o : ObjectCheck)

lemma declaration_eq : o.declaration = o.typeExpr ++ declarationEnd o.args := by
  rw [← String.toList_inj]
  by_cases h : o.args.isEmpty <;>
    simp [declaration, declarationEnd, isNullary, testObject, h]

lemma printStatement_eq :
    o.printStatement = "printf(\"%16s: %p\\n\", \"" ++ o.name ++ "\", (void*)&test_obj);" := by
  delta ObjectCheck.printStatement
  simp [testObject, ← String.toList_inj]

lemma definition_eq :
    o.definition = definitionHead o.name ::
      (o.prelude.map (indented 1) ++
        [indented 1 o.declaration, indented 1 o.printStatement, "\x7d"]) := by
  have hhead : "static void " ++ o.functionName ++ "(void) \x7b" = definitionHead o.name := by
    simp [functionName, ← String.toList_inj]
  rw [definition, hhead]

lemma isStatement_printStatement (h : '\n' ∉ o.name.toList) : IsStatement o.printStatement := by
  have hstart : StartsStatement ("printf(\"%16s: %p\\n\", \"" ++ o.name).toList :=
    ⟨by simp [h], 'p', _, by simp; rfl, isNameStart_iff.1 (by decide)⟩
  have hstatement := hstart.append "\", (void*)&test_obj);" (by decide)
  rw [printStatement_eq]
  exact hstatement

/-- A check whose statements have no marks. -/
structure IsPlain : Prop where
  name : '\n' ∉ o.name.toList
  prelude : ∀ s ∈ o.prelude, IsStatement s
  declaration : IsStatement o.declaration

variable {o}

/-- The definition of a check has one mark. -/
lemma IsPlain.filterMap_definition (h : o.IsPlain) :
    o.definition.filterMap mark? = [.definition o.name] := by
  have hhead : mark? (definitionHead o.name) = some (.definition o.name) :=
    mark?_line (.definition o.name)
  have hprelude : (o.prelude.map (indented 1)).filterMap mark? = [] := by
    rw [List.filterMap_map, List.filterMap_eq_nil_iff]
    exact fun s hs => (h.prelude s hs).mark?_indented
  have hdeclaration := h.declaration.mark?_indented
  have hprint := (o.isStatement_printStatement h.name).mark?_indented
  have hbrace : mark? "\x7d" = none := by decide
  rw [definition_eq, List.filterMap_cons_some hhead, List.filterMap_append, hprelude]
  simp [hdeclaration, hprint, hbrace]

/-- A definition stands on single lines when the parts that it is made from do. -/
lemma feed_not_mem_definition (hname : '\n' ∉ o.name.toList)
    (hprelude : ∀ s ∈ o.prelude, '\n' ∉ s.toList) (hdeclaration : '\n' ∉ o.declaration.toList)
    {line : String} (hline : line ∈ o.definition) : '\n' ∉ line.toList := by
  have hprint := (o.isStatement_printStatement hname).oneLine
  simp only [definition_eq, List.mem_cons, List.mem_append, List.mem_map, List.not_mem_nil,
    or_false] at hline
  obtain rfl | ⟨s, hs, rfl⟩ | rfl | rfl | rfl := hline
  · simp [hname]
  · simpa using hprelude s hs
  · simpa using hdeclaration
  · simpa using hprint
  · decide

lemma IsPlain.feed_not_mem (h : o.IsPlain) {line : String} (hline : line ∈ o.definition) :
    '\n' ∉ line.toList :=
  feed_not_mem_definition h.name (fun s hs => (h.prelude s hs).oneLine) h.declaration.oneLine hline

end ObjectCheck

/-! ### Parts of a program -/

/-- The line of a row. -/
def TableRow.line (r : TableRow) : String := rowLine (r.name ++ "\", " ++ r.pointer ++ " \x7d,")

lemma indented_initializer (r : TableRow) : indented 1 r.initializer = r.line := by
  simp [TableRow.line, TableRow.initializer, rowStart, ← String.toList_inj]

lemma indented_call (o : ObjectCheck) : indented 1 o.call = callLine o.name := by
  simp [ObjectCheck.call, ObjectCheck.functionName, ← String.toList_inj]

namespace Program

variable (p : Program)

/-- The lines in front of the main function. -/
def frontLines : List String := p.includeLines ++ p.objectLines ++ p.tableLines ++ [""]

/-- The lines behind the head of the main function. -/
def backLines : List String :=
  p.objects.map (fun o => callLine o.name) ++ p.printLines ++ ["\treturn 0;", "\x7d"]

lemma tableLines_eq :
    p.tableLines =
      if p.table = [] then []
      else "" :: tableHead :: p.table.map TableRow.line ++ ["\x7d;"] := by
  have hhead : "static void* " ++ tableName ++ "[][2] = \x7b" = tableHead := by decide
  by_cases h : p.table = [] <;> simp [tableLines, h, hhead, indented_initializer]

lemma printLines_eq : p.printLines = if p.table = [] then [] else ["", loopHead, loopBody] := by
  by_cases h : p.table = [] <;> simp [printLines, h]
  decide

lemma lines_eq : p.lines = p.frontLines ++ mainHead :: p.backLines := by
  have hreturn : indented 1 "return 0;" = "\treturn 0;" := by decide
  simp [lines, mainLines, frontLines, backLines, mainHead, indented_call, hreturn]

/-- The parts of a program are on one line each, and the statements of its checks have no marks. -/
structure IsPlain : Prop where
  includes : ∀ name ∈ p.includes, '\n' ∉ name.toList
  objects : ∀ o ∈ p.objects, o.IsPlain
  rows : ∀ r ∈ p.table, '\n' ∉ r.name.toList ∧ '\n' ∉ r.pointer.toList

/-- The marks of the checks' definitions and of the table. -/
def frontMarks : List Mark :=
  p.objects.map (fun o => .definition o.name) ++
    if p.table = [] then []
    else .table :: p.table.map fun r => .row (r.name ++ "\", " ++ r.pointer ++ " \x7d,")

/-- The marks of the calls and of the loop. -/
def backMarks : List Mark :=
  p.objects.map (fun o => .call o.name) ++ if p.table = [] then [] else [.loop]

variable {p}

lemma IsPlain.filterMap_objectLines (h : p.IsPlain) :
    p.objectLines.filterMap mark? = p.objects.map fun o => .definition o.name := by
  have hblank : mark? "" = none := by decide
  have hobject : ∀ o ∈ p.objects, ("" :: o.definition).filterMap mark? = [.definition o.name] := by
    intro o ho
    rw [List.filterMap_cons_none hblank, (h.objects o ho).filterMap_definition]
  rw [objectLines, List.filterMap_flatMap, List.flatMap_congr hobject, ← List.map_eq_flatMap]

lemma filterMap_includeLines (p : Program) : p.includeLines.filterMap mark? = [] := by
  have hcstdio : mark? "#include <cstdio>" = none := by decide
  rw [includeLines, List.filterMap_cons_none hcstdio, List.filterMap_map, List.filterMap_eq_nil_iff]
  exact fun name _ => mark?_directive name

lemma IsPlain.filterMap_frontLines (h : p.IsPlain) :
    p.frontLines.filterMap mark? = p.frontMarks := by
  have hblank : mark? "" = none := by decide
  have hbrace : mark? "\x7d;" = none := by decide
  have htable : p.tableLines.filterMap mark? =
      if p.table = [] then []
      else .table :: p.table.map fun r => .row (r.name ++ "\", " ++ r.pointer ++ " \x7d,") := by
    have hhead : mark? tableHead = some .table := mark?_line .table
    have hrow : mark? ∘ TableRow.line =
        fun r => some (.row (r.name ++ "\", " ++ r.pointer ++ " \x7d,")) := by
      funext r
      exact mark?_line (.row _)
    rw [tableLines_eq]
    split
    · rfl
    · rw [List.filterMap_append, List.filterMap_cons_none hblank, List.filterMap_cons_some hhead,
        List.filterMap_map, hrow, List.filterMap_eq_map']
      simp [hbrace]
  rw [frontLines, List.filterMap_append, List.filterMap_append, List.filterMap_append,
    filterMap_includeLines, h.filterMap_objectLines, htable, frontMarks]
  simp [hblank]

lemma filterMap_backLines (p : Program) : p.backLines.filterMap mark? = p.backMarks := by
  have hcall : mark? ∘ (fun o : ObjectCheck => callLine o.name) = fun o => some (.call o.name) := by
    funext o
    exact mark?_line (.call _)
  have hloop : p.printLines.filterMap mark? = if p.table = [] then [] else [.loop] := by
    have hblank : mark? "" = none := by decide
    have hhead : mark? loopHead = some .loop := mark?_line .loop
    have hbody : mark? loopBody = none := by decide
    rw [printLines_eq]
    split
    · rfl
    · rw [List.filterMap_cons_none hblank, List.filterMap_cons_some hhead,
        List.filterMap_cons_none hbody, List.filterMap_nil]
  have hend : ["\treturn 0;", "\x7d"].filterMap mark? = [] := by decide
  rw [backLines, List.filterMap_append, List.filterMap_append, List.filterMap_map, hcall,
    List.filterMap_eq_map', hloop, hend, List.append_nil, backMarks]

/-- The marks of a program's text are those of its parts, in order. -/
lemma IsPlain.filterMap_lines (h : p.IsPlain) :
    p.lines.filterMap mark? = p.frontMarks ++ .main :: p.backMarks := by
  have hmain : mark? mainHead = some .main := mark?_line .main
  rw [lines_eq, List.filterMap_append, h.filterMap_frontLines, List.filterMap_cons_some hmain,
    filterMap_backLines]

end Program

end SymbolProbe

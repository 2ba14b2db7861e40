import SymbolProbe.Proofs.SourceMarks

/-!
# Lines of the program's text

A text of lines without line feeds, each ended by one, is split back into its lines
(`splitOn_flatMap_feed`). So the lines of a program's text are those it was made from, and its marks
outline the program: which checks it defines and calls, the rows of its table, and the order of its
parts (`Program.IsPlain.outlines`).
-/

namespace SymbolProbe

/-! ### Splitting -/

lemma splitOn_flatMap_feed {ls : List (List Char)} (h : ∀ l ∈ ls, '\n' ∉ l) :
    (ls.flatMap (· ++ ['\n'])).splitOn '\n' = ls ++ [[]] := by
  induction ls with
  | nil => rfl
  | cons l ls ih =>
    have hl : '\n' ∉ l := h l (by simp)
    have hls := ih fun k hk => h k (by simp [hk])
    rw [List.flatMap_cons, List.append_assoc, List.singleton_append,
      List.splitOn_append_cons_self_of_not_mem hl, hls, List.cons_append]

lemma not_mem_intercalate {c : Char} {sep : List Char} {texts : List (List Char)} (hsep : c ∉ sep)
    (h : ∀ text ∈ texts, c ∉ text) : c ∉ sep.intercalate texts := by
  induction texts with
  | nil => simp
  | cons text texts ih =>
    have htext := h text (by simp)
    have htexts := ih fun t ht => h t (by simp [ht])
    cases texts with
    | nil => simpa using htext
    | cons next texts =>
      rw [List.intercalate_cons_cons]
      simp [htext, hsep, htexts]

namespace Program

/-- The lines that line feeds part a program's text into. -/
def sourceLines (p : Program) : List String := (p.source.toList.splitOn '\n').map String.ofList

variable {p : Program}

/-- The parts of a program stand on single lines. -/
structure IsUnbroken (p : Program) : Prop where
  includes : ∀ name ∈ p.includes, '\n' ∉ name.toList
  definitions : ∀ o ∈ p.objects, ∀ line ∈ o.definition, '\n' ∉ line.toList
  rows : ∀ r ∈ p.table, '\n' ∉ r.name.toList ∧ '\n' ∉ r.pointer.toList

lemma IsPlain.isUnbroken (h : p.IsPlain) : p.IsUnbroken where
  includes := h.includes
  definitions o ho _ hline := (h.objects o ho).feed_not_mem hline
  rows := h.rows

/-- A name has no line feed when the head of its definition has none. -/
lemma IsUnbroken.feed_not_mem_name (h : p.IsUnbroken) {o : ObjectCheck} (ho : o ∈ p.objects) :
    '\n' ∉ o.name.toList := by
  have hhead : definitionHead o.name ∈ o.definition := by simp [o.definition_eq]
  intro hfeed
  exact h.definitions o ho _ hhead (by simp [hfeed])

/-- No line of an unbroken program has a line feed. -/
lemma IsUnbroken.feed_not_mem (h : p.IsUnbroken) {line : String} (hline : line ∈ p.lines) :
    '\n' ∉ line.toList := by
  rw [lines_eq, frontLines, backLines, tableLines_eq, printLines_eq] at hline
  simp only [List.mem_append, List.mem_cons, List.mem_map, List.not_mem_nil, or_false] at hline
  obtain (((hinclude | hobject) | htable) | rfl) | rfl | (⟨o, ho, rfl⟩ | hloop) | rfl | rfl := hline
  · obtain rfl | ⟨name, hname, rfl⟩ := List.mem_cons.1 hinclude |>.imp_right List.mem_map.1
    · decide
    · simp [IncludeList.directive, h.includes name hname]
  · obtain ⟨o, ho, hline⟩ := List.mem_flatMap.1 hobject
    obtain rfl | hline := List.mem_cons.1 hline
    · decide
    · exact h.definitions o ho line hline
  · split at htable
    · cases htable
    · simp only [List.mem_append, List.mem_cons, List.mem_map, List.not_mem_nil, or_false] at htable
      obtain (rfl | rfl | ⟨r, hr, rfl⟩) | rfl := htable
      · decide
      · decide
      · obtain ⟨hname, hpointer⟩ := h.rows r hr
        simp [TableRow.line, rowStart, hname, hpointer]
      · decide
  · decide
  · decide
  · simp [h.feed_not_mem_name ho]
  · split at hloop
    · cases hloop
    · simp only [List.mem_cons, List.not_mem_nil, or_false] at hloop
      obtain rfl | rfl | rfl := hloop <;> decide
  · decide
  · decide

/-- An unbroken program's text is split into the lines it was made from. Behind the last line feed
stands an empty text. -/
lemma IsUnbroken.sourceLines_eq (h : p.IsUnbroken) : p.sourceLines = p.lines ++ [""] := by
  have hsource : p.source.toList = (p.lines.map String.toList).flatMap (· ++ ['\n']) := by
    simp [source, String.toList_join, List.flatMap_map]
  have hfeeds : ∀ l ∈ p.lines.map String.toList, '\n' ∉ l := by
    intro l hl
    obtain ⟨line, hline, rfl⟩ := List.mem_map.1 hl
    exact h.feed_not_mem hline
  rw [sourceLines, hsource, splitOn_flatMap_feed hfeeds]
  simp [Function.comp_def]

lemma IsPlain.sourceLines_eq (h : p.IsPlain) : p.sourceLines = p.lines ++ [""] :=
  h.isUnbroken.sourceLines_eq

end Program

/-! ### Marks of one kind -/

namespace Mark

/-- The name of the check that is defined. -/
def defined? : Mark → Option String
  | .definition name => some name
  | _ => none

/-- The name of the check that is called. -/
def called? : Mark → Option String
  | .call name => some name
  | _ => none

/-- What follows the start of the row. -/
def rowText? : Mark → Option String
  | .row text => some text
  | _ => none

lemma defined?_eq_some_iff {m : Mark} {name : String} :
    m.defined? = some name ↔ m = .definition name := by
  cases m <;> simp [defined?]

lemma called?_eq_some_iff {m : Mark} {name : String} : m.called? = some name ↔ m = .call name := by
  cases m <;> simp [called?]

lemma rowText?_eq_some_iff {m : Mark} {text : String} : m.rowText? = some text ↔ m = .row text := by
  cases m <;> simp [rowText?]

end Mark

section Readers

variable {lines : List String}

/-- What is read from the lines with a kind of mark is read from the marks of all lines. -/
lemma filterMap_eq_filterMap_marks {read : String → Option String} {part? : Mark → Option String}
    (h : ∀ line text, read line = some text ↔ ∃ m, part? m = some text ∧ line = m.line) :
    lines.filterMap read = (lines.filterMap mark?).filterMap part? := by
  rw [List.filterMap_filterMap]
  congr 1
  funext line
  ext text
  rw [h, Option.bind_eq_some_iff]
  constructor
  · rintro ⟨m, htext, rfl⟩
    exact ⟨m, mark?_line m, htext⟩
  · rintro ⟨m, hm, htext⟩
    exact ⟨m, htext, line_of_mark? hm⟩

lemma filterMap_definitionName? :
    lines.filterMap definitionName? = (lines.filterMap mark?).filterMap Mark.defined? := by
  refine filterMap_eq_filterMap_marks fun line name => ?_
  rw [definitionName?_eq_some_iff]
  simp only [Mark.defined?_eq_some_iff, exists_eq_left, Mark.line]

lemma filterMap_callName? :
    lines.filterMap callName? = (lines.filterMap mark?).filterMap Mark.called? := by
  refine filterMap_eq_filterMap_marks fun line name => ?_
  rw [callName?_eq_some_iff]
  simp only [Mark.called?_eq_some_iff, exists_eq_left, Mark.line]

lemma filterMap_rowText? :
    lines.filterMap rowText? = (lines.filterMap mark?).filterMap Mark.rowText? := by
  refine filterMap_eq_filterMap_marks fun line text => ?_
  rw [rowText?_eq_some_iff]
  simp only [Mark.rowText?_eq_some_iff, exists_eq_left, Mark.line]

/-- Whether a line starts like a row. -/
def startsRow (line : String) : Bool := rowStart.toList.isPrefixOf line.toList

lemma startsRow_iff {line : String} :
    startsRow line = true ↔ ∃ text, rowText? line = some text := by
  simp only [rowText?_eq_some_iff]
  rw [startsRow, List.isPrefixOf_iff_prefix]
  constructor
  · rintro ⟨rest, hrest⟩
    exact ⟨String.ofList rest, by simp [← String.toList_inj, ← hrest]⟩
  · rintro ⟨text, rfl⟩
    exact ⟨text.toList, by simp⟩

lemma filter_startsRow : lines.filter startsRow = (lines.filterMap rowText?).map rowLine := by
  induction lines with
  | nil => rfl
  | cons line lines ih =>
    cases htext : rowText? line with
    | none =>
      have hstart : ¬ startsRow line = true := by simp [startsRow_iff, htext]
      rw [List.filter_cons_of_neg hstart, List.filterMap_cons_none htext, ih]
    | some text =>
      have hstart : startsRow line = true := startsRow_iff.2 ⟨text, htext⟩
      rw [List.filter_cons_of_pos hstart, List.filterMap_cons_some htext, List.map_cons, ih,
        rowText?_eq_some_iff.1 htext]

lemma count_line (m : Mark) : lines.count m.line = (lines.filterMap mark?).count m := by
  rw [List.count_filterMap, List.count]
  congr 1
  funext line
  rw [Bool.eq_iff_iff, beq_iff_eq, beq_iff_eq, mark?_eq_some_iff]

end Readers

/-! ### Outlines -/

/-- The table of some rows. -/
def tableBlock (rows : List TableRow) : List String :=
  tableHead :: rows.map TableRow.line ++ ["\x7d;"]

/-- Lines define and call the checks of some names and hold a table of some rows. The definitions
come before the table, the table before the main function, and the calls behind its head; table
and loop are there, once, when there are rows. -/
structure Outlines (lines names : List String) (rows : List TableRow) : Prop where
  definitions : lines.filterMap definitionName? = names
  calls : (lines.dropWhile (· ≠ mainHead)).tail.filterMap callName? = names
  rowLines : lines.filter startsRow = rows.map TableRow.line
  mainOnce : lines.count mainHead = 1
  tableCount : lines.count tableHead = if rows = [] then 0 else 1
  loopCount : lines.count loopHead = if rows = [] then 0 else 1
  table : rows ≠ [] → ∃ front back, lines = front ++ tableBlock rows ++ back ∧
    (∀ line ∈ tableBlock rows ++ back, definitionName? line = none) ∧ mainHead ∈ back
  loop : rows ≠ [] → [loopHead, loopBody] <:+: lines

namespace Program

variable {p : Program}

lemma IsPlain.filterMap_sourceLines (h : p.IsPlain) :
    p.sourceLines.filterMap mark? = p.frontMarks ++ .main :: p.backMarks := by
  have hend : [""].filterMap mark? = [] := by decide
  rw [h.sourceLines_eq, List.filterMap_append, h.filterMap_lines, hend, List.append_nil]

lemma filterMap_defined? (p : Program) :
    (p.frontMarks ++ .main :: p.backMarks).filterMap Mark.defined? = p.objects.map (·.name) := by
  by_cases h : p.table = [] <;>
    simp [frontMarks, backMarks, Mark.defined?, List.filterMap_map, Function.comp_def, h,
      List.filterMap_cons]

lemma filterMap_called? (p : Program) :
    p.backMarks.filterMap Mark.called? = p.objects.map (·.name) := by
  by_cases h : p.table = [] <;>
    simp [backMarks, Mark.called?, List.filterMap_map, Function.comp_def, h]

lemma filterMap_rowText? (p : Program) :
    (p.frontMarks ++ .main :: p.backMarks).filterMap Mark.rowText? =
      p.table.map fun r => r.name ++ "\", " ++ r.pointer ++ " \x7d," := by
  by_cases h : p.table = [] <;>
    simp [frontMarks, backMarks, Mark.rowText?, List.filterMap_map, Function.comp_def, h,
      List.filterMap_cons]

/-- A mark without a name or a text is counted at its own place only. -/
lemma count_marks {m : Mark} (hname : ∀ name, m ≠ .definition name ∧ m ≠ .call name)
    (hrow : ∀ text, m ≠ .row text) :
    (p.frontMarks ++ .main :: p.backMarks).count m =
      [Mark.main].count m + if p.table = [] then 0 else [Mark.table, Mark.loop].count m := by
  have hdefinitions : (p.objects.map fun o => Mark.definition o.name).count m = 0 := by
    rw [List.count_eq_zero, List.mem_map]
    rintro ⟨o, -, ho⟩
    exact (hname o.name).1 ho.symm
  have hcalls : (p.objects.map fun o => Mark.call o.name).count m = 0 := by
    rw [List.count_eq_zero, List.mem_map]
    rintro ⟨o, -, ho⟩
    exact (hname o.name).2 ho.symm
  have hrows : (p.table.map fun r => Mark.row (r.name ++ "\", " ++ r.pointer ++ " \x7d,")).count m =
      0 := by
    rw [List.count_eq_zero, List.mem_map]
    rintro ⟨r, -, hr⟩
    exact hrow _ hr.symm
  rw [frontMarks, backMarks, List.count_append, List.count_append, List.count_cons,
    List.count_append, hdefinitions, hcalls, List.count_singleton]
  split
  · simp
  · rw [List.count_cons, hrows, List.count_singleton, List.count_cons, List.count_singleton]
    omega

/-- No line in front of the main function looks like its head. -/
lemma IsPlain.ne_mainHead (h : p.IsPlain) : ∀ line ∈ p.frontLines, line ≠ mainHead := by
  rintro _ hline rfl
  have hmain : Mark.main ∈ p.frontLines.filterMap mark? :=
    List.mem_filterMap.2 ⟨_, hline, mark?_line .main⟩
  rw [h.filterMap_frontLines, frontMarks] at hmain
  by_cases htable : p.table = [] <;> simp [htable] at hmain

lemma IsPlain.sourceLines_eq_append (h : p.IsPlain) :
    p.sourceLines = p.frontLines ++ mainHead :: (p.backLines ++ [""]) := by
  rw [h.sourceLines_eq, lines_eq, List.append_assoc, List.cons_append]

/-- The text of a plain program outlines its parts. -/
theorem IsPlain.outlines (h : p.IsPlain) :
    Outlines p.sourceLines (p.objects.map (·.name)) p.table := by
  have hmarks := h.filterMap_sourceLines
  have hlines := h.sourceLines_eq_append
  have hdefinitions : p.sourceLines.filterMap definitionName? = p.objects.map (·.name) := by
    rw [filterMap_definitionName?, hmarks, filterMap_defined?]
  constructor
  case definitions => exact hdefinitions
  case calls =>
    have hfront := h.ne_mainHead
    have hend : [""].filterMap mark? = [] := by decide
    rw [hlines, List.dropWhile_append_of_pos (by simpa using hfront),
      List.dropWhile_cons_of_neg (by simp), List.tail_cons, filterMap_callName?,
      List.filterMap_append, hend, List.append_nil, filterMap_backLines, filterMap_called?]
  case rowLines =>
    rw [filter_startsRow, SymbolProbe.filterMap_rowText?, hmarks, filterMap_rowText?, List.map_map]
    rfl
  case mainOnce =>
    rw [show mainHead = Mark.main.line from rfl, count_line, hmarks,
      count_marks (by simp) (by simp)]
    simp
  case tableCount =>
    rw [show tableHead = Mark.table.line from rfl, count_line, hmarks,
      count_marks (by simp) (by simp)]
    simp
  case loopCount =>
    rw [show loopHead = Mark.loop.line from rfl, count_line, hmarks,
      count_marks (by simp) (by simp)]
    simp
  case table =>
    intro hrows
    have hsplit : p.sourceLines = (p.includeLines ++ p.objectLines ++ [""]) ++
        (tableBlock p.table ++ "" :: mainHead :: (p.backLines ++ [""])) := by
      rw [hlines, frontLines, tableLines_eq, if_neg hrows]
      simp [tableBlock]
    refine ⟨_, _, hsplit.trans (List.append_assoc _ _ _).symm, ?_, by simp⟩
    -- The lines in front of the table already define all checks.
    have hblank : [""].filterMap mark? = [] := by decide
    have hfront : (p.includeLines ++ p.objectLines ++ [""]).filterMap definitionName? =
        p.objects.map (·.name) := by
      have hmarks : (p.includeLines ++ p.objectLines ++ [""]).filterMap mark? =
          p.objects.map fun o => .definition o.name := by
        rw [List.filterMap_append, List.filterMap_append, filterMap_includeLines,
          h.filterMap_objectLines, hblank, List.nil_append, List.append_nil]
      rw [filterMap_definitionName?, hmarks]
      simp [List.filterMap_map, Function.comp_def, Mark.defined?]
    rw [hsplit, List.filterMap_append, hfront, List.append_right_eq_self] at hdefinitions
    exact List.filterMap_eq_nil_iff.1 hdefinitions
  case loop =>
    intro hrows
    refine ⟨p.frontLines ++ mainHead :: p.objects.map (fun o => callLine o.name) ++ [""],
      ["\treturn 0;", "\x7d", ""], ?_⟩
    rw [hlines, backLines, printLines_eq, if_neg hrows]
    simp

end Program

end SymbolProbe

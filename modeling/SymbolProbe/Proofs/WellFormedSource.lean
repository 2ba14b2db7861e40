import SymbolProbe.Proofs.BuiltinSource
import SymbolProbe.Proofs.SoundRules

/-!
# The well-formed source

No listing breaks the text that is made from it under the built-in rules. All that a listing brings
in are names, which are type texts, so that every line can be read by itself: its literals are
closed, and what it opens is closed by a later line (`ReadsLines`). The statements of each check
declare what they pass (`ObjectCheck.IsSound`), and the checks are defined before the main function
calls them (`Generator.source_isWellFormed`).
-/

namespace SymbolProbe

/-- The bodies of the functions that check symbols: the lines behind the heads of their definitions,
up to the closing brace. -/
def bodies : List String → List (List String)
  | [] => []
  | line :: lines =>
    match definitionName? line with
    | some _ => lines.takeWhile (· ≠ "\x7d") :: bodies lines
    | none => bodies lines

/-- The lines of a program that hangs together: every literal is closed on its line, the brackets
outside of literals and include directives match, the statements of every check pass only names that
are declared before, once, and every check that the main function calls is defined before it. -/
structure IsWellFormed (lines : List String) : Prop where
  literals : ∀ line ∈ lines, (codeOf? line.toList).isSome
  brackets : openAfter? [] (codeText lines) = some []
  bodies : ∀ body ∈ bodies lines, IsWellScoped (body.map lineCode)
  calls : ∀ name ∈ (lines.dropWhile (· ≠ mainHead)).filterMap callName?,
    definitionHead name ∈ lines.takeWhile (· ≠ mainHead)

/-! ### Programs -/

namespace Program

/-- A program whose parts are all read by themselves. -/
structure IsSound (p : Program) : Prop where
  includes : ∀ name ∈ p.includes, '"' ∉ name.toList ∧ '\\' ∉ name.toList
  objects : ∀ o ∈ p.objects, o.IsSound
  rows : ∀ r ∈ p.table, IsName r.name.toList ∧ Reads r.pointer.toList [] []

variable {p : Program}

lemma readsLine_directive {name : String} (hquote : '"' ∉ name.toList)
    (hescape : '\\' ∉ name.toList) : ReadsLine (IncludeList.directive name) [] [] := by
  have hstart : codeOf? "#include ".toList = some "#include ".toList := by decide
  have hcode := codeOf?_append hstart (codeOf?_literal hquote hescape)
  have hline : (IncludeList.directive name).toList =
      "#include ".toList ++ ('"' :: (name.toList ++ ['"'])) := by
    simp [IncludeList.directive]
  refine .directive ?_ ?_
  · rw [isDirective, hline]
    simp
  · rw [hline, hcode]
    rfl

/-- The lines of a sound program are read one after the other, and leave nothing open. -/
lemma IsSound.readsLines (h : p.IsSound) : ReadsLines p.lines [] [] := by
  have hblank : ∀ due, ReadsLine "" due due := fun due =>
    ((by decide : Reads "".toList [] []).closed due).line (by decide)
  have hincludes : ReadsLines p.includeLines [] [] := by
    refine .cons (.directive (by decide) (by decide)) (.map fun name hname => ?_)
    exact readsLine_directive (h.includes name hname).1 (h.includes name hname).2
  have hobjects : ReadsLines p.objectLines [] [] := .flatMap fun o ho => (h.objects o ho).readsLines
  have htable : ReadsLines p.tableLines [] [] := by
    have hhead : ReadsLine tableHead [] ['\x7d'] := Reads.line (by decide) (by decide)
    have hclose : ReadsLine "\x7d;" ['\x7d'] [] := Reads.line (by decide) (by decide)
    have hrows : ReadsLines (p.table.map TableRow.line) ['\x7d'] ['\x7d'] :=
      .map fun r hr => RuleSet.readsLine_row (h.rows r hr).1 (h.rows r hr).2 _
    rw [tableLines_eq]
    split
    · exact .nil
    · exact (ReadsLines.cons (hblank []) (.cons hhead hrows)).append (.singleton hclose)
  have hcalls : ReadsLines (p.objects.map fun o => callLine o.name) ['\x7d'] ['\x7d'] := by
    refine .map fun o ho => ?_
    have hstart : Reads "\ttest_".toList ['\x7d'] ['\x7d'] := by decide
    have hend : Reads "();".toList ['\x7d'] ['\x7d'] := by decide
    have hline : Reads (callLine o.name).toList ['\x7d'] ['\x7d'] := by
      rw [toList_callLine]
      exact (hstart.append ((h.objects o ho).name.isTypeText.reads _)).append hend
    exact hline.line (by simp)
  have hprint : ReadsLines p.printLines ['\x7d'] ['\x7d'] := by
    have hhead : ReadsLine loopHead ['\x7d'] ['\x7d'] := Reads.line (by decide) (by decide)
    have hbody : ReadsLine loopBody ['\x7d'] ['\x7d'] := Reads.line (by decide) (by decide)
    rw [printLines_eq]
    split
    · exact .nil
    · exact .cons (hblank _) (.cons hhead (.singleton hbody))
  have hmain : ReadsLine mainHead [] ['\x7d'] := Reads.line (by decide) (by decide)
  have hreturn : ReadsLine "\treturn 0;" ['\x7d'] ['\x7d'] := Reads.line (by decide) (by decide)
  have hclose : ReadsLine "\x7d" ['\x7d'] [] := Reads.line (by decide) (by decide)
  rw [lines_eq, frontLines, backLines]
  exact (((hincludes.append hobjects).append htable).append (.singleton (hblank []))).append
    (.cons hmain ((hcalls.append hprint).append (.cons hreturn (.singleton hclose))))

end Program

/-! ### Bodies -/

/-- An indented line does not start a definition. -/
lemma definitionName?_indented (s : String) : definitionName? (indented 1 s) = none := by
  rw [Option.eq_none_iff_forall_ne_some]
  intro name hname
  have hline := congrArg String.toList (definitionName?_eq_some_iff.1 hname)
  simp at hline

/-- Lines that start no definition have no bodies. -/
lemma bodies_append {front : List String} (h : ∀ line ∈ front, definitionName? line = none)
    (back : List String) : bodies (front ++ back) = bodies back := by
  induction front with
  | nil => rfl
  | cons line front ih =>
    have hrest := ih fun k hk => h k (by simp [hk])
    rw [List.cons_append, bodies, h line (by simp)]
    exact hrest

namespace ObjectCheck

lemma exists_indented_of_mem_body {o : ObjectCheck} {line : String} (h : line ∈ o.body) :
    ∃ s, line = indented 1 s := by
  simp only [body, List.mem_append, List.mem_map, List.mem_cons, List.not_mem_nil, or_false] at h
  obtain ⟨s, -, rfl⟩ | rfl | rfl := h
  · exact ⟨s, rfl⟩
  · exact ⟨_, rfl⟩
  · exact ⟨_, rfl⟩

/-- The body of a definition ends at its closing brace. -/
lemma bodies_definition_append (o : ObjectCheck) (back : List String) :
    bodies (o.definition ++ back) = o.body :: bodies back := by
  have hhead : definitionName? (definitionHead o.name) = some o.name :=
    definitionName?_eq_some_iff.2 rfl
  have hbody : ∀ line ∈ o.body, definitionName? line = none ∧ decide (line ≠ "\x7d") = true := by
    intro line hline
    obtain ⟨s, rfl⟩ := exists_indented_of_mem_body hline
    refine ⟨definitionName?_indented s, ?_⟩
    rw [decide_eq_true_iff, ne_eq, ← String.toList_inj]
    simp
  have hclose : definitionName? "\x7d" = none := by decide
  have hrest : bodies (o.body ++ "\x7d" :: back) = bodies back := by
    rw [bodies_append fun line hline => (hbody line hline).1, bodies, hclose]
  have htake : (o.body ++ "\x7d" :: back).takeWhile (· ≠ "\x7d") = o.body := by
    rw [List.takeWhile_append_of_pos fun line hline => (hbody line hline).2,
      List.takeWhile_cons_of_neg (by decide), List.append_nil]
  have hsplit : o.definition ++ back = definitionHead o.name :: (o.body ++ "\x7d" :: back) := by
    simp [definition_eq_body]
  rw [hsplit, bodies, hhead]
  exact congrArg₂ List.cons htake hrest

end ObjectCheck

namespace Program

variable {p : Program}

lemma bodies_objectLines_append (p : Program) (back : List String) :
    bodies (p.objectLines ++ back) = p.objects.map ObjectCheck.body ++ bodies back := by
  have hblank : definitionName? "" = none := by decide
  rw [objectLines]
  induction p.objects with
  | nil => rfl
  | cons o os ih =>
    rw [List.flatMap_cons, List.append_assoc, List.cons_append, bodies, hblank]
    show bodies (o.definition ++ _) = _
    rw [o.bodies_definition_append, ih]
    rfl

/-- Behind the include directives and the definitions no line starts a definition. -/
lemma IsPlain.definitionName?_eq_none (h : p.IsPlain) :
    (∀ line ∈ p.includeLines, definitionName? line = none) ∧
      ∀ line ∈ p.tableLines ++ "" :: mainHead :: (p.backLines ++ [""]),
        definitionName? line = none := by
  have hincludes : p.includeLines.filterMap definitionName? = [] := by
    rw [filterMap_definitionName?, filterMap_includeLines, List.filterMap_nil]
  have hobjects : p.objectLines.filterMap definitionName? = p.objects.map (·.name) := by
    rw [filterMap_definitionName?, h.filterMap_objectLines]
    simp [List.filterMap_map, Function.comp_def, Mark.defined?]
  have hall := h.outlines.definitions
  have hsplit : p.sourceLines = p.includeLines ++ (p.objectLines ++
      (p.tableLines ++ "" :: mainHead :: (p.backLines ++ [""]))) := by
    simp [h.sourceLines_eq_append, frontLines]
  rw [hsplit, List.filterMap_append, hincludes, List.nil_append, List.filterMap_append, hobjects,
    List.append_right_eq_self] at hall
  exact ⟨List.filterMap_eq_nil_iff.1 hincludes, List.filterMap_eq_nil_iff.1 hall⟩

/-- The bodies in a program's text are those of its checks. -/
lemma IsPlain.bodies_sourceLines (h : p.IsPlain) :
    bodies p.sourceLines = p.objects.map ObjectCheck.body := by
  obtain ⟨hincludes, hrest⟩ := h.definitionName?_eq_none
  have hsplit : p.sourceLines = p.includeLines ++ (p.objectLines ++
      (p.tableLines ++ "" :: mainHead :: (p.backLines ++ [""]))) := by
    simp [h.sourceLines_eq_append, frontLines]
  have hnone := bodies_append hrest []
  rw [List.append_nil] at hnone
  rw [hsplit, bodies_append hincludes, bodies_objectLines_append, hnone, bodies, List.append_nil]

/-! ### Whole texts -/

/-- The check that is called is defined in front of the main function. -/
lemma IsPlain.definitionHead_mem (h : p.IsPlain) {name : String}
    (hname : name ∈ (p.sourceLines.dropWhile (· ≠ mainHead)).filterMap callName?) :
    definitionHead name ∈ p.sourceLines.takeWhile (· ≠ mainHead) := by
  have hfront : ∀ line ∈ p.frontLines, decide (line ≠ mainHead) = true := fun line hline => by
    simpa using h.ne_mainHead line hline
  have hdrop : p.sourceLines.dropWhile (· ≠ mainHead) = mainHead :: (p.backLines ++ [""]) := by
    rw [h.sourceLines_eq_append, List.dropWhile_append_of_pos hfront,
      List.dropWhile_cons_of_neg (by simp)]
  have htake : p.sourceLines.takeWhile (· ≠ mainHead) = p.frontLines := by
    rw [h.sourceLines_eq_append, List.takeWhile_append_of_pos hfront,
      List.takeWhile_cons_of_neg (by simp), List.append_nil]
  have hcalls := h.outlines.calls
  have hmain : callName? mainHead = none := by decide
  rw [hdrop, List.tail_cons] at hcalls
  rw [hdrop, List.filterMap_cons_none hmain, hcalls] at hname
  obtain ⟨o, ho, rfl⟩ := List.mem_map.1 hname
  have hobject : definitionHead o.name ∈ p.objectLines :=
    List.mem_flatMap.2 ⟨o, ho, by simp [ObjectCheck.definition_eq]⟩
  rw [htake, frontLines]
  simp [hobject]

/-- The text of a plain and sound program is well-formed. -/
lemma IsSound.isWellFormed (h : p.IsSound) (hplain : p.IsPlain) : IsWellFormed p.sourceLines := by
  have hend : ReadsLine "" [] [] := Reads.line (by decide) (by decide)
  have hlines : ReadsLines p.sourceLines [] [] := by
    rw [hplain.sourceLines_eq]
    exact h.readsLines.append (.singleton hend)
  constructor
  case literals => exact hlines.isSome_codeOf?
  case brackets => exact hlines.openAfter?_codeText
  case bodies =>
    intro body hbody
    rw [hplain.bodies_sourceLines] at hbody
    obtain ⟨o, ho, rfl⟩ := List.mem_map.1 hbody
    exact (h.objects o ho).wellScoped
  case calls => exact fun name hname => hplain.definitionHead_mem hname

end Program

/-! ### The built-in rules -/

lemma IsScope.isTypeText {scope : List Char} (h : IsScope scope) : IsTypeText scope := by
  have hcolons : IsTypeText [':', ':'] := by decide
  induction h with
  | name h => exact h.isTypeText
  | nested h _ ih => exact (h.isTypeText.append hcolons).append ih

namespace Generator

/-- The program of the built-in rules is sound. -/
lemma isSound_program {c : Config} (hscope : IsTypeText c.scope.toList)
    (hheaders : ∀ path ∈ c.headers, '"' ∉ path.toList ∧ '\\' ∉ path.toList) (l : Listing) :
    ((ofConfig c).program l).IsSound := by
  have hqualified : ∀ s ∈ (ofConfig c).symbols l,
      IsTypeText ((ofConfig c).rules.qualified s.name).toList := fun s hs =>
    RuleSet.isTypeText_qualify hscope (isName_of_mem_symbols hs).isTypeText
  rw [program_eq]
  constructor
  case includes =>
    exact fun name hname =>
      ⟨not_mem_includes (fun path hpath => (hheaders path hpath).1) hname,
        not_mem_includes (fun path hpath => (hheaders path hpath).2) hname⟩
  case objects =>
    intro o ho
    obtain ⟨s, hs, ho⟩ := List.mem_filterMap.1 ho
    exact RuleSet.isSound_of_objectCheck? hscope (isName_of_mem_symbols hs) ho
  case rows =>
    intro r hr
    obtain hr | hr := List.mem_append.1 hr
    · obtain ⟨⟨kind, name⟩, hs, hr⟩ := List.mem_flatMap.1 hr
      cases kind with
      | freeFunction =>
        obtain ⟨p, hp, rfl⟩ := List.mem_map.1 hr
        have hrule := (RuleSet.readsPointers_builtin hscope).functionRule
          RuleSet.readsPointers_address name
        exact ⟨isName_of_mem_symbols hs, hrule _ (hqualified _ hs) p hp⟩
      | objectClass | classTemplate | globalSingleton => cases hr
    · obtain ⟨⟨kind, name⟩, hs, hr⟩ := List.mem_flatMap.1 hr
      cases kind with
      | globalSingleton =>
        obtain rfl := List.mem_singleton.1 hr
        have hcast : Reads "(void*)&".toList [] [] := by decide
        refine ⟨isName_of_mem_symbols hs, ?_⟩
        rw [RuleSet.singletonRow, String.toList_append]
        exact hcast.append ((hqualified _ hs).reads [])
      | objectClass | classTemplate | freeFunction => cases hr

/-- No listing breaks the program that is made from it: under the built-in rules of a namespace
`name(::name)*`, and with header paths without line feeds, quotes and backslashes, the source is
well-formed whatever the lines of the listing are. -/
theorem source_isWellFormed {c : Config} (hscope : IsScope c.scope.toList)
    (hheaders : ∀ path ∈ c.headers,
      '\n' ∉ path.toList ∧ '"' ∉ path.toList ∧ '\\' ∉ path.toList) (l : Listing) :
    IsWellFormed ((ofConfig c).program l).sourceLines := by
  have hplain := isPlain_program hscope (fun path hpath => (hheaders path hpath).1) l
  have hsound := isSound_program hscope.isTypeText (fun path hpath => (hheaders path hpath).2) l
  exact hsound.isWellFormed hplain

/-- Lines with quotes, braces and line feeds around the names give two checks, of a lock guard and
of an element with key and value. -/
theorem source_of_hostile_lines :
    let c : Config := { scope := "a::b", headers := ["x/y.h"] }
    let l : Listing := ⟨["  a::b::CLockGuard: \"\x7d\n", " a::b::THashElement;(", "\"\x7b",
      " a::b::set_union;\\", "\n a::b::CNone;"], none⟩
    let lines := ((ofConfig c).program l).sourceLines
    IsWellFormed lines ∧ (bodies lines).length = 2 := by
  intro c l lines
  have hchars : c.scope.toList = "a".toList ++ [':', ':'] ++ "b".toList := by decide
  have hscope : IsScope c.scope.toList := hchars ▸ .nested (by decide) (.name (by decide))
  have hplain := isPlain_program hscope (by decide : ∀ path ∈ c.headers, '\n' ∉ path.toList) l
  refine ⟨source_isWellFormed hscope (by decide) l, ?_⟩
  rw [hplain.bodies_sourceLines, List.length_map]
  decide

end Generator

end SymbolProbe

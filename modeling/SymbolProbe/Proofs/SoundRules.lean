import SymbolProbe.Proofs.CodeText
import SymbolProbe.Proofs.Merging
import SymbolProbe.Synthesis

/-!
# Sound parts of a program

A check is sound if its statements are read one by one and declare what they pass
(`ObjectCheck.IsSound`). The names that a listing brings in are type texts, so a rule alone decides
whether the checks it gives are sound (`LeavesSound.isSound`) and whether the addresses it gives are
read by themselves (`RuleSet.ReadsPointers`). The built-in rules are of that kind.
-/

namespace SymbolProbe

/-! ### Checks -/

namespace ObjectCheck

/-- The statements of a check's function. -/
def body (o : ObjectCheck) : List String :=
  o.prelude.map (indented 1) ++ [indented 1 o.declaration, indented 1 o.printStatement]

/-- A check whose statements are read one by one and declare what they pass. -/
structure IsSound (o : ObjectCheck) : Prop where
  name : IsName o.name.toList
  prelude : ∀ s ∈ o.prelude, Reads s.toList [] []
  declaration : Reads o.declaration.toList [] []
  wellScoped : IsWellScoped (o.body.map lineCode)

variable {o : ObjectCheck}

lemma definition_eq_body :
    o.definition = definitionHead o.name :: (o.body ++ ["\x7d"]) := by
  simp [definition_eq, body]

/-- The code of the statement that prints a check does not depend on the name of the check. -/
lemma codeOf?_printStatement (h : IsName o.name.toList) :
    codeOf? o.printStatement.toList = some "printf(, , (void*)&test_obj);".toList := by
  have hfront : codeOf? "printf(\"%16s: %p\\n\", ".toList = some "printf(, ".toList := by decide
  have hname : codeOf? ('"' :: (o.name.toList ++ ['"'])) = some [] :=
    codeOf?_literal (h.isTypeText.not_mem (by decide)) (h.isTypeText.not_mem (by decide))
  have hback : codeOf? ", (void*)&test_obj);".toList = some ", (void*)&test_obj);".toList := by
    decide
  have hcode := codeOf?_append (codeOf?_append hfront hname) hback
  have hsplit : o.printStatement.toList = "printf(\"%16s: %p\\n\", ".toList ++
      ('"' :: (o.name.toList ++ ['"'])) ++ ", (void*)&test_obj);".toList := by
    rw [printStatement_eq]
    simp
  rw [hsplit, hcode]
  decide

lemma reads_printStatement (h : IsName o.name.toList) : Reads o.printStatement.toList [] [] := by
  rw [Reads, codeOf?_printStatement h]
  decide

/-- The definition of a sound check opens and closes the braces of its body. -/
lemma IsSound.readsLines (h : o.IsSound) : ReadsLines ("" :: o.definition) [] [] := by
  have hhead : Reads (definitionHead o.name).toList [] ['\x7d'] := by
    have hstart : Reads "static void test_".toList [] [] := by decide
    have hend : Reads "(void) \x7b".toList [] ['\x7d'] := by decide
    rw [toList_definitionHead]
    exact (hstart.append (h.name.isTypeText.reads [])).append hend
  have hprelude : ReadsLines (o.prelude.map (indented 1)) ['\x7d'] ['\x7d'] :=
    .map fun s hs => (h.prelude s hs).indented _
  have hbody : ReadsLines o.body ['\x7d'] ['\x7d'] :=
    hprelude.append (.cons (h.declaration.indented _)
      (.singleton ((reads_printStatement h.name).indented _)))
  have hblank : ReadsLine "" [] [] := Reads.line (by decide) (by decide)
  have hclose : ReadsLine "\x7d" ['\x7d'] [] := Reads.line (by decide) (by decide)
  rw [definition_eq_body]
  exact .cons hblank (.cons (hhead.line (by simp)) (hbody.append (.singleton hclose)))

end ObjectCheck

/-! ### Statements and arguments of rules -/

/-- The code of statements, as they stand in a body. -/
def statementCodes (prelude : List String) : List (List Char) :=
  prelude.map fun s => lineCode (indented 1 s)

/-- The statements and arguments of a rule leave a check sound: the statements are read one by one
and declare what they pass, and behind the name of the object stands a call that passes declared
names only. -/
structure LeavesSound (prelude args : List String) : Prop where
  statements : ∀ s ∈ prelude, Reads s.toList [] []
  wellScoped : IsWellScoped (statementCodes prelude)
  fresh : "test_obj".toList ∉ (statementCodes prelude).filterMap declared?
  arguments : Reads (declarationEnd args).toList [] []
  call : ∃ c rest, c ∈ ['(', '=', ';'] ∧
    codeOf? (declarationEnd args).toList = some (' ' :: ("test_obj".toList ++ c :: rest)) ∧
    ∀ name ∈ namesIn ((c :: rest).dropWhile (· ≠ '(')),
      name ∈ (statementCodes prelude).filterMap declared?

lemma lineCode_indented {s : String} {code : List Char} (h : codeOf? s.toList = some code) :
    lineCode (indented 1 s) = '\t' :: code := by
  have htab : codeOf? ['\t'] = some ['\t'] := by decide
  rw [lineCode, toList_indented]
  exact congrArg (·.getD []) (codeOf?_append htab h)

lemma LeavesSound.isSound {o : ObjectCheck} (h : LeavesSound o.prelude o.args)
    (hname : IsName o.name.toList) (htype : IsTypeText o.typeExpr.toList)
    (hne : o.typeExpr.toList ≠ []) : o.IsSound := by
  obtain ⟨c, rest, hc, hend, hpassed⟩ := h.call
  have hobject : IsName "test_obj".toList := by decide
  have htypeCode : codeOf? o.typeExpr.toList = some o.typeExpr.toList :=
    codeOf?_of_not_mem (htype.not_mem (by decide))
  constructor
  case name => exact hname
  case prelude => exact h.statements
  case declaration =>
    rw [ObjectCheck.declaration_eq, String.toList_append]
    exact (htype.reads []).append h.arguments
  case wellScoped =>
    have hcode : codeOf? o.declaration.toList =
        some (o.typeExpr.toList ++ ' ' :: ("test_obj".toList ++ c :: rest)) := by
      rw [ObjectCheck.declaration_eq, String.toList_append]
      exact codeOf?_append htypeCode hend
    have hbody : o.body.map lineCode = statementCodes o.prelude ++
        ['\t' :: (o.typeExpr.toList ++ ' ' :: ("test_obj".toList ++ c :: rest))] ++
        ['\t' :: "printf(, , (void*)&test_obj);".toList] := by
      rw [ObjectCheck.body, List.map_append, List.map_map, List.map_cons, List.map_cons,
        lineCode_indented hcode, lineCode_indented (ObjectCheck.codeOf?_printStatement hname),
        List.append_assoc]
      rfl
    have hdeclaresNone : declared? ('\t' :: "printf(, , (void*)&test_obj);".toList) = none := by
      decide
    have hpassesNone : passed ('\t' :: "printf(, , (void*)&test_obj);".toList) = [] := by decide
    -- The declaration comes behind the statements, and the one that prints declares nothing.
    rw [hbody]
    refine (h.wellScoped.concat ?_ ?_).concat ?_ ?_
    · rw [passed_typed htype hne hobject hc]
      exact hpassed
    · rw [declared?_typed htype hne hobject hc]
      simpa using h.fresh
    · rw [hpassesNone]
      simp
    · rw [hdeclaresNone]
      simp

/-- Arguments without statements in front pass no names. -/
lemma leavesSound_nil {args : List String} (c : Char) (rest : List Char)
    (hread : Reads (declarationEnd args).toList [] []) (hc : c ∈ ['(', '=', ';'])
    (hcode : codeOf? (declarationEnd args).toList =
      some (' ' :: ("test_obj".toList ++ c :: rest)))
    (hnames : namesIn ((c :: rest).dropWhile (· ≠ '(')) = []) : LeavesSound [] args where
  statements := by simp
  wellScoped := .nil
  fresh := by simp [statementCodes]
  arguments := hread
  call := by
    refine ⟨c, rest, hc, hcode, ?_⟩
    rw [hnames]
    simp

/-! ### Built-in rules -/

namespace RuleSet

variable {scope : String}

lemma isTypeText_qualify (h : IsTypeText scope.toList) {name : String}
    (hname : IsTypeText name.toList) : IsTypeText (qualify scope name).toList := by
  have hcolons : IsTypeText "::".toList := by decide
  simpa [qualify] using h.append (hcolons.append hname)

/-- The statement in front of a lock guard declares the lock that is passed to it. -/
lemma leavesSound_lockGuard (h : IsTypeText scope.toList) :
    LeavesSound [qualify scope "CLockable" ++ " lock_me;"] ["&lock_me"] := by
  have hname : IsName "lock_me".toList := by decide
  have htype : IsTypeText (qualify scope "CLockable").toList := isTypeText_qualify h (by decide)
  have hne : (qualify scope "CLockable").toList ≠ [] := by simp [qualify]
  have hend : Reads " lock_me;".toList [] [] := by decide
  have hcode : codeOf? (qualify scope "CLockable" ++ " lock_me;").toList =
      some ((qualify scope "CLockable").toList ++ ' ' :: ("lock_me".toList ++ [';'])) := by
    rw [String.toList_append]
    exact codeOf?_append (codeOf?_of_not_mem (htype.not_mem (by decide))) (by decide)
  obtain ⟨code, hdeclared, hpassed, hcodes⟩ : ∃ code, declared? code = some "lock_me".toList ∧
      passed code = [] ∧ statementCodes [qualify scope "CLockable" ++ " lock_me;"] = [code] := by
    have hsemicolon : ';' ∈ ['(', '=', ';'] := by decide
    have hnone : namesIn ([';'].dropWhile (· ≠ '(')) = [] := by decide
    refine ⟨_, declared?_typed htype hne hname hsemicolon,
      (passed_typed htype hne hname hsemicolon).trans hnone, ?_⟩
    rw [statementCodes, List.map_singleton, lineCode_indented hcode]
  constructor
  case statements =>
    rw [List.forall_mem_singleton, String.toList_append]
    exact (htype.reads []).append hend
  case wellScoped =>
    rw [hcodes]
    exact IsWellScoped.nil.concat (by simp [hpassed]) (by simp)
  case fresh =>
    rw [hcodes, List.filterMap_cons_some hdeclared]
    decide
  case arguments => decide
  case call =>
    refine ⟨'(', "&lock_me);".toList, by decide, by decide, ?_⟩
    rw [hcodes, List.filterMap_cons_some hdeclared]
    decide

/-- The built-in rule of a class leaves its check sound. -/
lemma leavesSound_classRule (h : IsTypeText scope.toList) (name : String) :
    let rule := ((builtin scope).classRule? name).getD {}
    LeavesSound rule.prelude rule.args := by
  cases hrule : (builtin scope).classRule? name with
  | none => exact leavesSound_nil ';' [] (by decide) (by decide) (by decide) (by decide)
  | some rule =>
    have hmem := Table.mem_of_find?_ofList hrule
    simp only [List.mem_cons, Prod.mk.injEq, List.not_mem_nil, or_false] at hmem
    obtain ⟨-, rfl⟩ | ⟨-, rfl⟩ | ⟨-, rfl⟩ := hmem
    · exact leavesSound_nil '(' ", , , , );".toList (by decide) (by decide) (by decide) (by decide)
    · exact leavesSound_lockGuard h
    · exact leavesSound_nil '(' "2);".toList (by decide) (by decide) (by decide) (by decide)

/-- The rule of a class template without one of its own leaves its check sound. -/
lemma leavesSound_templateRule (scope name : String) :
    let rule := (builtin scope).templateRule name
    LeavesSound rule.prelude rule.args ∧ IsTypeText (",".intercalate rule.params).toList := by
  have hrule : (builtin scope).templateRule name = TemplateDefaults.rule {} name := rfl
  have hempty : LeavesSound [] [] :=
    leavesSound_nil ';' [] (by decide) (by decide) (by decide) (by decide)
  have hdata : IsWellScoped (statementCodes [TemplateDefaults.dataStatement {}]) :=
    IsWellScoped.nil.concat (by decide) (by decide)
  have hkey : IsWellScoped
      (statementCodes [TemplateDefaults.dataStatement {}, TemplateDefaults.keyStatement {}]) :=
    hdata.concat (by decide) (by decide)
  rw [hrule, TemplateDefaults.rule]
  cases TemplateDefaults.isAssociative {} name <;> cases TemplateDefaults.isElement {} name
  · exact ⟨hempty, by decide⟩
  · exact ⟨⟨by decide, hdata, by decide, by decide, '(', "data);".toList, by decide, by decide,
      by decide⟩, by decide⟩
  · exact ⟨hempty, by decide⟩
  · exact ⟨⟨by decide, hkey, by decide, by decide, '(', "key, data);".toList, by decide, by decide,
      by decide⟩, by decide⟩

/-- The check of a listed symbol is sound under the built-in rules. -/
lemma isSound_of_objectCheck? (h : IsTypeText scope.toList) {s : Symbol}
    (hname : IsName s.name.toList) {o : ObjectCheck}
    (ho : (builtin scope).objectCheck? s = some o) : o.IsSound := by
  obtain ⟨kind, name⟩ := s
  have htype : IsTypeText (qualify scope name).toList := isTypeText_qualify h hname.isTypeText
  have hne : (qualify scope name).toList ≠ [] := by simp [qualify]
  cases kind with
  | objectClass =>
    obtain rfl : (builtin scope).classCheck name = o := Option.some.inj ho
    exact (leavesSound_classRule h name).isSound hname htype hne
  | classTemplate =>
    obtain rfl : (builtin scope).templateCheck name = o := Option.some.inj ho
    obtain ⟨hrule, hparams⟩ := leavesSound_templateRule scope name
    have hopen : IsTypeText "<".toList := by decide
    have hclose : IsTypeText ">".toList := by decide
    have hexpr : ((builtin scope).templateCheck name).typeExpr.toList =
        (qualify scope name).toList ++ "<".toList ++
          (",".intercalate ((builtin scope).templateRule name).params).toList ++ ">".toList := by
      simp [templateCheck, qualified, builtin]
    have htemplate := ((htype.append hopen).append hparams).append hclose
    rw [← hexpr] at htemplate
    exact hrule.isSound hname htemplate (by simp [hexpr])
  | freeFunction | globalSingleton => cases ho

/-! ### Addresses -/

lemma reads_intercalate {texts : List (List Char)} (h : ∀ t ∈ texts, Reads t [] []) :
    Reads ([','].intercalate texts) [] [] := by
  induction texts with
  | nil => decide
  | cons t texts ih =>
    have ht := h t (by simp)
    have htexts := ih fun u hu => h u (by simp [hu])
    cases texts with
    | nil => simpa using ht
    | cons next texts =>
      have hcomma : Reads [','] [] [] := by decide
      rw [List.intercalate_cons_cons]
      exact (ht.append hcomma).append htexts

/-- A repeated parameter type gives a type that is read. -/
lemma reads_repeated {returns param : String} (hreturns : Reads returns.toList [] [])
    (hparam : Reads param.toList [] []) (arity : Nat) :
    Reads (Signature.repeated returns param arity).pointerType.toList [] [] := by
  have hlist :
      Reads ([','].intercalate ((List.replicate arity param).map String.toList)) [] [] := by
    refine reads_intercalate fun t ht => ?_
    obtain ⟨p, hp, rfl⟩ := List.mem_map.1 ht
    obtain rfl := List.eq_of_mem_replicate hp
    exact hparam
  have hopen : Reads "(*)(".toList [] [')'] := by decide
  have hclose : Reads ")".toList [')'] [] := by decide
  have hreads := ((hreturns.append hopen).append (hlist.closed _)).append hclose
  simpa [Signature.pointerType, Signature.repeated] using hreads

/-- The addresses that a rule gives are read by themselves. -/
def ReadsPointers (rule : FunctionRule) : Prop :=
  ∀ q : String, IsTypeText q.toList → ∀ p ∈ pointers q rule, Reads p.toList [] []

lemma readsPointers_instantiate {args : String} (h : Reads args.toList [] []) :
    ReadsPointers (.instantiate args) := by
  intro q hq p hp
  obtain rfl := List.mem_singleton.1 hp
  have hcast : Reads "(void*)".toList [] [] := by decide
  have hopen : Reads "<".toList [] [] := by decide
  have hclose : Reads ">".toList [] [] := by decide
  have hreads := (((hcast.append (hq.reads [])).append hopen).append h).append hclose
  simpa using hreads

lemma readsPointers_overloads {signatures : List Signature}
    (h : ∀ s ∈ signatures, Reads s.pointerType.toList [] []) :
    ReadsPointers (.overloads signatures) := by
  intro q hq p hp
  obtain ⟨s, hs, rfl⟩ := List.mem_map.1 hp
  have hcast : Reads "(void*)static_cast<".toList [] [] := by decide
  have hopen : Reads ">(&".toList [] [')'] := by decide
  have hclose : Reads ")".toList [')'] [] := by decide
  have hreads := (((hcast.append (h s hs)).append hopen).append (hq.reads _)).append hclose
  simpa using hreads

lemma readsPointers_address : ReadsPointers .address := by
  intro q hq p hp
  obtain rfl := List.mem_singleton.1 hp
  have hcast : Reads "(void*)".toList [] [] := by decide
  simpa using hcast.append (hq.reads [])

/-- The addresses under the built-in rules are read by themselves. -/
lemma readsPointers_builtin (h : IsTypeText scope.toList) :
    (builtin scope).AllFunctionRules ReadsPointers := by
  have hconst : Reads "const ".toList [] [] := by decide
  have hstar : Reads "*".toList [] [] := by decide
  have hlockable : Reads (lockablePointer scope).toList [] [] := by
    have htype : IsTypeText (qualify scope "CLockable").toList := isTypeText_qualify h (by decide)
    simpa [lockablePointer] using (hconst.append (htype.reads [])).append hstar
  have hset : Reads (setType scope).toList [] [] := (isTypeText_qualify h (by decide)).reads []
  have hpointer : Reads ("const " ++ setType scope ++ "* const").toList [] [] := by
    have hend : Reads "* const".toList [] [] := by decide
    simpa using (hconst.append hset).append hend
  have hreference : Reads ("const " ++ setType scope ++ "&").toList [] [] := by
    have hend : Reads "&".toList [] [] := by decide
    simpa using (hconst.append hset).append hend
  have hresult : Reads (setType scope ++ "*").toList [] [] := by
    simpa using hset.append hstar
  have hbool : Reads "bool".toList [] [] := by decide
  have hdouble : Reads "double".toList [] [] := by decide
  refine allFunctionRules_builtin ?_
  simp only [List.mem_cons, List.not_mem_nil, or_false, forall_eq_or_imp, forall_eq]
  refine ⟨?lock, ?distance, ?comparison, ?double, ?int, ?conversion, ?sets⟩
  case lock =>
    exact readsPointers_overloads (List.forall_mem_cons.2
      ⟨reads_repeated hbool hlockable 2,
        List.forall_mem_singleton.2 (reads_repeated hbool hlockable 3)⟩)
  case distance =>
    exact readsPointers_overloads (List.forall_mem_cons.2
      ⟨reads_repeated hdouble hdouble 4,
        List.forall_mem_singleton.2 (reads_repeated hdouble hdouble 6)⟩)
  case comparison =>
    have hfloat : Reads "float".toList [] [] := by decide
    have hlong : Reads "long double".toList [] [] := by decide
    exact readsPointers_overloads (List.forall_mem_cons.2
      ⟨reads_repeated hbool hfloat 2, List.forall_mem_cons.2
        ⟨reads_repeated hbool hdouble 2,
          List.forall_mem_singleton.2 (reads_repeated hbool hlong 2)⟩⟩)
  case double => exact readsPointers_instantiate (by decide)
  case int => exact readsPointers_instantiate (by decide)
  case conversion => exact readsPointers_instantiate (by decide)
  case sets =>
    exact readsPointers_overloads (List.forall_mem_cons.2
      ⟨reads_repeated hresult hpointer 2,
        List.forall_mem_singleton.2 (reads_repeated hset hreference 2)⟩)

/-- A row of a name with an address that is read by itself. -/
lemma readsLine_row {r : TableRow} (hname : IsName r.name.toList)
    (hpointer : Reads r.pointer.toList [] []) (due : List Char) : ReadsLine r.line due due := by
  have hstart : Reads "\t\x7b (void*)".toList [] ['\x7d'] := by decide
  have hliteral : Reads ('"' :: (r.name.toList ++ ['"'])) ['\x7d'] ['\x7d'] :=
    .literal (hname.isTypeText.not_mem (by decide)) (hname.isTypeText.not_mem (by decide)) _
  have hcomma : Reads ", ".toList ['\x7d'] ['\x7d'] := by decide
  have hend : Reads " \x7d,".toList ['\x7d'] [] := by decide
  have hline : r.line.toList = "\t\x7b (void*)".toList ++ ('"' :: (r.name.toList ++ ['"'])) ++
      ", ".toList ++ r.pointer.toList ++ " \x7d,".toList := by
    simp [TableRow.line, rowStart]
  have hreads :=
    (((hstart.append hliteral).append hcomma).append (hpointer.closed _)).append hend
  rw [← hline] at hreads
  exact (hreads.closed due).line (by simp [TableRow.line, rowStart])

end RuleSet

end SymbolProbe

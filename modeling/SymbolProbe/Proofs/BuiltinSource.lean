import SymbolProbe.Proofs.Merging
import SymbolProbe.Proofs.SourceLines
import SymbolProbe.Proofs.Tally

/-!
# The source under the built-in rules

Under the built-in rules of a namespace `name(::name)*`, every statement of a check starts with a
name and every part of the program is on one line: the names of symbols are identifiers, and the
rules bring in fixed texts and the namespace. So the program is plain, and its text outlines the
listing (`Generator.source_outlines`).
-/

namespace SymbolProbe

/-! ### Names and namespaces -/

lemma IsName.feed_not_mem {name : List Char} (h : IsName name) : '\n' ∉ name :=
  h.not_mem (by decide)

/-- A namespace is a name, or a name, `::` and a namespace. -/
inductive IsScope : List Char → Prop
  | name {n : List Char} (h : IsName n) : IsScope n
  | nested {n s : List Char} (h : IsName n) (hs : IsScope s) : IsScope (n ++ [':', ':'] ++ s)

lemma IsScope.feed_not_mem {scope : List Char} (h : IsScope scope) : '\n' ∉ scope := by
  induction h with
  | name h => exact h.feed_not_mem
  | nested h _ ih => simp [h.feed_not_mem, ih]

lemma IsScope.startsStatement {scope : List Char} (h : IsScope scope) : StartsStatement scope := by
  refine ⟨h.feed_not_mem, ?_⟩
  cases h with
  | name h =>
    obtain ⟨start, _⟩ := h
    exact ⟨_, _, rfl, start⟩
  | nested h _ =>
    obtain ⟨start, _⟩ := h
    exact ⟨_, _, rfl, start⟩

lemma StartsStatement.append_right {start more : List Char} (h : StartsStatement start)
    (hmore : '\n' ∉ more) : StartsStatement (start ++ more) := by
  obtain ⟨hline, c, rest, rfl, hc⟩ := h
  exact ⟨by simpa [hmore] using hline, c, rest ++ more, rfl, hc⟩

/-- A qualified name starts a statement. -/
lemma IsScope.startsStatement_qualify {scope : String} (h : IsScope scope.toList) {name : String}
    (hname : '\n' ∉ name.toList) : StartsStatement (qualify scope name).toList := by
  have hqualify : (qualify scope name).toList = scope.toList ++ ("::" ++ name).toList := by
    simp [qualify]
  rw [hqualify]
  exact h.startsStatement.append_right (by simpa using hname)

/-! ### Texts on one line -/

lemma Signature.feed_not_mem_pointerType {s : Signature} (hreturns : '\n' ∉ s.returns.toList)
    (hparams : ∀ p ∈ s.params, '\n' ∉ p.toList) : '\n' ∉ s.pointerType.toList := by
  have hlist : '\n' ∉ [','].intercalate (s.params.map String.toList) := by
    refine not_mem_intercalate (by decide) fun text htext => ?_
    obtain ⟨p, hp, rfl⟩ := List.mem_map.1 htext
    exact hparams p hp
  simp [pointerType, hreturns, hlist]

/-- A rule whose texts are on one line. -/
def FunctionRule.IsOneLine : FunctionRule → Prop
  | .address => True
  | .instantiate args => '\n' ∉ args.toList
  | .overloads signatures => ∀ s ∈ signatures, '\n' ∉ s.pointerType.toList

namespace RuleSet

lemma feed_not_mem_pointers {qualified p : String} {rule : FunctionRule}
    (hqualified : '\n' ∉ qualified.toList) (hrule : rule.IsOneLine)
    (hp : p ∈ pointers qualified rule) : '\n' ∉ p.toList := by
  cases rule with
  | address =>
    obtain rfl := List.mem_singleton.1 hp
    simpa using hqualified
  | instantiate args =>
    obtain rfl := List.mem_singleton.1 hp
    have hargs : '\n' ∉ args.toList := hrule
    simp [hqualified, hargs]
  | overloads signatures =>
    obtain ⟨s, hs, rfl⟩ := List.mem_map.1 hp
    simp [hqualified, hrule s hs]

/-- A repeated parameter type keeps a signature on one line. -/
lemma feed_not_mem_repeated {returns param : String} {arity : Nat}
    (hreturns : '\n' ∉ returns.toList) (hparam : '\n' ∉ param.toList) :
    '\n' ∉ (Signature.repeated returns param arity).pointerType.toList := by
  refine Signature.feed_not_mem_pointerType hreturns fun p hp => ?_
  obtain rfl := List.eq_of_mem_replicate hp
  exact hparam

lemma isOneLine_builtin {scope : String} (h : '\n' ∉ scope.toList) :
    (builtin scope).AllFunctionRules FunctionRule.IsOneLine := by
  have hlockable : '\n' ∉ (lockablePointer scope).toList := by simp [lockablePointer, qualify, h]
  have hset : '\n' ∉ (setType scope).toList := by simp [setType, qualify, h]
  refine allFunctionRules_builtin ?_
  simp [FunctionRule.IsOneLine, lockRule, distanceRule, comparisonRule, setOperationRule,
    feed_not_mem_repeated, hlockable, hset]

end RuleSet

/-! ### Checks -/

/-- The statements and arguments of a rule leave a check plain. -/
structure LeavesPlain (prelude args : List String) : Prop where
  prelude : ∀ s ∈ prelude, IsStatement s
  args : EndsStatement (declarationEnd args).toList

lemma LeavesPlain.isPlain {o : ObjectCheck} (h : LeavesPlain o.prelude o.args)
    (hname : '\n' ∉ o.name.toList) (htype : StartsStatement o.typeExpr.toList) : o.IsPlain where
  name := hname
  prelude := h.prelude
  declaration := by
    rw [ObjectCheck.declaration_eq]
    exact htype.append _ h.args

namespace RuleSet

variable {scope : String}

/-- The built-in rule of a class leaves its check plain. -/
lemma leavesPlain_classRule (h : IsScope scope.toList) (name : String) :
    let rule := ((builtin scope).classRule? name).getD {}
    LeavesPlain rule.prelude rule.args := by
  have hlock : IsStatement (qualify scope "CLockable" ++ " lock_me;") :=
    (h.startsStatement_qualify (by decide)).append _ (by decide)
  cases hrule : (builtin scope).classRule? name with
  | none => exact ⟨by simp, by decide⟩
  | some rule =>
    have hmem := Table.mem_of_find?_ofList hrule
    simp only [List.mem_cons, Prod.mk.injEq, List.not_mem_nil, or_false] at hmem
    obtain ⟨-, rfl⟩ | ⟨-, rfl⟩ | ⟨-, rfl⟩ := hmem
    · exact ⟨by simp, by decide⟩
    · refine ⟨by simpa using hlock, ?_⟩
      show EndsStatement (declarationEnd ["&lock_me"]).toList
      decide
    · exact ⟨by simp, by decide⟩

/-- The rule of a class template without one of its own leaves its check plain. -/
lemma leavesPlain_templateRule (scope name : String) :
    let rule := (builtin scope).templateRule name
    LeavesPlain rule.prelude rule.args ∧ '\n' ∉ (",".intercalate rule.params).toList := by
  have hint : StartsStatement "int".toList :=
    ⟨by decide, 'i', _, rfl, isNameStart_iff.1 (by decide)⟩
  have hdata : IsStatement (TemplateDefaults.dataStatement {}) :=
    hint.append "* data = new int(42);" (by decide)
  have hkey : IsStatement (TemplateDefaults.keyStatement {}) :=
    hint.append " key = 69;" (by decide)
  have hrule : (builtin scope).templateRule name = TemplateDefaults.rule {} name := rfl
  rw [hrule, TemplateDefaults.rule]
  cases TemplateDefaults.isAssociative {} name <;> cases TemplateDefaults.isElement {} name
  · exact ⟨⟨by simp, by decide⟩, by decide⟩
  · exact ⟨⟨by simpa using hdata, by decide⟩, by decide⟩
  · exact ⟨⟨by simp, by decide⟩, by decide⟩
  · exact ⟨⟨by simpa using ⟨hdata, hkey⟩, by decide⟩, by decide⟩

/-- The check of a listed symbol is plain under the built-in rules. -/
lemma isPlain_of_objectCheck? (h : IsScope scope.toList) {s : Symbol} (hname : IsName s.name.toList)
    {o : ObjectCheck} (ho : (builtin scope).objectCheck? s = some o) : o.IsPlain := by
  obtain ⟨kind, name⟩ := s
  have hstart := h.startsStatement_qualify hname.feed_not_mem
  cases kind with
  | objectClass =>
    obtain rfl : (builtin scope).classCheck name = o := Option.some.inj ho
    exact (leavesPlain_classRule h name).isPlain hname.feed_not_mem hstart
  | classTemplate =>
    obtain rfl : (builtin scope).templateCheck name = o := Option.some.inj ho
    obtain ⟨hrule, hparams⟩ := leavesPlain_templateRule scope name
    have htype : StartsStatement ((builtin scope).templateCheck name).typeExpr.toList := by
      have hmore : '\n' ∉
          '<' :: (",".intercalate ((builtin scope).templateRule name).params).toList ++ ['>'] := by
        simpa using hparams
      have hend := hstart.append_right hmore
      have hscope : (builtin scope).scope = scope := rfl
      simpa [templateCheck, qualified, hscope] using hend
    exact hrule.isPlain hname.feed_not_mem htype
  | freeFunction | globalSingleton => cases ho

end RuleSet

/-! ### Headers -/

/-- An included file name has the characters of its path only. -/
lemma not_mem_includes {c : Char} {excludeForward : Bool} {paths : List String}
    (h : ∀ path ∈ paths, c ∉ path.toList) {name : String}
    (hname : name ∈ (IncludeList.ofPaths excludeForward paths).includes) : c ∉ name.toList := by
  obtain ⟨u, hu, hinclude⟩ := List.mem_filterMap.1 hname
  obtain ⟨path, hpath, rfl⟩ := List.mem_map.1 hu
  have hbase : c ∉ baseName path.toList := by
    intro hc
    have hmem := List.takeWhile_subset _ (List.mem_reverse.1 hc)
    exact h path hpath (List.mem_reverse.1 hmem)
  rw [HeaderUse.ofPath] at hinclude
  split at hinclude
  · cases hinclude
  · split at hinclude
    · cases hinclude
    · obtain rfl : String.ofList (baseName path.toList) = name := Option.some.inj hinclude
      simpa using hbase

/-! ### The program -/

namespace Generator

/-- The program of the built-in rules is plain. -/
lemma isPlain_program {c : Config} (hscope : IsScope c.scope.toList)
    (hheaders : ∀ path ∈ c.headers, '\n' ∉ path.toList) (l : Listing) :
    ((ofConfig c).program l).IsPlain := by
  rw [program_eq]
  constructor
  case includes => exact fun name hname => not_mem_includes hheaders hname
  case objects =>
    intro o ho
    obtain ⟨s, hs, ho⟩ := List.mem_filterMap.1 ho
    exact RuleSet.isPlain_of_objectCheck? hscope (isName_of_mem_symbols hs) ho
  case rows =>
    have hqualified : ∀ s ∈ (ofConfig c).symbols l,
        '\n' ∉ ((ofConfig c).rules.qualified s.name).toList := fun s hs =>
      (hscope.startsStatement_qualify (isName_of_mem_symbols hs).feed_not_mem).1
    intro r hr
    obtain hr | hr := List.mem_append.1 hr
    · obtain ⟨⟨kind, name⟩, hs, hr⟩ := List.mem_flatMap.1 hr
      cases kind with
      | freeFunction =>
        obtain ⟨p, hp, rfl⟩ := List.mem_map.1 hr
        have hrule := (RuleSet.isOneLine_builtin hscope.feed_not_mem).functionRule trivial name
        exact ⟨(isName_of_mem_symbols hs).feed_not_mem,
          RuleSet.feed_not_mem_pointers (hqualified _ hs) hrule hp⟩
      | objectClass | classTemplate | globalSingleton => cases hr
    · obtain ⟨⟨kind, name⟩, hs, hr⟩ := List.mem_flatMap.1 hr
      cases kind with
      | globalSingleton =>
        obtain rfl := List.mem_singleton.1 hr
        refine ⟨(isName_of_mem_symbols hs).feed_not_mem, ?_⟩
        simpa [RuleSet.singletonRow] using hqualified _ hs
      | objectClass | classTemplate | freeFunction => cases hr

/-- The text under the built-in rules is the listing, in order: it defines and calls the checks of
the listed classes and class templates, and its table has the rows of the kept functions and then
those of the singletons. -/
theorem source_outlines {c : Config} (hscope : IsScope c.scope.toList)
    (hheaders : ∀ path ∈ c.headers, '\n' ∉ path.toList) (l : Listing) :
    let g := ofConfig c
    Outlines (g.program l).sourceLines (g.listedObjects l)
      ((g.keptFunctions l).flatMap g.rules.functionRows ++
        (g.listedSingletons l).map g.rules.singletonRow) := by
  intro g
  have houtlines := (isPlain_program hscope hheaders l).outlines
  rw [map_name_objects, table_eq] at houtlines
  exact houtlines

/-- Two checks, the second one of a repeated class, and a table in which two overloads stand before
the singleton that is listed first. -/
theorem source_of_interleaved_lines :
    let c : Config := { scope := "pwx::math", headers := ["basic/CLockGuard.h"] }
    let l : Listing := ⟨[" pwx::math::CLockGuard: x", " pwx::math::RNG;", "",
      "  pwx::math::absDistance;", " pwx::math::debug_me;", " pwx::math::CLockGuard;"], none⟩
    let lines := ((ofConfig c).program l).sourceLines
    lines.filterMap definitionName? = ["CLockGuard", "CLockGuard"] ∧
      (lines.filter startsRow).length = 3 ∧ lines.count tableHead = 1 ∧
      [loopHead, loopBody] <:+: lines := by
  intro c l lines
  have hchars : c.scope.toList = "pwx".toList ++ [':', ':'] ++ "math".toList := by decide
  have hscope : IsScope c.scope.toList := hchars ▸ .nested (by decide) (.name (by decide))
  have houtlines := source_outlines hscope (by decide : ∀ path ∈ c.headers, '\n' ∉ path.toList) l
  refine ⟨houtlines.definitions.trans (by decide), ?_, ?_, houtlines.loop (by decide)⟩
  · rw [houtlines.rowLines, List.length_map]
    decide
  · rw [houtlines.tableCount, if_neg (by decide)]

end Generator

end SymbolProbe

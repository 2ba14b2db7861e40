import SymbolProbe.Generation
import SymbolProbe.Proofs.LineGrammar

/-!
# What becomes of a line

The use of a line is decided by the symbol it names. A free function is dropped when its name is a
private namespace, and else when the debug filter takes it; all other symbols are kept
(`Generator.symbols_eq`). A blank line names no symbol, since every symbol stands behind colons.
-/

namespace SymbolProbe

/-! ### Filters -/

namespace Config

/-- Whether a symbol is dropped for a private namespace. -/
def dropsPrivate (c : Config) (s : Symbol) : Bool :=
  s.kind == .freeFunction && c.privateScopes.contains s.name

/-- Whether a symbol that is no private namespace is dropped as a debug function. -/
def dropsDebug (c : Config) (s : Symbol) : Bool :=
  s.kind == .freeFunction && !c.privateScopes.contains s.name && c.excludesFunction s.name

/-- Whether a symbol passes both filters. -/
def keeps (c : Config) (s : Symbol) : Bool := !c.dropsPrivate s && !c.dropsDebug s

lemma keeps_of_kind_ne {c : Config} {s : Symbol} (h : s.kind ≠ .freeFunction) :
    c.keeps s = true := by
  simp [keeps, dropsPrivate, dropsDebug, h]

/-- The functions that pass both filters. -/
lemma isFunction_and_keeps (c : Config) (s : Symbol) :
    (s.kind == .freeFunction && c.keeps s) =
      (s.kind == .freeFunction && !c.privateScopes.contains s.name &&
        !c.excludesFunction s.name) := by
  rw [keeps, dropsPrivate, dropsDebug]
  cases s.kind == .freeFunction <;> cases c.privateScopes.contains s.name <;>
    cases c.excludesFunction s.name <;> rfl

end Config

/-! ### Uses -/

/-- Whether the line contributes a symbol of the given kind. -/
def LineUse.isKept (kind : SymbolKind) : LineUse → Bool
  | .kept s => s.kind == kind
  | _ => false

namespace Generator

variable (g : Generator) (line : String)

/-- Every recognized line holds a colon. -/
lemma not_isBlankText_of_classify {c : Classifier} {line : String} {s : Symbol}
    (h : c.classify line = some s) : Text.isBlankText line.toList = false := by
  obtain ⟨t, ⟨indent, rest, -, -, -, -, hline⟩, -⟩ := Classifier.carries_of_classify h
  have hc : ':' ∈ line.toList := by simp [hline]
  rw [Text.isBlankText, List.all_eq_false]
  exact ⟨':', hc, by decide⟩

/-- The filters of the configuration decide what becomes of a line that names a symbol. -/
lemma lineUse_eq :
    g.lineUse line =
      match g.classifier.classify line with
      | none => if Text.isBlankText line.toList then .blank else .unrecognized line
      | some s =>
        if g.config.dropsPrivate s then .privateMember s.name
        else if g.config.dropsDebug s then .debugFunction s.name
        else .kept s := by
  unfold lineUse
  cases g.classifier.classify line with
  | none => rfl
  | some s =>
    by_cases hk : s.kind = .freeFunction <;> by_cases hp : s.name ∈ g.config.privateScopes <;>
      simp [Config.isPrivateScope, Config.dropsPrivate, Config.dropsDebug, hk, hp]

/-- A debug function is never a private namespace. -/
lemma dropsDebug_of_dropsPrivate {c : Config} {s : Symbol} (h : c.dropsPrivate s = true) :
    c.dropsDebug s = false := by
  simp only [Config.dropsPrivate, Bool.and_eq_true] at h
  simp only [Config.dropsDebug, h.2, Bool.not_true, Bool.and_false, Bool.false_and]

/-- What becomes of a line, by the symbol it names and the filters of the configuration. -/
inductive Uses (g : Generator) (line : String) : LineUse → Prop
  | blank (hs : g.classifier.classify line = none) (hb : Text.isBlankText line.toList = true) :
      Uses g line .blank
  | unrecognized (hs : g.classifier.classify line = none)
      (hb : Text.isBlankText line.toList = false) : Uses g line (.unrecognized line)
  | privateMember {s : Symbol} (hs : g.classifier.classify line = some s)
      (hb : Text.isBlankText line.toList = false) (hp : g.config.dropsPrivate s = true)
      (hd : g.config.dropsDebug s = false) : Uses g line (.privateMember s.name)
  | debugFunction {s : Symbol} (hs : g.classifier.classify line = some s)
      (hb : Text.isBlankText line.toList = false) (hp : g.config.dropsPrivate s = false)
      (hd : g.config.dropsDebug s = true) : Uses g line (.debugFunction s.name)
  | kept {s : Symbol} (hs : g.classifier.classify line = some s)
      (hb : Text.isBlankText line.toList = false) (hp : g.config.dropsPrivate s = false)
      (hd : g.config.dropsDebug s = false) : Uses g line (.kept s)

lemma uses_lineUse : g.Uses line (g.lineUse line) := by
  rw [lineUse_eq]
  cases hs : g.classifier.classify line with
  | none =>
    cases hb : Text.isBlankText line.toList with
    | true => exact .blank hs hb
    | false => exact .unrecognized hs hb
  | some s =>
    have hb := not_isBlankText_of_classify hs
    cases hp : g.config.dropsPrivate s with
    | true => simpa [hp] using Uses.privateMember hs hb hp (dropsDebug_of_dropsPrivate hp)
    | false =>
      cases hd : g.config.dropsDebug s with
      | true => simpa [hp, hd] using Uses.debugFunction hs hb hp hd
      | false => simpa [hp, hd] using Uses.kept hs hb hp hd

lemma lineUse_symbol? :
    (g.lineUse line).symbol? = (g.classifier.classify line).filter g.config.keeps := by
  have h := g.uses_lineUse line
  generalize g.lineUse line = u at h ⊢
  cases h <;> simp [*, LineUse.symbol?, Config.keeps, Option.filter_some]

/-- A kept symbol is the one that its line names. -/
lemma classify_of_lineUse {g : Generator} {line : String} {s : Symbol}
    (h : g.lineUse line = .kept s) : g.classifier.classify line = some s := by
  have huse := g.uses_lineUse line
  rw [h] at huse
  cases huse with
  | kept hs => exact hs

/-! ### Uses of one kind -/

lemma lineUse_matches_blank :
    (g.lineUse line matches .blank) = Text.isBlankText line.toList := by
  have h := g.uses_lineUse line
  generalize g.lineUse line = u at h ⊢
  cases h <;> simp [*]

lemma lineUse_matches_unrecognized :
    (g.lineUse line matches .unrecognized _) =
      ((g.classifier.classify line).isNone && !Text.isBlankText line.toList) := by
  have h := g.uses_lineUse line
  generalize g.lineUse line = u at h ⊢
  cases h <;> simp [*]

lemma lineUse_matches_privateMember :
    (g.lineUse line matches .privateMember _) =
      (g.classifier.classify line).any g.config.dropsPrivate := by
  have h := g.uses_lineUse line
  generalize g.lineUse line = u at h ⊢
  cases h <;> simp [*]

lemma lineUse_matches_debugFunction :
    (g.lineUse line matches .debugFunction _) =
      (g.classifier.classify line).any g.config.dropsDebug := by
  have h := g.uses_lineUse line
  generalize g.lineUse line = u at h ⊢
  cases h <;> simp [*]

lemma isKept_lineUse (kind : SymbolKind) :
    (g.lineUse line).isKept kind =
      (g.classifier.classify line).any fun s => s.kind == kind && g.config.keeps s := by
  have h := g.uses_lineUse line
  generalize g.lineUse line = u at h ⊢
  cases h <;> simp [*, LineUse.isKept, Config.keeps]

/-! ### Whole listings -/

/-- The checked symbols are those of the lines that pass the filters, in listing order. -/
lemma symbols_eq (l : Listing) :
    g.symbols l = (l.lines.filterMap g.classifier.classify).filter g.config.keeps := by
  rw [symbols, lineUses, List.filterMap_map, List.filter_filterMap]
  congr 1
  funext line
  exact g.lineUse_symbol? line

lemma isName_of_mem_symbols {g : Generator} {l : Listing} {s : Symbol} (hs : s ∈ g.symbols l) :
    IsName s.name.toList := by
  rw [symbols_eq] at hs
  obtain ⟨line, -, hclassify⟩ := List.mem_filterMap.1 (List.mem_filter.1 hs).1
  exact Classifier.isName_of_classify hclassify

/-- The names of the classes and class templates that a listing names, in listing order. -/
def listedObjects (l : Listing) : List String :=
  ((l.lines.filterMap g.classifier.classify).filter fun s => s.kind.isObject).map Symbol.name

/-- The names of the free functions that pass the filters, in listing order. -/
def keptFunctions (l : Listing) : List String :=
  ((l.lines.filterMap g.classifier.classify).filter fun s =>
    s.kind == .freeFunction && !g.config.privateScopes.contains s.name &&
      !g.config.excludesFunction s.name).map Symbol.name

/-- The names of the singletons that a listing names, in listing order. -/
def listedSingletons (l : Listing) : List String :=
  ((l.lines.filterMap g.classifier.classify).filter fun s =>
    s.kind == .globalSingleton).map Symbol.name

/-- The filters take nothing from symbols that are no free functions. -/
lemma filter_symbols {p : Symbol → Bool} (hp : ∀ s, p s = true → s.kind ≠ .freeFunction)
    (l : Listing) :
    (g.symbols l).filter p = (l.lines.filterMap g.classifier.classify).filter p := by
  rw [symbols_eq, List.filter_filter]
  congr 1
  funext s
  cases hs : p s with
  | false => rfl
  | true => rw [Config.keeps_of_kind_ne (hp s hs), Bool.and_true]

lemma filter_symbols_isObject (l : Listing) :
    ((g.symbols l).filter fun s => s.kind.isObject).map Symbol.name = g.listedObjects l := by
  rw [filter_symbols, listedObjects]
  intro s hs hkind
  simp [hkind, SymbolKind.isObject] at hs

lemma filter_symbols_freeFunction (l : Listing) :
    ((g.symbols l).filter fun s => s.kind == .freeFunction).map Symbol.name =
      g.keptFunctions l := by
  rw [symbols_eq, List.filter_filter, keptFunctions]
  congr 2
  funext s
  exact g.config.isFunction_and_keeps s

lemma filter_symbols_globalSingleton (l : Listing) :
    ((g.symbols l).filter fun s => s.kind == .globalSingleton).map Symbol.name =
      g.listedSingletons l := by
  rw [filter_symbols, listedSingletons]
  intro s hs hkind
  simp [hkind] at hs

end Generator

end SymbolProbe

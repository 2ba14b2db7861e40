import SymbolProbe.Fragment
import SymbolProbe.Rule.RuleSet

/-!
# Fragments of symbols

A rule set turns every symbol into the fragment that refers to it. Each reference is qualified by
the namespace of the rule set and resolves to one overload or instantiation as long as the rule set
knows the symbol.
-/

namespace SymbolProbe.RuleSet

/-- A name qualified by the namespace of the rule set. -/
def qualified (r : RuleSet) (name : String) : String := qualify r.scope name

/-! ### Object checks -/

/-- The check of a class. -/
def classCheck (r : RuleSet) (name : String) : ObjectCheck :=
  let rule := (r.classRule? name).getD {}
  { kind := .objectClass
    name := name
    typeExpr := r.qualified name
    prelude := rule.prelude
    args := rule.args }

/-- The check of a class template. -/
def templateCheck (r : RuleSet) (name : String) : ObjectCheck :=
  let rule := r.templateRule name
  { kind := .classTemplate
    name := name
    typeExpr := r.qualified name ++ "<" ++ ",".intercalate rule.params ++ ">"
    prelude := rule.prelude
    args := rule.args }

/-- The check of a symbol, if it is a class or a class template. -/
def objectCheck? (r : RuleSet) (s : Symbol) : Option ObjectCheck :=
  match s.kind with
  | .objectClass => some (r.classCheck s.name)
  | .classTemplate => some (r.templateCheck s.name)
  | _ => none

/-! ### Table rows -/

/-- The addresses of a function under a rule, one per overload. -/
def pointers (qualified : String) : FunctionRule → List String
  | .address => ["(void*)" ++ qualified]
  | .instantiate args => ["(void*)" ++ qualified ++ "<" ++ args ++ ">"]
  | .overloads signatures =>
    signatures.map fun s => "(void*)static_cast<" ++ s.pointerType ++ ">(&" ++ qualified ++ ")"

/-- The rows of a free function, in the order of its rule. -/
def functionRows (r : RuleSet) (name : String) : List TableRow :=
  (pointers (r.qualified name) (r.functionRule name)).map fun p => ⟨.freeFunction, name, p⟩

/-- The row of a singleton. -/
def singletonRow (r : RuleSet) (name : String) : TableRow :=
  ⟨.globalSingleton, name, "(void*)&" ++ r.qualified name⟩

/-- The rows of a symbol as a free function; other symbols have none. -/
def functionRowsOf (r : RuleSet) (s : Symbol) : List TableRow :=
  match s.kind with
  | .freeFunction => r.functionRows s.name
  | _ => []

/-- The rows of a symbol as a singleton; other symbols have none. -/
def singletonRowsOf (r : RuleSet) (s : Symbol) : List TableRow :=
  match s.kind with
  | .globalSingleton => [r.singletonRow s.name]
  | _ => []

/-! ### Fragments -/

/-- What a symbol contributes to the program. -/
def fragment (r : RuleSet) (s : Symbol) : Fragment :=
  match s.kind with
  | .objectClass => .object (r.classCheck s.name)
  | .classTemplate => .object (r.templateCheck s.name)
  | .freeFunction => .rows (r.functionRows s.name)
  | .globalSingleton => .rows [r.singletonRow s.name]

theorem length_functionRows (r : RuleSet) (name : String) :
    (r.functionRows name).length = (r.functionRule name).rowCount := by
  simp only [functionRows, List.length_map]
  cases r.functionRule name <;> simp [pointers, FunctionRule.rowCount]

end SymbolProbe.RuleSet

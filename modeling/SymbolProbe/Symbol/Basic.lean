/-!
# Symbols

A symbol of the listed library is an unqualified name together with the kind of entity it names.
-/

namespace SymbolProbe

/-- The kinds of entities that a listing names. -/
inductive SymbolKind
  | objectClass
  | classTemplate
  | freeFunction
  | globalSingleton
deriving DecidableEq, Repr

/-- The kind in words. -/
def SymbolKind.label : SymbolKind → String
  | .objectClass => "class"
  | .classTemplate => "class template"
  | .freeFunction => "free function"
  | .globalSingleton => "global singleton"

/-- Whether an entity of a kind is checked by constructing an object. -/
def SymbolKind.isObject : SymbolKind → Bool
  | .objectClass | .classTemplate => true
  | .freeFunction | .globalSingleton => false

/-- A name and what it names. -/
structure Symbol where
  kind : SymbolKind
  name : String
deriving DecidableEq, Repr

/-- A name qualified by the namespace it belongs to. -/
def qualify (scope name : String) : String := scope ++ "::" ++ name

end SymbolProbe

/-!
# Rules

A rule says how a symbol is referenced in the generated program: how a class is constructed, how a
class template is instantiated, and how the address of a free function is taken.
-/

namespace SymbolProbe

/-! ### Classes and class templates -/

/-- How a class is constructed: the statements in front of the object, and the constructor's
arguments. -/
structure ClassRule where
  prelude : List String := []
  args : List String := []
deriving DecidableEq, Repr, Inhabited

/-- How a class template is instantiated: its parameters, the statements in front of the object,
and the constructor's arguments. -/
structure TemplateRule where
  params : List String
  prelude : List String := []
  args : List String := []
deriving DecidableEq, Repr, Inhabited

/-- The instantiation of a template without a rule of its own. The markers are the texts in a
name that tell a key-value container and an element with a heap value. -/
structure TemplateDefaults where
  valueType : String := "int"
  associativeMarker : String := "Hash"
  elementMarker : String := "Element"
  elementValue : String := "42"
  elementKey : String := "69"
deriving DecidableEq, Repr, Inhabited

/-! ### Free functions -/

/-- The types of a function, which select one overload. -/
structure Signature where
  returns : String
  params : List String := []
deriving DecidableEq, Repr, Inhabited

namespace Signature

/-- A signature with one parameter type repeated. -/
def repeated (returns param : String) (arity : Nat) : Signature :=
  ⟨returns, List.replicate arity param⟩

/-- The type of a pointer to a function of this signature. -/
def pointerType (s : Signature) : String :=
  s.returns ++ "(*)(" ++ ",".intercalate s.params ++ ")"

end Signature

/-- How the address of a free function is taken. -/
inductive FunctionRule
  /-- The plain address. -/
  | address
  /-- The address of an explicit instantiation. -/
  | instantiate (args : String)
  /-- One cast address per overload. -/
  | overloads (signatures : List Signature)
deriving DecidableEq, Repr, Inhabited

namespace FunctionRule

/-- The number of table rows that the rule gives. -/
def rowCount : FunctionRule → Nat
  | .address => 1
  | .instantiate _ => 1
  | .overloads signatures => signatures.length

/-- Whether the rule selects an overload or an instantiation. -/
def isDisambiguating : FunctionRule → Bool
  | .address => false
  | _ => true

end FunctionRule

end SymbolProbe

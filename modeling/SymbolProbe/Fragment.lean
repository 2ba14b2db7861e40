import SymbolProbe.Symbol.Basic

/-!
# Fragments

The pieces of the generated program that refer to symbols. A class or class template gives an
object check, the construction of one instance in a function of its own; a free function or a
singleton gives rows of the table of names and pointers.
-/

namespace SymbolProbe

/-- The name of the object that every check constructs. -/
def testObject : String := "test_obj"

/-- The construction of one instance of a class or class template. -/
structure ObjectCheck where
  kind : SymbolKind
  name : String
  /-- The qualified type, with its parameters. -/
  typeExpr : String
  /-- The statements in front of the object's declaration. -/
  prelude : List String
  /-- The constructor's arguments. -/
  args : List String
deriving DecidableEq, Repr

namespace ObjectCheck

/-- The name of the function that holds the check. -/
def functionName (o : ObjectCheck) : String := "test_" ++ o.name

/-- Whether the object is constructed without arguments. -/
def isNullary (o : ObjectCheck) : Bool := o.args.isEmpty

/-- The declaration of the object. -/
def declaration (o : ObjectCheck) : String :=
  if o.isNullary then o.typeExpr ++ " " ++ testObject ++ ";"
  else o.typeExpr ++ " " ++ testObject ++ "(" ++ ", ".intercalate o.args ++ ");"

end ObjectCheck

/-- One entry of the table of names and pointers. -/
structure TableRow where
  kind : SymbolKind
  name : String
  /-- The address, as an expression of type pointer to void. -/
  pointer : String
deriving DecidableEq, Repr

/-- What one symbol contributes to the program. -/
inductive Fragment
  | object (check : ObjectCheck)
  | rows (rows : List TableRow)
deriving DecidableEq, Repr

end SymbolProbe

import SymbolProbe.Rule.RuleSet
import SymbolProbe.Symbol.Basic

/-!
# Built-in rules

The constructors and overloads of the library that are known without a rule file: the classes
without a default constructor, the lock and math helpers, and two families of functions that are
told by their names.
-/

namespace SymbolProbe.RuleSet

open Pattern (Expr)
open Unicode (CodeSet)

/-! ### Classes -/

/-- The classes that are not constructed by default. -/
def builtinClasses (scope : String) : Table ClassRule :=
  Table.ofList [
    ("CException",
      { args := ["\"name\"", "\"what\"", "\"where\"", "\"func\"", "\"when\""] }),
    ("CLockGuard",
      { prelude := [qualify scope "CLockable" ++ " lock_me;"], args := ["&lock_me"] }),
    ("CSinCosTable", { args := ["2"] })]

/-! ### Functions by name -/

/-- The type of a pointer to a lockable object that is not changed. -/
def lockablePointer (scope : String) : String := "const " ++ qualify scope "CLockable" ++ "*"

/-- The lock helpers take two or three lockable objects. -/
def lockRule (scope : String) : FunctionRule :=
  .overloads [
    .repeated "bool" (lockablePointer scope) 2,
    .repeated "bool" (lockablePointer scope) 3]

/-- The distance of two points in the plane or in space. -/
def distanceRule : FunctionRule :=
  .overloads [.repeated "double" "double" 4, .repeated "double" "double" 6]

/-- The comparison of two numbers of one type. -/
def comparisonRule : FunctionRule :=
  .overloads [
    .repeated "bool" "float" 2,
    .repeated "bool" "double" 2,
    .repeated "bool" "long double" 2]

/-- The functions with a rule of their own. -/
def builtinFunctions (scope : String) : Table FunctionRule :=
  Table.ofList [
    ("are_locked", lockRule scope),
    ("try_locks", lockRule scope),
    ("unlock_all", lockRule scope),
    ("absDistance", distanceRule),
    ("areAlmostEqual", comparisonRule),
    ("degToRad", .instantiate "double"),
    ("getNormalizedDegree", .instantiate "double"),
    ("readNextValue", .instantiate "int")]

/-! ### Functions by pattern -/

/-- Names that are a literal text followed by one or more characters of a set. -/
def namesFrom (start : String) (set : CodeSet) : Expr :=
  Expr.ofParts [.look .textStart, .literal start.toList, .rep (.one set false) 1 none true,
    .look .textEnd]

/-- The names of conversions. -/
def conversionPattern : Pattern :=
  ⟨"^to_[a-z_0-9]+$", namesFrom "to_" ⟨[(48, 57), (95, 95), (97, 122)]⟩⟩

/-- The names of set operations. -/
def setOperationPattern : Pattern :=
  ⟨"^set_[a-z]+$", namesFrom "set_" ⟨[(97, 122)]⟩⟩

/-- The type of sets of integers. -/
def setType (scope : String) : String := qualify scope "TSet<int>"

/-- A set operation takes two sets by pointer or by reference. -/
def setOperationRule (scope : String) : FunctionRule :=
  .overloads [
    .repeated (setType scope ++ "*") ("const " ++ setType scope ++ "* const") 2,
    .repeated (setType scope) ("const " ++ setType scope ++ "&") 2]

/-- The families of functions that are told by their names. -/
def builtinPatterns (scope : String) : List PatternRule :=
  [⟨conversionPattern, .instantiate "char*"⟩, ⟨setOperationPattern, setOperationRule scope⟩]

/-! ### The rule set -/

/-- The built-in rules for a namespace. -/
def builtin (scope : String) : RuleSet where
  scope := scope
  classes := builtinClasses scope
  functions := builtinFunctions scope
  patterns := builtinPatterns scope

end SymbolProbe.RuleSet

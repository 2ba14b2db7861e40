import SymbolProbe.Pattern.Footprint
import SymbolProbe.Pattern.Meaning
import SymbolProbe.Pattern.Opening
import SymbolProbe.Pattern.Parser

/-!
# Name patterns

A pattern selects names by a regular expression that is searched for anywhere in the name. A text
is a pattern when it is well-formed, is not nested too deep, has a meaning, and describes automata
of bounded size, unless it is found without an automaton.
-/

namespace SymbolProbe

/-- A text and the expression it stands for. -/
structure Pattern where
  text : String
  expr : Pattern.Expr
deriving DecidableEq, Repr, Inhabited

namespace Pattern

/-- How deep the parts of a pattern may be nested. -/
def maxDepth : Nat := 250

/-- The pattern of a text, if it is one. -/
def ofText? (text : String) : Option Pattern := do
  let tree ← Tree.parse? text
  if maxDepth < tree.depth then none
  let (expr, _) ← tree.expr? {}
  if expr.isWordList || ((expr.footprint .forward).fits && (expr.footprint .backward).fits)
      || expr.isFoundByWords then
    pure ⟨text, expr⟩
  else none

/-- Whether the pattern is found in a name. -/
def isMatch (p : Pattern) (name : String) : Bool := p.expr.occursIn name.toList

end Pattern

end SymbolProbe

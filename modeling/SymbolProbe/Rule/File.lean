import SymbolProbe.Rule.Basic
import SymbolProbe.Rule.Table

/-!
# Rule files

A rule file adds rules to a rule set: rules for classes, templates and functions by name, rules for
functions by pattern, and new defaults for templates.
-/

namespace SymbolProbe

/-- A rule for the functions whose names match a pattern, as a file states it. -/
structure PatternEntry where
  pattern : String
  rule : FunctionRule
deriving DecidableEq, Repr

/-- The rules of a file. -/
structure RuleFile where
  classes : Table ClassRule := Table.empty
  templates : Table TemplateRule := Table.empty
  functions : Table FunctionRule := Table.empty
  patterns : List PatternEntry := []
  templateDefaults : Option TemplateDefaults := none

end SymbolProbe

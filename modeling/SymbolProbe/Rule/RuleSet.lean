import SymbolProbe.Pattern
import SymbolProbe.Rule.File
import SymbolProbe.Text.Affix

/-!
# Rule sets

A rule set finds the rule of every symbol. A function's own rule comes first, then the first
pattern that matches its name, then the plain address. A template without a rule of its own is
instantiated by the shape of its name.
-/

namespace SymbolProbe

/-- A rule for the functions whose names match a pattern. -/
structure PatternRule where
  pattern : Pattern
  rule : FunctionRule
deriving DecidableEq, Repr

/-- The rules for the symbols of one namespace. -/
structure RuleSet where
  scope : String
  classes : Table ClassRule := Table.empty
  templates : Table TemplateRule := Table.empty
  defaults : TemplateDefaults := {}
  functions : Table FunctionRule := Table.empty
  patterns : List PatternRule := []

/-! ### Templates by the shape of their names -/

namespace TemplateDefaults

/-- Whether a name marks a key-value container. -/
def isAssociative (d : TemplateDefaults) (name : String) : Bool :=
  Text.occursIn d.associativeMarker.toList name.toList

/-- Whether a name marks an element with a heap value. -/
def isElement (d : TemplateDefaults) (name : String) : Bool :=
  Text.occursIn d.elementMarker.toList name.toList

/-- The statement that makes the heap value of an element. -/
def dataStatement (d : TemplateDefaults) : String :=
  d.valueType ++ "* data = new " ++ d.valueType ++ "(" ++ d.elementValue ++ ");"

/-- The statement that makes the key of an element. -/
def keyStatement (d : TemplateDefaults) : String :=
  d.valueType ++ " key = " ++ d.elementKey ++ ";"

/-- The rule of a template without one of its own. A key-value container takes two parameters; an
element is given a heap value, and a key too if it is associative. -/
def rule (d : TemplateDefaults) (name : String) : TemplateRule where
  params := if d.isAssociative name then [d.valueType, d.valueType] else [d.valueType]
  prelude :=
    if d.isElement name then
      if d.isAssociative name then [d.dataStatement, d.keyStatement] else [d.dataStatement]
    else []
  args :=
    if d.isElement name then if d.isAssociative name then ["key", "data"] else ["data"] else []

end TemplateDefaults

namespace RuleSet

/-! ### Look-ups -/

/-- The rule set without special cases. -/
def empty (scope : String) : RuleSet where
  scope := scope

/-- The rule of a class, if it has one. -/
def classRule? (r : RuleSet) (name : String) : Option ClassRule := r.classes.find? name

/-- The rule of a class template. -/
def templateRule (r : RuleSet) (name : String) : TemplateRule :=
  (r.templates.find? name).getD (r.defaults.rule name)

/-- The rule of the first pattern that matches a name. -/
def patternRule? (r : RuleSet) (name : String) : Option FunctionRule :=
  (r.patterns.find? fun p => p.pattern.isMatch name).map PatternRule.rule

/-- The rule of a free function. -/
def functionRule (r : RuleSet) (name : String) : FunctionRule :=
  ((r.functions.find? name).or (r.patternRule? name)).getD .address

/-! ### Merging -/

/-- The rules of pattern entries, or the first text among them that is no pattern. -/
def compilePatterns : List PatternEntry → Except String (List PatternRule)
  | [] => .ok []
  | e :: es =>
    match Pattern.ofText? e.pattern with
    | none => .error e.pattern
    | some p => (compilePatterns es).map (⟨p, e.rule⟩ :: ·)

/-- A rule set with the named rules and the defaults of a file over its own. -/
def mergeNamed (r : RuleSet) (f : RuleFile) : RuleSet :=
  { r with
    classes := r.classes.extend f.classes
    templates := r.templates.extend f.templates
    functions := r.functions.extend f.functions
    defaults := f.templateDefaults.getD r.defaults }

/-- What comes of merging a file: the rule set, and the text that was no pattern, if there was
one. -/
structure Merge where
  rules : RuleSet
  rejected : Option String

/-- Merge a file over a rule set. The patterns of the file go in front of the others; if one of
them is rejected, no pattern of the file is taken, but its named rules and defaults are. -/
def merge (r : RuleSet) (f : RuleFile) : Merge :=
  match compilePatterns f.patterns with
  | .ok ps => ⟨{ r.mergeNamed f with patterns := ps ++ r.patterns }, none⟩
  | .error text => ⟨r.mergeNamed f, some text⟩

end RuleSet

end SymbolProbe

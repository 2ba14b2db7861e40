import SymbolProbe.Config
import SymbolProbe.Listing
import SymbolProbe.Program
import SymbolProbe.Rule.Builtin
import SymbolProbe.Symbol.Classifier
import SymbolProbe.Synthesis
import SymbolProbe.Text.Blank

/-!
# Generation

A run classifies every line of a listing, drops what its configuration filters out, and gathers the
fragments of the kept symbols into a program, each kind in listing order. It reads the lines one
after the other and keeps a tally, from which the program and the report are made.
-/

namespace SymbolProbe

/-- The rules and the configuration of a run. -/
structure Generator where
  config : Config
  rules : RuleSet

/-- What becomes of one line of a listing. -/
inductive LineUse
  /-- The line is blank. -/
  | blank
  /-- The line names no symbol. -/
  | unrecognized (text : String)
  /-- The line names a member of a namespace inside the library. -/
  | privateMember (name : String)
  /-- The line names a debug function that is dropped. -/
  | debugFunction (name : String)
  /-- The line names a symbol that is checked. -/
  | kept (symbol : Symbol)
deriving DecidableEq, Repr

/-- The symbol that a line contributes. -/
def LineUse.symbol? : LineUse → Option Symbol
  | .kept s => some s
  | _ => none

/-- What a run tells its user in numbers. -/
structure Report where
  lines : Nat
  blankLines : Nat
  skippedLines : Nat
  classes : Nat
  templates : Nat
  functions : Nat
  singletons : Nat
  tableRows : Nat
  debugFiltered : Nat
  privateSkipped : Nat
  /-- The names of classes and templates that were seen before, once per repetition. -/
  duplicateObjects : List String
  headersIncluded : Nat
  headersExcluded : Nat
deriving DecidableEq, Repr

/-- The number of lines that contribute a symbol. -/
def Report.recognized (r : Report) : Nat := r.classes + r.templates + r.functions + r.singletons

/-! ### The tally of the lines -/

/-- What a run has gathered from the lines it has read. -/
structure Tally where
  blankLines : Nat := 0
  skippedLines : Nat := 0
  privateSkipped : Nat := 0
  debugFiltered : Nat := 0
  classes : Nat := 0
  templates : Nat := 0
  functions : Nat := 0
  singletons : Nat := 0
  objects : Array ObjectCheck := #[]
  functionRows : Array TableRow := #[]
  singletonRows : Array TableRow := #[]
  /-- The names of the object checks. -/
  seenObjects : List String := []
  /-- The names of object checks that were seen before, once per repetition. -/
  duplicateObjects : Array String := #[]
deriving DecidableEq, Repr

namespace Tally

/-- Take in an object check. -/
def addObject (t : Tally) (o : ObjectCheck) : Tally :=
  let isSeen := t.seenObjects.contains o.name
  { t with
    objects := t.objects.push o
    seenObjects := if isSeen then t.seenObjects else o.name :: t.seenObjects
    duplicateObjects := if isSeen then t.duplicateObjects.push o.name else t.duplicateObjects }

/-- Take in the fragment of a symbol of a kind. -/
def addFragment (t : Tally) (kind : SymbolKind) : Fragment → Tally
  | .object o =>
    match kind with
    | .classTemplate => { t.addObject o with templates := t.templates + 1 }
    | _ => { t.addObject o with classes := t.classes + 1 }
  | .rows rows =>
    match kind with
    | .globalSingleton =>
      { t with singletons := t.singletons + 1, singletonRows := t.singletonRows ++ rows }
    | _ => { t with functions := t.functions + 1, functionRows := t.functionRows ++ rows }

/-- Take in a line. -/
def addLine (r : RuleSet) (t : Tally) : LineUse → Tally
  | .blank => { t with blankLines := t.blankLines + 1 }
  | .unrecognized _ => { t with skippedLines := t.skippedLines + 1 }
  | .privateMember _ => { t with privateSkipped := t.privateSkipped + 1 }
  | .debugFunction _ => { t with debugFiltered := t.debugFiltered + 1 }
  | .kept s => t.addFragment s.kind (r.fragment s)

end Tally

namespace Generator

/-- The generator of a configuration with the built-in rules of its namespace. -/
def ofConfig (c : Config) : Generator := ⟨c, RuleSet.builtin c.scope⟩

/-- Lines are read by the namespace of the rule set, which qualifies every reference. -/
def classifier (g : Generator) : Classifier := ⟨g.rules.scope, g.config.maxSingletonLength⟩

/-- What becomes of a line. The private namespaces are looked at before the debug filter. -/
def lineUse (g : Generator) (line : String) : LineUse :=
  match g.classifier.classify line with
  | none => if Text.isBlankText line.toList then .blank else .unrecognized line
  | some s =>
    if s.kind = .freeFunction && g.config.isPrivateScope s.name then .privateMember s.name
    else if s.kind = .freeFunction && g.config.excludesFunction s.name then .debugFunction s.name
    else .kept s

/-- What becomes of each line of a listing. -/
def lineUses (g : Generator) (l : Listing) : List LineUse := l.lines.map g.lineUse

/-- The symbols that are checked, in listing order. -/
def symbols (g : Generator) (l : Listing) : List Symbol := (g.lineUses l).filterMap LineUse.symbol?

/-- The headers of the program. -/
def includeList (g : Generator) : IncludeList :=
  IncludeList.ofPaths g.config.profile.excludesForwardHeaders g.config.headers

/-- What the lines of a listing come to, read one after the other. -/
def tally (g : Generator) (l : Listing) : Tally := (g.lineUses l).foldl (Tally.addLine g.rules) {}

/-- The program for a listing. -/
def program (g : Generator) (l : Listing) : Program where
  includes := g.includeList.includes
  objects := (g.tally l).objects.toList
  functions := (g.tally l).functionRows.toList
  singletons := (g.tally l).singletonRows.toList

/-- The report on a listing. -/
def report (g : Generator) (l : Listing) : Report where
  lines := l.size
  blankLines := (g.tally l).blankLines
  skippedLines := (g.tally l).skippedLines
  classes := (g.tally l).classes
  templates := (g.tally l).templates
  functions := (g.tally l).functions
  singletons := (g.tally l).singletons
  tableRows := (g.program l).table.length
  debugFiltered := (g.tally l).debugFiltered
  privateSkipped := (g.tally l).privateSkipped
  duplicateObjects := (g.tally l).duplicateObjects.toList
  headersIncluded := g.includeList.includes.length
  headersExcluded := g.includeList.excluded.length

end Generator

end SymbolProbe

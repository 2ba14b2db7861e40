import SymbolProbe.Generation
import SymbolProbe.Text.Quoted

/-!
# Events

A run leaves a log. It tells which lines and headers were passed over, warns of test functions that
stand in the program more than once, and sums up what was generated. Names of symbols are logged as
they are, texts of listings and headers between quotes.
-/

namespace SymbolProbe

/-- How much an event matters. -/
inductive LogLevel
  | debug
  | info
  | warn
deriving DecidableEq, Repr

/-- The name of a level in the log. -/
def LogLevel.name : LogLevel → String
  | .debug => "DEBUG"
  | .info => "INFO"
  | .warn => "WARN"

/-- The place of a level in their order: a greater one matters more. -/
def LogLevel.rank : LogLevel → Nat
  | .debug => 0
  | .info => 1
  | .warn => 2

/-- What is told about a run. -/
inductive Event
  /-- A rule file is merged; its entries are counted. -/
  | ruleFileMerged (classes templates functions patterns : Nat)
  | listingLoaded (path : String) (lines : Nat)
  /-- The namespace of the configuration is not that of the rule set. -/
  | scopeDiffers (configured rules : String)
  | namelessHeaderSkipped (path : String)
  | forwardHeaderSkipped (name : String)
  | lineSkipped (line : Nat) (text : String)
  | privateMemberSkipped (line : Nat) (name : String)
  | debugFunctionSkipped (line : Nat) (name : String)
  /-- The test function of a class or template stands in the program already. -/
  | testRepeated (line : Nat) (name : String)
  | programGenerated (scope : String) (profile : Profile) (report : Report)
deriving DecidableEq, Repr

namespace Event

/-! ### Text -/

/-- How much an event matters. -/
def level : Event → LogLevel
  | .scopeDiffers .. | .testRepeated .. => .warn
  | .programGenerated .. => .info
  | _ => .debug

/-- The part of the program that an event is about. -/
def source : Event → String
  | .ruleFileMerged .. => "symcheck::rules"
  | .listingLoaded .. => "symcheck::listing"
  | .namelessHeaderSkipped _ | .forwardHeaderSkipped _ => "symcheck::headers"
  | _ => "symcheck::generator"

/-- What happened. -/
def message : Event → String
  | .ruleFileMerged .. => "merging rule file"
  | .listingLoaded .. => "loaded symbol listing"
  | .scopeDiffers .. => "namespace differs from rule set, using the rule set's"
  | .namelessHeaderSkipped _ => "header path has no file name, skipping"
  | .forwardHeaderSkipped _ => "skipping forward-declaration header"
  | .lineSkipped .. => "skipping unrecognized line"
  | .privateMemberSkipped .. => "skipping private namespace member"
  | .debugFunctionSkipped .. => "debug symbols disabled, skipping"
  | .testRepeated .. => "duplicate test function, generated program will not compile"
  | .programGenerated .. => "generated symbol test program"

/-- A number in the log. -/
def number (name : String) (n : Nat) : String × String := (name, toString n)

/-- What it happened to: names and what they stand for. -/
def fields : Event → List (String × String)
  | .ruleFileMerged classes templates functions patterns =>
    [number "classes" classes, number "templates" templates, number "functions" functions,
      number "patterns" patterns]
  | .listingLoaded path lines => [("path", path), number "lines" lines]
  | .scopeDiffers configured rules => [("configured", configured), ("rules", Text.quoted rules)]
  | .namelessHeaderSkipped path => [("path", Text.quoted path)]
  | .forwardHeaderSkipped name => [("header", Text.quoted name)]
  | .lineSkipped line text => [number "line" line, ("text", Text.quoted text)]
  | .privateMemberSkipped line name => [number "line" line, ("name", name)]
  | .debugFunctionSkipped line name => [number "line" line, ("name", name)]
  | .testRepeated line name => [number "line" line, ("name", name)]
  | .programGenerated scope profile r =>
    [("namespace", Text.quoted scope), ("profile", profile.name), number "classes" r.classes,
      number "templates" r.templates, number "functions" r.functions,
      number "singletons" r.singletons, number "table_rows" r.tableRows,
      number "skipped" r.skippedLines]

/-- The line of the log for an event. -/
def text (e : Event) : String :=
  e.level.name ++ " " ++ e.source ++ ": " ++ e.message ++
    String.join (e.fields.map fun f => " " ++ f.1 ++ "=" ++ f.2) ++ "\n"

/-! ### Events of a run -/

/-- The event of a header path. -/
def ofHeader? : HeaderUse → Option Event
  | .included _ => none
  | .noFileName path => some (.namelessHeaderSkipped path)
  | .forward _ name => some (.forwardHeaderSkipped name)

/-- The event of a line, given its number and the names of the objects in front of it. -/
def ofLine? (seen : List String) (line : Nat) : LineUse → Option Event
  | .blank => none
  | .unrecognized text => some (.lineSkipped line text)
  | .privateMember name => some (.privateMemberSkipped line name)
  | .debugFunction name => some (.debugFunctionSkipped line name)
  | .kept s =>
    if s.kind.isObject && seen.contains s.name then some (.testRepeated line s.name) else none

end Event

/-- The name of the object that a line contributes. -/
def LineUse.objectName? : LineUse → Option String
  | .kept s => if s.kind.isObject then some s.name else none
  | _ => none

/-- The events of numbered lines, given the names of the objects in front of them. -/
def lineEvents (seen : List String) : List (LineUse × Nat) → List Event
  | [] => []
  | (u, line) :: us =>
    (Event.ofLine? seen line u).toList ++ lineEvents (u.objectName?.toList ++ seen) us

namespace Generator

/-- The events of making a generator. -/
def setupEvents (g : Generator) : List Event :=
  if g.config.scope = g.rules.scope then [] else [.scopeDiffers g.config.scope g.rules.scope]

/-- The events of a run: those of the headers, those of the lines, and the summary. -/
def events (g : Generator) (l : Listing) : List Event :=
  (g.config.headers.map (HeaderUse.ofPath g.config.profile.excludesForwardHeaders)).filterMap
      Event.ofHeader? ++
    lineEvents [] ((g.lineUses l).zipIdx 1) ++
    [.programGenerated g.rules.scope g.config.profile (g.report l)]

end Generator

end SymbolProbe

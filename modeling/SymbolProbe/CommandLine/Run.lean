import SymbolProbe.CommandLine.Summary
import SymbolProbe.Failure
import SymbolProbe.File.Tree

/-!
# Runs

A run reads the rules and the listing, generates the program, and writes it to a file or to the
standard output. It stops at the first stage that fails: reading the rule file, reading its rules,
compiling its patterns, reading the listing, writing the program. Nothing is written before the
last stage.
-/

namespace SymbolProbe.CommandLine

/-- Why a run stops. -/
inductive Stop
  /-- The rules or the listing cannot be loaded. -/
  | unloaded (f : Failure)
  /-- The rule file at a path has a text among its patterns that is none. -/
  | unmerged (path pattern : String)
  /-- The program cannot be written to a file. -/
  | unwritten (path : String) (fault : FileFault)
  /-- The standard output refuses the program. -/
  | unprinted (fault : FileFault)
deriving DecidableEq, Repr

namespace Stop

/-- What failed. -/
def subject : Stop → String
  | .unloaded f => f.subject
  | .unmerged path pattern =>
    "Invalid rules in '" ++ path ++ "': " ++ (Failure.patternRejected pattern).subject
  | .unwritten path _ => "Cannot write '" ++ path ++ "': "
  | .unprinted _ => "Cannot write to stdout: "

/-- Why it failed. The fault of a file that is loaded is told twice: as the cause, and as the cause
of the cause. -/
def detail : Stop → String
  | .unloaded f => f.detail ++ ((f.fileFault?.map fun fault => ": " ++ fault.message).getD "")
  | .unmerged _ pattern => (Failure.patternRejected pattern).detail
  | .unwritten _ fault => fault.message
  | .unprinted fault => fault.message

/-- Whether the cause lies in what a file says, and not in the file. -/
def isContent : Stop → Bool
  | .unloaded f => f.fileFault?.isNone
  | .unmerged .. => true
  | .unwritten .. | .unprinted _ => false

/-- The start of what is shown of a stop. -/
def heading (s : Stop) (isStyled : Bool) : String :=
  Text.Style.boldRed.apply isStyled "error" ++ ": " ++ s.subject

/-- What is shown of a stop. -/
def shown (s : Stop) (isStyled : Bool) : String := s.heading isStyled ++ s.detail

end Stop

/-- A program and the report on it. -/
structure Product where
  source : String
  report : Report
deriving DecidableEq, Repr

/-- A stage of a run. It may stop the run, and it leaves events. -/
abbrev Stage := ExceptT Stop (StateM (List Event))

namespace Stage

/-- Leave events. -/
def log (es : List Event) : Stage Unit := modify (· ++ es)

/-- Go on with what was loaded. -/
def load {α : Type} : Except Failure α → Stage α
  | .ok a => return a
  | .error f => throw (.unloaded f)

end Stage

/-- The event of merging a rule file. -/
def mergeEvent (f : RuleFile) : Event :=
  .ruleFileMerged f.classes.size f.templates.size f.functions.size f.patterns.length

namespace Invocation

/-- The rules of a run: the built-in ones, and the rule file over them if there is one. -/
def loadRules (i : Invocation) (read : FileReader) : Stage RuleSet := do
  let builtin := RuleSet.builtin i.config.scope
  match i.rules with
  | none => return builtin
  | some path =>
    let f ← Stage.load (RuleFile.load read path)
    Stage.log [mergeEvent f]
    let m := builtin.merge f
    match m.rejected with
    | some pattern => throw (.unmerged path pattern)
    | none => return m.rules

/-- The listing of a run. -/
def loadListing (i : Invocation) (read : FileReader) : Stage Listing := do
  let l ← Stage.load (Listing.load read i.listing)
  Stage.log [.listingLoaded i.listing l.size]
  return l

/-- All stages of a run but the last. -/
def generate (i : Invocation) (read : FileReader) : Stage Product := do
  let rules ← i.loadRules read
  let l ← i.loadListing read
  let g : Generator := ⟨i.config, rules⟩
  Stage.log (g.setupEvents ++ g.events l)
  return ⟨(g.program l).source, g.report l⟩

end Invocation

/-! ### Outcomes -/

/-- What a run leaves besides files. -/
structure Outcome where
  exitCode : Nat
  output : String := ""
  events : List Event := []
  stop : Option Stop := none
  report : Option (Report × ReportFormat) := none
deriving DecidableEq, Repr

namespace Outcome

/-- The text of the version. -/
def versionText : String := "symcheck 0.1.0\n"

/-- The text of the help. -/
def helpText : String :=
  "Generate a C++ symbol presence/linkage smoke test from a symbol listing\n\n" ++
  "Usage: symcheck [OPTIONS] <LISTING> [DEBUG|HEADER]...\n"

/-- A run that stopped. -/
def stopped (i : Invocation) (c : Console) (events : List Event) (s : Stop) : Outcome where
  exitCode := 1
  events := events.filter (c.log.shows i.logLevel)
  stop := some s

/-- A run that went through. The program is the output if it was not written to a file. -/
def finished (i : Invocation) (c : Console) (events : List Event) (p : Product) : Outcome where
  exitCode := 0
  output := if i.output.isNone then p.source else ""
  events := events.filter (c.log.shows i.logLevel)
  report := i.report.map fun format => (p.report, format)

/-- The log of a run. -/
def log (o : Outcome) : String := String.join (o.events.map Event.text)

/-- What is shown at the end of a run: the stop or the report. -/
def notice (o : Outcome) (isStyled : Bool) : String :=
  match o.stop, o.report with
  | some s, _ => s.shown isStyled ++ "\n"
  | none, some (r, format) => String.join ((r.shown isStyled format).map (· ++ "\n"))
  | none, none => ""

end Outcome

/-! ### Execution -/

/-- Hand over a program: put it out, or write it to a file of the tree. -/
def Invocation.deliver (i : Invocation) (c : Console) (t : FileTree) (source : String) :
    Except Stop FileTree :=
  match i.output with
  | none =>
    match c.refusal? source with
    | some fault => .error (.unprinted fault)
    | none => .ok t
  | some path => (t.write path source).mapError (.unwritten path)

/-- Carry out an invocation on a file tree. -/
def Invocation.execute (i : Invocation) (c : Console) (t : FileTree) : Outcome × FileTree :=
  match (i.generate t.read).run [] with
  | (.error s, events) => (.stopped i c events s, t)
  | (.ok p, events) =>
    match i.deliver c t p.source with
    | .error s => (.stopped i c events s, t)
    | .ok u => (.finished i c events p, u)

/-- Carry out a command line in an environment on a file tree. A request for the version or the help
goes through even if the standard output refuses the answer. -/
def execute (words : List String) (env : Environment) (t : FileTree) : Outcome × FileTree :=
  match Request.ofWords words env with
  | .run i => i.execute env.console t
  | .version => ({ exitCode := 0, output := env.console.taken Outcome.versionText }, t)
  | .help => ({ exitCode := 0, output := env.console.taken Outcome.helpText }, t)
  | .misuse => ({ exitCode := 2 }, t)

end SymbolProbe.CommandLine

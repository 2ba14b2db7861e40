import SymbolProbe.CommandLine.Argument
import SymbolProbe.CommandLine.Console

/-!
# Invocations

What the arguments of a command line ask for, together with the environment, which stands in for
options that are not given. An option is given at most once, and its value has to make sense. The
first argument that is wrong, or that asks for help or for the version, decides.
-/

namespace SymbolProbe.CommandLine

/-- How a report is written. -/
inductive ReportFormat
  | text
  | json
deriving DecidableEq, Repr

/-- The format of a name. -/
def ReportFormat.ofName? : String → Option ReportFormat
  | "text" => some .text
  | "json" => some .json
  | _ => none

/-- The number that a text writes in 64 bits, perhaps behind a plus sign. -/
def wordOfText? (text : String) : Option Nat :=
  let digits := match text.toList with
    | '+' :: t => t
    | t => t
  if digits.isEmpty || !digits.all Char.isDigit then none
  else
    let n := digits.foldl (fun n c => n * 10 + (c.toNat - 48)) 0
    if n < UInt64.size then some n else none

/-- Whether an option takes a value. Paths are not empty. -/
def Setting.accepts : Setting → String → Bool
  | .profile, v => (Profile.ofName? v).isSome
  | .debugSymbols, _ => true
  | .scope, _ => true
  | .rules, v => v != ""
  | .maxSingletonLength, v => (wordOfText? v).isSome
  | .output, v => v != ""
  | .report, v => (ReportFormat.ofName? v).isSome

/-- What surrounds a run: the variables that stand in for options, and the console. -/
structure Environment where
  debugSymbols : Option String := none
  scope : Option String := none
  rules : Option String := none
  console : Console := {}

/-- The value of an option in the environment. -/
def Environment.value? (env : Environment) : Setting → Option String
  | .debugSymbols => env.debugSymbols
  | .scope => env.scope
  | .rules => env.rules
  | _ => none

/-- What was read of the arguments. -/
structure Draft where
  positionals : List String := []
  settings : List (Setting × String) := []
  isVerbose : Bool := false
deriving DecidableEq, Repr

/-- A run of the program as it was asked for. -/
structure Invocation where
  listing : String
  config : Config
  rules : Option String
  output : Option String
  report : Option ReportFormat
  isVerbose : Bool
deriving DecidableEq, Repr

/-- The level that a run asks the log for. -/
def Invocation.logLevel (i : Invocation) : LogLevel := if i.isVerbose then .debug else .warn

/-- What a command line asks for. -/
inductive Request
  | run (i : Invocation)
  | version
  | help
  /-- The arguments make no sense. -/
  | misuse
deriving DecidableEq, Repr

namespace Draft

/-- Read one more argument, or decide without the others. The first positional argument is the path
of the listing. -/
def add (d : Draft) : Argument → Except Request Draft
  | .positional text =>
    if d.positionals.isEmpty && text == "" then .error .misuse
    else .ok { d with positionals := d.positionals ++ [text] }
  | .setting s value =>
    if (d.settings.lookup s).isSome || !s.accepts value then .error .misuse
    else .ok { d with settings := d.settings ++ [(s, value)] }
  | .flag .verbose => if d.isVerbose then .error .misuse else .ok { d with isVerbose := true }
  | .flag .version => .error .version
  | .flag .help => .error .help
  | .unknown _ => .error .misuse

/-- The value of an option, which the environment may give. -/
def value? (d : Draft) (env : Environment) (s : Setting) : Option String :=
  (d.settings.lookup s).or (env.value? s)

/-- The configuration of a run with the given arguments behind the listing. -/
def config (d : Draft) (env : Environment) (args : List String) : Config :=
  let base : Config := {}
  let profile := ((d.value? env .profile).bind Profile.ofName?).getD base.profile
  let (flag, headers) := splitArguments profile (d.value? env .debugSymbols) args
  { base with
    scope := (d.value? env .scope).getD base.scope
    profile := profile
    debugSymbols := flag
    headers := headers
    maxSingletonLength :=
      ((d.value? env .maxSingletonLength).bind wordOfText?).getD base.maxSingletonLength }

/-- What the arguments ask for. There has to be a listing, and the values of the environment have to
make sense too. -/
def request (d : Draft) (env : Environment) : Request :=
  match d.positionals with
  | [] => .misuse
  | listing :: args =>
    if (d.value? env .rules).any fun v => !Setting.accepts .rules v then .misuse
    else .run {
      listing := listing
      config := d.config env args
      rules := d.value? env .rules
      output := d.value? env .output
      report := (d.value? env .report).bind ReportFormat.ofName?
      isVerbose := d.isVerbose }

end Draft

/-- What a command line asks for in an environment. -/
def Request.ofWords (words : List String) (env : Environment) : Request :=
  match (Argument.ofWords words).foldlM Draft.add {} with
  | .ok d => d.request env
  | .error r => r

end SymbolProbe.CommandLine

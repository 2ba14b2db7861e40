import SymbolProbe.CommandLine.Run

/-!
# The program

Reads what a run needs from the real files, lets the library decide what comes of it, and writes
that.
-/

namespace SymbolProbe.Main

open CommandLine

/-- The fault behind an error of the system. -/
def fault (e : IO.Error) : FileFault :=
  match e with
  | .noFileOrDirectory .. => .notFound
  | .inappropriateType _ code _ => ofCode code
  | e => .other (toString e)
where
  /-- The fault with a number of the system, whose sign may be turned. -/
  ofCode (code : UInt32) : FileFault :=
    if code = 20 || code = -20 then .notDirectory
    else if code = 21 || code = -21 then .isDirectory
    else .other (toString e)

/-- The text of a file. -/
def read (path : String) : IO (Except FileFault String) := do
  try return (FileEntry.ofBytes (← IO.FS.readBinFile path)).text?
  catch e => return .error (fault e)

/-- Write the text of a file. -/
def write (path text : String) : IO (Except FileFault Unit) := do
  try return .ok (← IO.FS.writeFile path text)
  catch e => return .error (fault e)

/-- Put a text out, and see that it gets there. -/
def print (text : String) : IO (Except FileFault Unit) := do
  try
    IO.print text
    (← IO.getStdout).flush
    return .ok ()
  catch e => return .error (fault e)

/-- The variables of the environment. What the standard output refuses is seen when it is used. -/
def environment : IO Environment := do
  let directives := LogDirective.listOfText ((← IO.getEnv "RUST_LOG").getD "")
  return {
    debugSymbols := ← IO.getEnv "SYMCHECK_DEBUG_SYMBOLS"
    scope := ← IO.getEnv "SYMCHECK_NAMESPACE"
    rules := ← IO.getEnv "SYMCHECK_RULES"
    console := { log := .ofDirectives directives } }

/-- Carry out an invocation on the real files. -/
def execute (i : Invocation) (c : Console) : IO Outcome := do
  let rules ← match i.rules with
    | none => pure none
    | some path => do pure (some (← read path))
  let listing ← read i.listing
  let reader : FileReader := fun path =>
    match rules with
    | some text => if i.rules = some path then text else listing
    | none => listing
  match (i.generate reader).run [] with
  | (.error s, events) => return .stopped i c events s
  | (.ok p, events) =>
    let delivered : Except Stop Unit ← match i.output with
      | none => do pure ((← print p.source).mapError .unprinted)
      | some path => do pure ((← write path p.source).mapError (.unwritten path))
    match delivered with
    | .error s => return .stopped i c events s
    | .ok () => return .finished i c events p

/-- Put out a text about the program itself. It does not matter whether it gets there. -/
def tell (text : String) : IO Outcome := do
  match ← print text with
  | .ok () => return { exitCode := 0, output := text }
  | .error _ => return { exitCode := 0 }

/-- What is said of arguments that make no sense. -/
def usageHint : String := "error: invalid arguments\n\n" ++ Outcome.helpText

/-- What comes of a command line. -/
def outcome (words : List String) : IO Outcome := do
  let env ← environment
  match Request.ofWords words env with
  | .run i => execute i env.console
  | .version => tell Outcome.versionText
  | .help => tell Outcome.helpText
  | .misuse => return { exitCode := 2 }

end SymbolProbe.Main

open SymbolProbe in
/-- Run the program. -/
def main (words : List String) : IO UInt32 := do
  let o ← Main.outcome words
  let isStyled ← (← IO.getStderr).isTty
  IO.eprint (o.log ++ o.notice isStyled)
  if o.exitCode = 2 then IO.eprint Main.usageHint
  return UInt32.ofNat o.exitCode

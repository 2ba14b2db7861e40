import SymbolProbe.Text.Affix

/-!
# Configuration

What a run is asked to do besides its listing and its rules: the namespace, the profile with its
filters, the debug flag, the headers, and the names that are namespaces and no functions.
-/

namespace SymbolProbe

/-! ### Profiles -/

/-- Which optional filters a run applies. -/
inductive Profile
  /-- Debug functions are dropped unless they are enabled, and forward headers are left out. -/
  | filtered
  /-- Everything that names a symbol is kept. -/
  | plain
deriving DecidableEq, Repr, Inhabited

namespace Profile

/-- The name of a profile. -/
def name : Profile → String
  | .filtered => "filtered"
  | .plain => "plain"

/-- The profile of a name. -/
def ofName? : String → Option Profile
  | "filtered" => some .filtered
  | "plain" => some .plain
  | _ => none

/-- What is said of a text that names no profile. -/
def unknownText (text : String) : String :=
  "unknown profile '" ++ text ++ "', expected 'filtered' or 'plain'"

/-- Whether debug functions may be dropped. -/
def filtersDebugSymbols : Profile → Bool
  | .filtered => true
  | .plain => false

/-- Whether forward headers are left out. -/
def excludesForwardHeaders : Profile → Bool
  | .filtered => true
  | .plain => false

end Profile

/-! ### Configurations -/

/-- The text in a function's name that marks it as a debug function. -/
def debugMarker : List Char := ['d', 'e', 'b', 'u', 'g']

/-- The only debug flag that keeps debug functions. -/
def debugEnabledFlag : String := "true"

/-- The debug flag when none is given. -/
def defaultDebugFlag : String := "false"

/-- The settings of a run. -/
structure Config where
  scope : String := "pwx"
  profile : Profile := .filtered
  /-- The debug flag as it was given. -/
  debugSymbols : String := defaultDebugFlag
  /-- The header paths as they were given. -/
  headers : List String := []
  /-- Names of namespaces inside the library that look like functions. -/
  privateScopes : List String := ["private_"]
  maxSingletonLength : Nat := 3
deriving DecidableEq, Repr, Inhabited

namespace Config

/-- Whether debug functions are enabled. -/
def debugEnabled (c : Config) : Bool := c.debugSymbols == debugEnabledFlag

/-- Whether a free function is dropped as a debug function. -/
def excludesFunction (c : Config) (name : String) : Bool :=
  c.profile.filtersDebugSymbols && !c.debugEnabled && Text.occursIn debugMarker name.toList

/-- Whether a name is a namespace inside the library. -/
def isPrivateScope (c : Config) (name : String) : Bool := c.privateScopes.contains name

end Config

/-! ### The debug flag among the arguments -/

/-- Split the arguments behind the listing into the debug flag and the headers. A flag that was
given by other means leaves them all to the headers; otherwise the filtered profile takes the first
one for the flag, and the plain profile takes none. -/
def splitArguments (profile : Profile) (flag : Option String) (args : List String) :
    String × List String :=
  match profile, flag, args with
  | _, some f, args => (f, args)
  | .filtered, none, f :: headers => (f, headers)
  | _, none, args => (defaultDebugFlag, args)

end SymbolProbe

import SymbolProbe.Text.Affix

/-!
# Headers

The generated program includes headers by file name only, since it is compiled with the library's
include directory on the search path. A path is left out when it names no file, or when forward
headers are excluded and its file name marks a forward header.
-/

namespace SymbolProbe

/-- The text in a file name that marks a header of forward declarations. -/
def forwardMarker : List Char := ['f', 'w', 'd']

/-- The part of a path behind its last slash. -/
def baseName (path : List Char) : List Char := (path.reverse.takeWhile (· != '/')).reverse

/-- What becomes of one header path. -/
inductive HeaderUse
  /-- The file of this name is included. -/
  | included (name : String)
  /-- The path names no file. -/
  | noFileName (path : String)
  /-- The file of this name holds forward declarations. -/
  | forward (path name : String)
deriving DecidableEq, Repr

namespace HeaderUse

/-- How a header path is used. -/
def ofPath (excludeForward : Bool) (path : String) : HeaderUse :=
  let name := baseName path.toList
  if name.isEmpty then .noFileName path
  else if excludeForward && Text.occursIn forwardMarker name then
    .forward path (String.ofList name)
  else .included (String.ofList name)

/-- The included file name, if there is one. -/
def include? : HeaderUse → Option String
  | .included name => some name
  | _ => none

/-- The path that was left out, if it was. -/
def excluded? : HeaderUse → Option String
  | .included _ => none
  | .noFileName path => some path
  | .forward path _ => some path

end HeaderUse

/-- The headers of a generated program: the file names it includes and the paths left out. -/
structure IncludeList where
  includes : List String
  excluded : List String
deriving DecidableEq, Repr

namespace IncludeList

/-- Reduce header paths to file names, with or without the forward headers. -/
def ofPaths (excludeForward : Bool) (paths : List String) : IncludeList where
  includes := (paths.map (HeaderUse.ofPath excludeForward)).filterMap HeaderUse.include?
  excluded := (paths.map (HeaderUse.ofPath excludeForward)).filterMap HeaderUse.excluded?

/-- The directive that includes a file. -/
def directive (name : String) : String := "#include \"" ++ name ++ "\""

/-- One directive per included file. -/
def directives (l : IncludeList) : List String := l.includes.map directive

end IncludeList

end SymbolProbe

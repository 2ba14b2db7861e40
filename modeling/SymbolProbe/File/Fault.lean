/-!
# Faults of files

Why a file cannot be read or written.
-/

namespace SymbolProbe

/-- Why a file cannot be read or written. -/
inductive FileFault
  | notFound
  | notDirectory
  | isDirectory
  /-- The file holds bytes that are no text. -/
  | notText
  /-- Any other fault, as it is reported. -/
  | other (text : String)
deriving DecidableEq, Repr

namespace FileFault

/-- What is said of a fault. -/
def message : FileFault → String
  | .notFound => "No such file or directory (os error 2)"
  | .notDirectory => "Not a directory (os error 20)"
  | .isDirectory => "Is a directory (os error 21)"
  | .notText => "stream did not contain valid UTF-8"
  | .other text => text

end FileFault

/-- A way to read files: the text at a path, or why there is none. -/
abbrev FileReader := String → Except FileFault String

end SymbolProbe

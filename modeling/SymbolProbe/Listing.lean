import SymbolProbe.Text.Line

/-!
# Symbol listings

A listing names one qualified symbol per line. Its lines are kept as they stand and in order; what
they mean is decided in `SymbolProbe.Symbol.Classifier`.
-/

namespace SymbolProbe

/-- The lines of a listing, and the path it was read from if it came from a file. -/
structure Listing where
  lines : List String
  origin : Option String := none
deriving DecidableEq, Repr

namespace Listing

/-- The listing written in a text. -/
def ofText (text : String) : Listing where
  lines := (Text.lines text.toList).map String.ofList

/-- The number of lines. -/
def size (l : Listing) : Nat := l.lines.length

/-- The lines with their numbers, from one. -/
def numbered (l : Listing) : List (Nat × String) :=
  (l.lines.zipIdx 1).map fun p => (p.2, p.1)

@[simp] theorem size_mk (ls : List String) (o : Option String) :
    size ⟨ls, o⟩ = ls.length := rfl

theorem lines_ofText (text : String) :
    (ofText text).lines = (Text.lines text.toList).map String.ofList := rfl

end Listing

end SymbolProbe

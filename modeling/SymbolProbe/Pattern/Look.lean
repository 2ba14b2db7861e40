import SymbolProbe.Unicode.CodeSet

/-!
# Conditions on a place

A condition looks at the characters around a place of a text: at an end of the text or of a line, or
at the edge of a word.
-/

namespace SymbolProbe.Pattern

open Unicode (CodeSet)

/-- How a place lies to a word around it. -/
inductive WordEdge
  /-- A word starts or ends here. -/
  | boundary
  /-- No word starts or ends here. -/
  | interior
  /-- A word starts here. -/
  | opening
  /-- A word ends here. -/
  | closing
  /-- No word character stands in front. -/
  | openingHalf
  /-- No word character follows. -/
  | closingHalf
deriving DecidableEq, Repr

/-- Whether a place between two characters lies so, given which of them are word characters. -/
def WordEdge.holds (before after : Bool) : WordEdge → Bool
  | .boundary => before != after
  | .interior => before == after
  | .opening => !before && after
  | .closing => before && !after
  | .openingHalf => !before
  | .closingHalf => !after

/-- A condition on the characters around a place. -/
inductive Look
  | textStart
  | textEnd
  /-- The text starts here or a line feed stands in front. -/
  | lineStart
  /-- The text ends here or a line feed follows. -/
  | lineEnd
  /-- As `lineStart`, where a carriage return ends a line too and the pair of both is one end. -/
  | lineStartEither
  /-- As `lineEnd`, where a carriage return ends a line too and the pair of both is one end. -/
  | lineEndEither
  /-- A word edge, for the given set of word characters. -/
  | word (letters : CodeSet) (edge : WordEdge)
deriving DecidableEq, Repr

/-- Whether the condition holds between two characters, `none` being an end of the text. -/
def Look.holds (before after : Option Char) : Look → Bool
  | .textStart => before.isNone
  | .textEnd => after.isNone
  | .lineStart => before.all (· == '\n')
  | .lineEnd => after.all (· == '\n')
  | .lineStartEither => before.all fun c => c == '\n' || (c == '\r' && after != some '\n')
  | .lineEndEither => after.all fun c => c == '\r' || (c == '\n' && before != some '\r')
  | .word letters edge => edge.holds (before.any letters.contains) (after.any letters.contains)

end SymbolProbe.Pattern

import SymbolProbe.Yaml.Cursor

/-!
# Gaps in scalars

A gap is a row of blanks and breaks between two words of a scalar. A gap inside a line is kept; one
that holds a break is folded.
-/

namespace SymbolProbe.Yaml

/-- The breaks of a gap. -/
def gapBreaks (gap : List Char) : List Char := gap.filter isBreak

/-- The text that a gap stands for. A lone line feed counts as a space; of several breaks, the
first is dropped if it is a line feed. -/
def gapText (gap : List Char) : List Char :=
  match gapBreaks gap with
  | [] => gap
  | ['\n'] => [' ']
  | '\n' :: more => more
  | breaks => breaks

/-- Whether a further line of the gap has a tab left of the margin. The column is not counted on
the first line. -/
def hasTabLeftOf (margin : Int) : Option Nat → List Char → Bool
  | _, [] => false
  | column, c :: gap =>
    if isBreak c then hasTabLeftOf margin (some 0) gap
    else match column with
      | none => hasTabLeftOf margin none gap
      | some n => (c == '\t' && n < margin) || hasTabLeftOf margin (some (n + 1)) gap

example : gapText " \t".toList = " \t".toList := by decide

example : gapText " \n  ".toList = " ".toList := by decide

example : gapText " \n \n\n ".toList = "\n\n".toList := by decide

end SymbolProbe.Yaml

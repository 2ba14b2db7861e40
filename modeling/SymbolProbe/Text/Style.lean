/-!
# Styled text

Text for a terminal. A style is a control sequence in front of the text, and another one behind it
ends the style.
-/

namespace SymbolProbe.Text

/-- How a text looks on a terminal. -/
inductive Style
  | boldRed
  | boldGreen
  | boldYellow
  | cyan
deriving DecidableEq, Repr

namespace Style

/-- The numbers that select a style. -/
def codes : Style → String
  | .boldRed => "1;31"
  | .boldGreen => "1;32"
  | .boldYellow => "1;33"
  | .cyan => "36"

/-- A text in a style, if styles are used at all. -/
def apply (s : Style) (isStyled : Bool) (text : String) : String :=
  if isStyled then "\x1b[" ++ s.codes ++ "m" ++ text ++ "\x1b[0m" else text

end Style

end SymbolProbe.Text

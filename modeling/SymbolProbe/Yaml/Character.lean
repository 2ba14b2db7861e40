/-!
# Characters of YAML

The characters that a YAML text may hold, and the classes by which it is cut into tokens. Line
breaks are made uniform before anything else is read.
-/

namespace SymbolProbe.Yaml

/-! ### Classes -/

/-- Whether a character may stand in a YAML text. -/
def isPrintable (c : Char) : Bool :=
  let n := c.toNat
  n == 0x09 || n == 0x0A || n == 0x0D || (0x20 ≤ n && n ≤ 0x7E) || n == 0x85 ||
    (0xA0 ≤ n && n ≤ 0xD7FF) || (0xE000 ≤ n && n ≤ 0xFFFD) || 0x10000 ≤ n

/-- The line feed, the line separator and the paragraph separator break a line. -/
def isBreak (c : Char) : Bool := c == '\n' || c.toNat == 0x2028 || c.toNat == 0x2029

/-- The space and the tab part the words of a line. -/
def isBlank (c : Char) : Bool := c == ' ' || c == '\t'

/-- Blanks and breaks part words. -/
def isGap (c : Char) : Bool := isBlank c || isBreak c

/-- Whether a text is at its end or starts with a gap. -/
def atGap : List Char → Bool
  | [] => true
  | c :: _ => isGap c

/-- Whether a text starts with a blank. -/
def atBlank (t : List Char) : Bool := t.head?.any isBlank

/-- The characters of anchors and tag handles. -/
def isWord (c : Char) : Bool := c.isAlphanum || c == '_' || c == '-'

/-- The characters that part the items of a flow collection. -/
def isFlowMark (c : Char) : Bool := c ∈ [',', '[', ']', '{', '}']

/-- The characters that start no plain scalar. Three of them do start one if a word follows. -/
def isIndicator (c : Char) : Bool :=
  isFlowMark c || c ∈ ['-', '?', ':', '#', '&', '*', '!', '|', '>', '\'', '"', '%', '@', '`']

/-- The characters of a tag. Those that part flow items stand only in some tags. -/
def isTagChar (withFlowMarks : Bool) (c : Char) : Bool :=
  isWord c || c ∈ [';', '/', '?', ':', '@', '&', '=', '+', '$', '.', '%', '!', '~', '*', '\'',
    '(', ')'] || (withFlowMarks && c ∈ [',', '[', ']'])

/-! ### Line breaks -/

/-- The text with a line feed for each carriage return, each pair of a carriage return and a line
feed, and each next-line character. -/
def uniformBreaks : List Char → List Char
  | [] => []
  | '\r' :: '\n' :: t => '\n' :: uniformBreaks t
  | c :: t => (if c == '\r' || c.toNat == 0x85 then '\n' else c) :: uniformBreaks t

end SymbolProbe.Yaml

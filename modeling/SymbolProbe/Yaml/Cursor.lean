import SymbolProbe.Yaml.Character

/-!
# Places in a text

A cursor is what is left to read of a text, together with the place where that stands: lines and
columns matter to YAML.
-/

namespace SymbolProbe.Yaml

/-- A place in a text, counted from zero. -/
structure Place where
  /-- The number of octets in front of the place. -/
  index : Nat := 0
  line : Nat := 0
  column : Nat := 0
deriving DecidableEq, Repr, Inhabited

/-- The rest of a text and its place. -/
structure Cursor extends Place where
  rest : List Char
deriving DecidableEq, Repr, Inhabited

namespace Cursor

/-- The cursor at the start of a text. -/
def ofText (t : List Char) : Cursor where
  rest := t

/-- The cursor behind the next character. -/
def next (c : Cursor) : Cursor :=
  match c.rest with
  | [] => c
  | x :: t =>
    let index := c.index + x.utf8Size
    if isBreak x then { index := index, line := c.line + 1, column := 0, rest := t }
    else { index := index, line := c.line, column := c.column + 1, rest := t }

/-- The cursor behind the next `n` characters. -/
def skip : Nat → Cursor → Cursor
  | 0, c => c
  | n + 1, c => skip n c.next

/-- The longest row of characters of a class, and the cursor behind it. -/
def span (p : Char → Bool) (c : Cursor) : List Char × Cursor :=
  (c.rest.takeWhile p, c.skip (c.rest.takeWhile p).length)

/-- The cursor behind the longest row of characters of a class. -/
def skipWhile (p : Char → Bool) (c : Cursor) : Cursor := (c.span p).2

/-- The cursor behind the break that it stands at, if it does. -/
def skipBreak (c : Cursor) : Cursor := if c.rest.head?.any isBreak then c.next else c

/-- The cursor behind the comment that it stands at, if it does. -/
def skipComment (c : Cursor) : Cursor :=
  if c.rest.head? == some '#' then c.skipWhile (!isBreak ·) else c

/-- The cursor at the start of a line: where it stands, or below. -/
def endLine (c : Cursor) : Cursor :=
  if c.column = 0 then c else { c with line := c.line + 1, column := 0 }

/-- Whether a line starts here with three equal marks that start or end a document. -/
def atDocumentMark (c : Cursor) : Bool :=
  c.column == 0 && match c.rest with
    | '-' :: '-' :: '-' :: t => atGap t
    | '.' :: '.' :: '.' :: t => atGap t
    | _ => false

end Cursor

end SymbolProbe.Yaml

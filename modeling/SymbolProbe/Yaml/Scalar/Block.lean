import SymbolProbe.Yaml.Cursor

/-!
# Block scalars

A block scalar keeps the lines below its header, without their indentation. The header says whether
lines are kept or folded, what becomes of the breaks at the end, and perhaps how deep the lines are
indented; otherwise their first line shows it.
-/

namespace SymbolProbe.Yaml

/-! ### Headers -/

/-- What becomes of the breaks at the end of a block scalar. -/
inductive Chomping
  /-- One break is kept. -/
  | clip
  /-- No break is kept. -/
  | strip
  /-- All breaks are kept. -/
  | keep
deriving DecidableEq, Repr

/-- The header of a block scalar. The indentation is relative to the surrounding block. -/
structure BlockHeader where
  chomping : Chomping
  indent : Option Nat
deriving DecidableEq, Repr

/-- The chomping that is asked for at a cursor, and the cursor behind it. -/
def chomping? (c : Cursor) : Option Chomping × Cursor :=
  match c.rest with
  | '+' :: _ => (some .keep, c.next)
  | '-' :: _ => (some .strip, c.next)
  | _ => (none, c)

/-- The indentation that is given at a cursor, and the cursor behind it. Zero cannot be given. -/
def indentation? (c : Cursor) : Option (Option Nat × Cursor) :=
  match c.rest with
  | x :: _ =>
    if x == '0' then none
    else if x.isDigit then some (some (x.toNat - 48), c.next)
    else some (none, c)
  | [] => some (none, c)

/-- The header at a cursor, and the cursor behind it. The chomping may stand on either side of the
indentation. -/
def blockHeader? (c : Cursor) : Option (BlockHeader × Cursor) := do
  let (front, c) := chomping? c
  let (indent, c) ← indentation? c
  let (back, c) := if front.isSome || indent.isNone then (none, c) else chomping? c
  pure (⟨(front.or back).getD .clip, indent⟩, c)

/-! ### Lines -/

/-- The empty lines of a block scalar: their breaks, and the cursor at the first line with text. -/
structure EmptyLines where
  breaks : List Char
  /-- The greatest column that was reached. -/
  widest : Nat
  after : Cursor
deriving DecidableEq, Repr

/-- Read empty lines. Spaces count as indentation as far as the known indentation goes; a tab must
not stand in it. -/
def emptyLines? (indent : Option Nat) : Nat → EmptyLines → Option EmptyLines
  | 0, l => some l
  | n + 1, l =>
    let spaces := (l.after.rest.takeWhile (· == ' ')).length
    let c := l.after.skip (match indent with
      | none => spaces
      | some i => min spaces (i - l.after.column))
    let widest := max l.widest c.column
    match c.rest with
    | [] => some { l with widest := widest, after := c }
    | x :: _ =>
      if x == '\t' && indent.all (c.column < ·) then none
      else if isBreak x then emptyLines? indent n ⟨l.breaks ++ [x], widest, c.next⟩
      else some { l with widest := widest, after := c }

/-- The breaks that are still to be written in front of the next line: the one behind the last
line, and those of the empty lines after it. -/
structure PendingBreaks where
  first : List Char := []
  others : List Char := []
deriving DecidableEq, Repr

/-- The text between two lines. A folded line feed between two lines that start with words counts
as a space, or as nothing if empty lines follow it. -/
def PendingBreaks.text (p : PendingBreaks) (isFolded : Bool) : List Char :=
  if isFolded && p.first == ['\n'] then (if p.others.isEmpty then [' '] else p.others)
  else p.first ++ p.others

/-- Read the lines at an indentation, given the reversed text in front of the cursor. -/
def blockLines? (isLiteral : Bool) (indent : Nat) :
    Nat → List Char → PendingBreaks → Bool → Cursor → Option (List Char × PendingBreaks × Cursor)
  | 0, front, pending, _, c => some (front.reverse, pending, c)
  | n + 1, front, pending, startsBlank, c =>
    if c.column != indent || c.rest.isEmpty then some (front.reverse, pending, c)
    else
      let blank := atBlank c.rest
      let (line, c) := c.span (!isBreak ·)
      let gap := pending.text (!isLiteral && !startsBlank && !blank)
      let first := c.rest.take 1
      match emptyLines? (some indent) c.rest.length ⟨[], 0, c.skipBreak⟩ with
      | none => none
      | some l =>
        blockLines? isLiteral indent n (line.reverse ++ (gap.reverse ++ front)) ⟨first, l.breaks⟩
          blank l.after

/-- The breaks that chomping leaves at the end. -/
def PendingBreaks.chomped (p : PendingBreaks) : Chomping → List Char
  | .clip => p.first
  | .strip => []
  | .keep => p.first ++ p.others

/-- The text of the block scalar at a cursor, and the cursor behind it. The surrounding block has
the given indentation, which is negative at the top. -/
def blockScalar? (isLiteral : Bool) (outer : Int) (c : Cursor) :
    Option (List Char × Cursor) := do
  let (header, c) ← blockHeader? c.next
  let c := (c.skipWhile isBlank).skipComment
  if !(c.rest.isEmpty || c.rest.head?.any isBreak) then none
  let c := c.skipBreak
  let indent := header.indent.map fun i => if 0 ≤ outer then outer.toNat + i else i
  let l ← emptyLines? indent (c.rest.length + 1) ⟨[], 0, c⟩
  let indent := indent.getD (max l.widest (max (outer + 1).toNat 1))
  let (text, pending, c) ←
    blockLines? isLiteral indent l.after.rest.length [] ⟨[], l.breaks⟩ false l.after
  pure (text ++ pending.chomped header.chomping, c)

end SymbolProbe.Yaml

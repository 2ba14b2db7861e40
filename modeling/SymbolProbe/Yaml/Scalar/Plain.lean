import SymbolProbe.Yaml.Scalar.Gap

/-!
# Plain scalars

A plain scalar has no marks around it. It ends before a colon that a gap follows and before a
comment; in a flow collection also before the characters that part its items. It may go on over
further lines, which in block context have to be indented.
-/

namespace SymbolProbe.Yaml

/-- Whether a plain scalar starts here. -/
def startsPlain (inFlow : Bool) : List Char → Bool
  | [] => false
  | c :: t =>
    !(isGap c || isIndicator c) || (c == '-' && !atBlank t) ||
      (!inFlow && (c == '?' || c == ':') && !atGap t)

/-- The word of a plain scalar at the start of a text, which may be empty. In a flow collection a
colon must not run into the next mark. -/
def plainWord? (inFlow : Bool) : List Char → Option (List Char)
  | [] => some []
  | c :: t =>
    if isGap c then some []
    else if inFlow && c == ':' && t.head?.any (fun d => isFlowMark d || d == '?') then none
    else if c == ':' && atGap t then some []
    else if inFlow && isFlowMark c then some []
    else (plainWord? inFlow t).map (c :: ·)

/-- A plain scalar that was read: its text, whether a line ended behind it, and what follows. -/
structure PlainScalar where
  text : List Char
  endsLine : Bool
  after : Cursor
deriving DecidableEq, Repr

/-- The plain scalar whose first words are given, reversed, and the cursor behind these. The margin
is the least column at which it goes on. -/
def plainRest? (inFlow : Bool) (margin : Int) : Nat → List Char → Cursor → Option PlainScalar
  | 0, front, c => some ⟨front.reverse, false, c⟩
  | n + 1, front, c =>
    let (gap, after) := c.span isGap
    if gap.isEmpty then some ⟨front.reverse, false, c⟩
    else if hasTabLeftOf margin none gap then none
    else if (!inFlow && after.column < margin) || after.atDocumentMark ||
        after.rest.head? == some '#' then
      some ⟨front.reverse, gap.any isBreak, after⟩
    else
      match plainWord? inFlow after.rest with
      | none => none
      | some [] => some ⟨front.reverse, gap.any isBreak, after⟩
      | some word =>
        plainRest? inFlow margin n (word.reverse ++ ((gapText gap).reverse ++ front))
          (after.skip word.length)

/-- The plain scalar at a cursor. -/
def plainScalar? (inFlow : Bool) (margin : Int) (c : Cursor) : Option PlainScalar :=
  match plainWord? inFlow c.rest with
  | none => none
  | some word => plainRest? inFlow margin c.rest.length word.reverse (c.skip word.length)

end SymbolProbe.Yaml

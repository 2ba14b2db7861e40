import SymbolProbe.Text.Hex
import SymbolProbe.Yaml.Scalar.Gap

/-!
# Quoted scalars

Between single quotes only the quote itself is special: it is written twice. Between double quotes
a backslash starts an escape, and one at the end of a line joins the lines. Gaps are folded in
both.
-/

namespace SymbolProbe.Yaml

/-! ### Escapes -/

/-- The character that a letter behind a backslash stands for. -/
def escapedLetter? : Char → Option Char
  | '0' => some '\x00'
  | 'a' => some '\x07'
  | 'b' => some '\x08'
  | 't' | '\t' => some '\t'
  | 'n' => some '\n'
  | 'v' => some '\x0b'
  | 'f' => some '\x0c'
  | 'r' => some '\r'
  | 'e' => some '\x1b'
  | ' ' => some ' '
  | '"' => some '"'
  | '/' => some '/'
  | '\\' => some '\\'
  | 'N' => some '\u0085'
  | '_' => some '\u00a0'
  | 'L' => some '\u2028'
  | 'P' => some '\u2029'
  | _ => none

/-- The number of digits behind a letter that starts a numeric escape. -/
def escapeDigits? : Char → Option Nat
  | 'x' => some 2
  | 'u' => some 4
  | 'U' => some 8
  | _ => none

/-- The character of the escape whose text behind the backslash is given, and the length of that
text. -/
def escape? : List Char → Option (Char × Nat)
  | [] => none
  | c :: t =>
    match escapeDigits? c with
    | none => (escapedLetter? c).map (·, 1)
    | some n =>
      let digits := t.take n
      if digits.length < n then none
      else ((Text.Hex.value? digits).bind Text.charOfNat?).map (·, n + 1)

/-! ### Scalars -/

/-- The text of a quoted scalar and the cursor behind its closing quote, given the reversed text in
front of the cursor. -/
def quotedRest? (isDouble : Bool) : Nat → List Char → Cursor → Option (List Char × Cursor)
  | 0, _, _ => none
  | n + 1, front, c =>
    if c.atDocumentMark then none
    else match c.rest with
      | [] => none
      | '\'' :: t =>
        if isDouble then quotedRest? isDouble n ('\'' :: front) c.next
        else if t.head? == some '\'' then quotedRest? isDouble n ('\'' :: front) (c.skip 2)
        else some (front.reverse, c.next)
      | x :: t =>
        if isGap x then
          let (gap, after) := c.span isGap
          quotedRest? isDouble n ((gapText gap).reverse ++ front) after
        else if isDouble && x == '"' then some (front.reverse, c.next)
        else if isDouble && x == '\\' then
          if t.head?.any isBreak then
            let (gap, after) := (c.skip 2).span isGap
            quotedRest? isDouble n ((gapBreaks gap).reverse ++ front) after
          else match escape? t with
            | none => none
            | some (e, length) => quotedRest? isDouble n (e :: front) (c.skip (length + 1))
        else quotedRest? isDouble n (x :: front) c.next

/-- The text of the quoted scalar at a cursor, and the cursor behind it. -/
def quotedScalar? (isDouble : Bool) (c : Cursor) : Option (List Char × Cursor) :=
  quotedRest? isDouble c.rest.length [] c.next

end SymbolProbe.Yaml

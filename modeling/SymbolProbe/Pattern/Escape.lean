import SymbolProbe.Pattern.Tree
import SymbolProbe.Text.Blank

/-!
# Escapes

Everything that starts with a backslash, and the numbers inside a pattern. Each reader is given the
rest of the pattern and answers with what it read and with what is left, or with nothing when the
pattern is malformed. The first argument `x` tells whether the pattern is read in verbose mode, in
which blanks and comments between its parts do not count.
-/

namespace SymbolProbe.Pattern

/-! ### Gaps -/

/-- Drop blanks and comments; a comment ends with its line. -/
def dropGap (inComment : Bool) : List Char → List Char
  | [] => []
  | c :: cs =>
    if inComment then dropGap (c != '\n') cs
    else if Text.isBlank c then dropGap false cs
    else if c == '#' then dropGap true cs
    else c :: cs

/-- The rest of a pattern behind a gap, which only verbose mode has. -/
def behindGap (x : Bool) (cs : List Char) : List Char := if x then dropGap false cs else cs

/-- The characters up to a closing brace without the gaps between them, and what follows the
brace. -/
def untilBrace? (x inComment : Bool) (read : List Char) :
    List Char → Option (List Char × List Char)
  | [] => none
  | c :: cs =>
    if inComment then untilBrace? x (c != '\n') read cs
    else if c == '}' then some (read.reverse, cs)
    else if x && Text.isBlank c then untilBrace? x false read cs
    else if x && c == '#' then untilBrace? x true read cs
    else untilBrace? x false (c :: read) cs

/-! ### Numbers -/

/-- The digits at the start of a text without the gaps between them, and what follows. -/
def digits (x inComment : Bool) (read : List Char) : List Char → List Char × List Char
  | [] => (read.reverse, [])
  | c :: cs =>
    if inComment then digits x (c != '\n') read cs
    else if c.isDigit then digits x false (c :: read) cs
    else if x && !read.isEmpty && Text.isBlank c then digits x false read cs
    else if x && !read.isEmpty && c == '#' then digits x true read cs
    else (read.reverse, c :: cs)

/-- The value of a row of digits. -/
def digitsValue (base : Nat) (ds : List Nat) : Nat := ds.foldl (fun n d => n * base + d) 0

/-- A count of repetitions, with blanks around it in every mode. Counts have 32 bits. -/
def count? (x : Bool) (cs : List Char) : Option (Nat × List Char) :=
  let (ds, rest) := digits x false [] (cs.dropWhile Text.isBlank)
  let n := digitsValue 10 (ds.map fun d => d.toNat - 48)
  if ds.isEmpty || UInt32.size ≤ n then none else some (n, rest.dropWhile Text.isBlank)

/-- A character written as a fixed number of hexadecimal digits. -/
def fixedHex? (x inComment : Bool) (n value : Nat) : List Char → Option (Nat × List Char)
  | [] => if n = 0 then some (value, []) else none
  | c :: cs =>
    if n = 0 then some (value, c :: cs)
    else if inComment then fixedHex? x (c != '\n') n value cs
    else if x && Text.isBlank c then fixedHex? x false n value cs
    else if x && c == '#' then fixedHex? x true n value cs
    else
      match Text.Hex.digit? c with
      | some d => fixedHex? x false (n - 1) (value * 16 + d) cs
      | none => none

/-- A character written by its number, in braces or with `n` digits. Two digits give a byte. -/
def hexLetter? (x : Bool) (n : Nat) (cs : List Char) : Option (Letter × List Char) := do
  match behindGap x cs with
  | '{' :: cs =>
    let (ds, rest) ← untilBrace? x false [] cs
    let values ← ds.mapM Text.Hex.digit?
    if values.isEmpty then none
    let c ← Text.charOfNat? (digitsValue 16 values)
    pure (⟨c, false⟩, rest)
  | cs =>
    let (value, rest) ← fixedHex? x false n 0 cs
    let c ← Text.charOfNat? value
    pure (⟨c, n == 2⟩, rest)

/-! ### Named classes -/

/-- What stands in front of and behind the first occurrence of a separator. -/
def splitAt? (sep : List Char) (front : List Char) : List Char → Option (List Char × List Char)
  | [] => none
  | c :: cs =>
    if sep.isPrefixOf (c :: cs) then some (front.reverse, (c :: cs).drop sep.length)
    else splitAt? sep (c :: front) cs

/-- The class that a name in braces stands for, or the complement of one. The signs between a
property and its value are `!=`, `:` and `=`, which are looked for in this order; the first of them
negates the class. -/
def namedAtom (negated : Bool) (name : List Char) : Atom :=
  match splitAt? ['!', '='] [] name with
  | some (property, value) => .named (.valued property value) (!negated)
  | none =>
    match (splitAt? [':'] [] name).or (splitAt? ['='] [] name) with
    | some (property, value) => .named (.valued property value) negated
    | none => .named (.named name) negated

/-- A class named behind `\p`, or behind `\P`, which negates it: one letter, or a name in braces. -/
def namedAtom? (x negated : Bool) (cs : List Char) : Option (Atom × List Char) :=
  match behindGap x cs with
  | [] => none
  | '{' :: cs => (untilBrace? x false [] cs).map fun r => (namedAtom negated r.1, r.2)
  | '\\' :: _ => none
  | c :: cs => some (.named (.named [c]) negated, cs)

/-! ### Word edges -/

/-- The word edges that are named in braces. -/
def wordEdge? (name : List Char) : Option WordEdge :=
  match String.ofList name with
  | "start" => some .opening
  | "end" => some .closing
  | "start-half" => some .openingHalf
  | "end-half" => some .closingHalf
  | _ => none

/-- What follows `\b`. A brace behind it names an edge if a letter or a hyphen follows the brace;
otherwise it starts a repetition. -/
def boundary? (x : Bool) (cs : List Char) : Option (WordEdge × List Char) :=
  match cs with
  | '{' :: rest =>
    match behindGap x rest with
    | [] => none
    | c :: _ =>
      if c.isAlpha || c == '-' then do
        let (name, rest) ← untilBrace? x false [] rest
        let edge ← wordEdge? name
        pure (edge, rest)
      else some (.boundary, cs)
  | cs => some (.boundary, cs)

/-! ### Escapes -/

/-- The characters that stand for themselves behind a backslash: those of the ASCII range that are
neither letters nor digits nor angle brackets. -/
def isEscapable (c : Char) : Bool :=
  c.toNat < 0x80 && !c.isAlphanum && c != '<' && c != '>'

/-- What follows a backslash. -/
def escape? (x : Bool) : List Char → Option (Atom × List Char)
  | [] => none
  | c :: cs =>
    match c with
    | 'x' => (hexLetter? x 2 cs).map fun r => (.letter r.1, r.2)
    | 'u' => (hexLetter? x 4 cs).map fun r => (.letter r.1, r.2)
    | 'U' => (hexLetter? x 8 cs).map fun r => (.letter r.1, r.2)
    | 'p' => namedAtom? x false cs
    | 'P' => namedAtom? x true cs
    | 'd' => some (.short .digit false, cs)
    | 'D' => some (.short .digit true, cs)
    | 's' => some (.short .space false, cs)
    | 'S' => some (.short .space true, cs)
    | 'w' => some (.short .word false, cs)
    | 'W' => some (.short .word true, cs)
    | 'a' => some (.letter ⟨'\x07', false⟩, cs)
    | 'f' => some (.letter ⟨'\x0c', false⟩, cs)
    | 't' => some (.letter ⟨'\t', false⟩, cs)
    | 'n' => some (.letter ⟨'\n', false⟩, cs)
    | 'r' => some (.letter ⟨'\r', false⟩, cs)
    | 'v' => some (.letter ⟨'\x0b', false⟩, cs)
    | 'A' => some (.anchor .textStart, cs)
    | 'z' => some (.anchor .textEnd, cs)
    | 'b' => (boundary? x cs).map fun r => (.anchor (.word r.1), r.2)
    | 'B' => some (.anchor (.word .interior), cs)
    | '<' => some (.anchor (.word .opening), cs)
    | '>' => some (.anchor (.word .closing), cs)
    | c => if isEscapable c then some (.letter ⟨c, false⟩, cs) else none

end SymbolProbe.Pattern

import SymbolProbe.Pattern.Escape

/-!
# Bracketed classes

Reading of classes in brackets: letters, spans, nested classes, classes of the ASCII range by name,
and the operations `&&`, `--` and `~~`, which are read from left to right without precedence.
-/

namespace SymbolProbe.Pattern

open Unicode (CodeSet)

/-! ### Classes of the ASCII range -/

/-- The classes of the ASCII range that have a name. -/
def asciiClass? (name : List Char) : Option CodeSet :=
  match String.ofList name with
  | "alnum" => some ⟨[(48, 57), (65, 90), (97, 122)]⟩
  | "alpha" => some ⟨[(65, 90), (97, 122)]⟩
  | "ascii" => some CodeSet.ascii
  | "blank" => some ⟨[(9, 9), (32, 32)]⟩
  | "cntrl" => some ⟨[(0, 31), (127, 127)]⟩
  | "digit" => some ⟨[(48, 57)]⟩
  | "graph" => some ⟨[(33, 126)]⟩
  | "lower" => some ⟨[(97, 122)]⟩
  | "print" => some ⟨[(32, 126)]⟩
  | "punct" => some ⟨[(33, 47), (58, 64), (91, 96), (123, 126)]⟩
  | "space" => some ⟨[(9, 13), (32, 32)]⟩
  | "upper" => some ⟨[(65, 90)]⟩
  | "word" => some ⟨[(48, 57), (65, 90), (95, 95), (97, 122)]⟩
  | "xdigit" => some ⟨[(48, 57), (65, 70), (97, 102)]⟩
  | _ => none

/-- A class such as `[:alpha:]`, behind its first bracket. Anything else in its place is read as a
nested class. -/
def namedAscii? : List Char → Option (ClassTree × List Char)
  | ':' :: cs => do
    let (negated, cs) := match cs with
      | '^' :: cs => (true, cs)
      | cs => (false, cs)
    let set ← asciiClass? (cs.takeWhile (· != ':'))
    match cs.dropWhile (· != ':') with
    | ':' :: ']' :: rest => pure (.ascii set negated, rest)
    | _ => none
  | _ => none

/-! ### Items -/

/-- One letter or escape inside brackets. -/
def classAtom? (x : Bool) : List Char → Option (Atom × List Char)
  | [] => none
  | '\\' :: cs => escape? x cs
  | c :: cs => some (.letter ⟨c, false⟩, cs)

/-- An atom as an item of a class; anchors are none. -/
def Atom.classItem? : Atom → Option ClassTree
  | .letter l => some (.letter l)
  | .short c negated => some (.short c negated)
  | .named c negated => some (.named c negated)
  | .anchor _ => none

/-- The span from one letter to another, in ascending order. -/
def span? : Atom → Atom → Option ClassTree
  | .letter lo, .letter hi => if lo.char ≤ hi.char then some (.span lo hi) else none
  | _, _ => none

/-- The character behind a hyphen that decides whether the hyphen makes a span. Verbose mode looks
past blanks and past one number sign, though not past the comment that the sign starts. -/
def decidingChar? (x : Bool) (cs : List Char) : Option Char :=
  if x then
    match cs.dropWhile Text.isBlank with
    | '#' :: cs => (cs.dropWhile Text.isBlank).head?
    | cs => cs.head?
  else cs.head?

/-- One item or span. A hyphen makes a span unless a closing bracket or another hyphen is next. -/
def classItem? (x : Bool) (cs : List Char) : Option (ClassTree × List Char) := do
  let (first, rest) ← classAtom? x cs
  match behindGap x rest with
  | [] => none
  | '-' :: rest =>
    if (decidingChar? x rest).any (· ∈ [']', '-']) then
      (first.classItem?).map fun t => (t, '-' :: rest)
    else do
      let (last, rest) ← classAtom? x (behindGap x rest)
      let t ← span? first last
      pure (t, rest)
  | rest => (first.classItem?).map fun t => (t, rest)

/-! ### Nesting -/

/-- What stands open around the items at hand. -/
inductive ClassFrame
  /-- An open bracket, with the items in front of it, last first. -/
  | opened (before : List ClassTree) (negated : Bool)
  /-- An operation that waits for its right side. -/
  | waiting (o : SetOp) (left : ClassTree)

/-- The hyphens behind an opening bracket, which stand for themselves. -/
def leadingHyphens (x inComment : Bool) (read : List ClassTree) :
    List Char → List ClassTree × List Char
  | [] => (read, [])
  | c :: cs =>
    if inComment then leadingHyphens x (c != '\n') read cs
    else if c == '-' then leadingHyphens x false (.letter ⟨'-', false⟩ :: read) cs
    else if x && Text.isBlank c then leadingHyphens x false read cs
    else if x && c == '#' then leadingHyphens x true read cs
    else (read, c :: cs)

/-- What follows an opening bracket: whether the class is negated, and its first letters. A closing
bracket in the first place stands for itself. -/
def openBracket? (x : Bool) (cs : List Char) : Option (Bool × List ClassTree × List Char) := do
  let (negated, cs) := match behindGap x cs with
    | '^' :: cs => (true, cs)
    | cs => (false, cs)
  let (read, cs) := leadingHyphens x false [] cs
  match read, cs with
  | _, [] => none
  | [], ']' :: cs =>
    match behindGap x cs with
    | [] => none
    | cs => pure (negated, [.letter ⟨']', false⟩], cs)
  | read, cs => pure (negated, read, cs)

/-- The items at hand, given last first, joined to an operation that waits for them. -/
def closeItems (items : List ClassTree) : List ClassFrame → ClassTree × List ClassFrame
  | .waiting o left :: frames => (.op o left (ClassTree.ofItems items.reverse), frames)
  | frames => (ClassTree.ofItems items.reverse, frames)

/-- Read the inside of brackets up to the bracket that closes the outermost one. Every round takes
at least one character. -/
def bracketLoop? (x : Bool) :
    Nat → List ClassFrame → List ClassTree → List Char → Option (Bool × ClassTree × List Char)
  | 0, _, _, _ => none
  | n + 1, frames, items, cs =>
    match behindGap x cs with
    | [] => none
    | '[' :: cs =>
      match namedAscii? cs with
      | some (t, rest) => bracketLoop? x n frames (t :: items) rest
      | none => do
        let (negated, first, rest) ← openBracket? x cs
        bracketLoop? x n (.opened items negated :: frames) first rest
    | ']' :: cs =>
      match closeItems items frames with
      | (t, [.opened _ negated]) => some (negated, t, cs)
      | (t, .opened before negated :: frames) =>
        bracketLoop? x n frames (.bracket negated t :: before) cs
      | _ => none
    | '&' :: '&' :: cs =>
      let (t, frames) := closeItems items frames
      bracketLoop? x n (.waiting .inter t :: frames) [] cs
    | '-' :: '-' :: cs =>
      let (t, frames) := closeItems items frames
      bracketLoop? x n (.waiting .diff t :: frames) [] cs
    | '~' :: '~' :: cs =>
      let (t, frames) := closeItems items frames
      bracketLoop? x n (.waiting .symmDiff t :: frames) [] cs
    | cs => do
      let (t, rest) ← classItem? x cs
      bracketLoop? x n frames (t :: items) rest

/-- A class in brackets, behind its first bracket: whether it is negated, and its inside. -/
def bracket? (x : Bool) (cs : List Char) : Option (Bool × ClassTree × List Char) := do
  let (negated, first, rest) ← openBracket? x cs
  bracketLoop? x (rest.length + 1) [.opened [] negated] first rest

end SymbolProbe.Pattern

import SymbolProbe.Pattern.Bracket
import SymbolProbe.Unicode.Property
import SymbolProbe.Unicode.Recent

/-!
# Reading of patterns

A pattern is read from left to right. What has been read of the current branch, the finished
branches of the current group, and the groups around it make up the state; every step takes at
least one character.
-/

namespace SymbolProbe.Pattern

/-! ### State -/

/-- An open group with what stood in front of it, last first. -/
structure GroupFrame where
  /-- The flags of the group; a group without flags records its extent. -/
  changes : Option FlagChanges
  /-- Whether the pattern is verbose outside the group. -/
  verboseOutside : Bool
  items : List Tree
  branches : List Tree

/-- The state in the middle of a pattern. -/
structure ParseState where
  verbose : Bool := false
  /-- The names of recorded groups so far. -/
  names : List (List Char) := []
  /-- The items of the current branch, last first. -/
  items : List Tree := []
  /-- The finished branches of the current group, last first. -/
  branches : List Tree := []
  outer : List GroupFrame := []

namespace ParseState

/-- Add an item to the current branch. -/
def push (p : ParseState) (t : Tree) : ParseState := { p with items := t :: p.items }

/-- The current branch. -/
def branch (p : ParseState) : Tree := Tree.ofItems p.items.reverse

/-- The current group. -/
def content (p : ParseState) : Tree := Tree.ofBranches (p.branches.reverse ++ [p.branch])

end ParseState

/-! ### Groups -/

/-- The flags up to a colon or a closing parenthesis, which is told by the second part: a flag is
set once at most, and the flags behind a hyphen are cleared. -/
def flagChanges? (changes : FlagChanges) (clearing afterHyphen : Bool) :
    List Char → Option (FlagChanges × Bool × List Char)
  | [] => none
  | c :: cs =>
    if c == ':' || c == ')' then
      if afterHyphen then none else some (changes.reverse, c == ':', cs)
    else if c == '-' then
      if clearing then none else flagChanges? changes true true cs
    else
      match Flag.ofChar? c with
      | some f =>
        if (changes.value? f).isSome then none
        else flagChanges? ((f, !clearing) :: changes) clearing false cs
      | none => none

/-- Letters in the sense of `alphabetic`, beyond the ASCII range too. -/
def isLetter (c : Char) : Bool :=
  if c.toNat < 0x80 then c.isAlpha
  else Unicode.Property.alphabetic.codes.contains c || Unicode.recentLetters.contains c

/-- Numbers of any general category, beyond the ASCII range too. -/
def isNumber (c : Char) : Bool :=
  if c.toNat < 0x80 then c.isDigit
  else
    (Unicode.Formula.categories [.decimalNumber, .letterNumber, .otherNumber]).codes.contains c ||
      Unicode.recentNumbers.contains c

/-- Whether a text can name a group. -/
def isGroupName : List Char → Bool
  | [] => false
  | c :: cs =>
    (c == '_' || isLetter c) &&
      cs.all fun d => d == '_' || d == '.' || d == '[' || d == ']' || isLetter d || isNumber d

/-- Open a group. -/
def ParseState.enter (p : ParseState) (changes : Option FlagChanges) : ParseState :=
  { p with
    verbose := ((changes.bind (FlagChanges.value? · .verbose))).getD p.verbose
    items := []
    branches := []
    outer := ⟨changes, p.verbose, p.items, p.branches⟩ :: p.outer }

/-- Open a group with a name of its own, given what follows the angle bracket. -/
def namedGroup? (p : ParseState) (cs : List Char) : Option (ParseState × List Char) :=
  let name := cs.takeWhile (· != '>')
  match cs.dropWhile (· != '>') with
  | '>' :: rest =>
    if isGroupName name && !p.names.contains name then
      some ({ p with names := name :: p.names }.enter none, rest)
    else none
  | _ => none

/-- What follows an opening parenthesis: a recorded group, with or without a name, a group with
flags, or flags for the rest of the group at hand. Conditions on what follows or precedes a place
are refused. -/
def openGroup? (p : ParseState) (cs : List Char) : Option (ParseState × List Char) :=
  match behindGap p.verbose cs with
  | '?' :: '=' :: _ => none
  | '?' :: '!' :: _ => none
  | '?' :: '<' :: '=' :: _ => none
  | '?' :: '<' :: '!' :: _ => none
  | '?' :: 'P' :: '<' :: cs => namedGroup? p cs
  | '?' :: '<' :: cs => namedGroup? p cs
  | '?' :: cs => do
    let (changes, isGroup, rest) ← flagChanges? [] false false cs
    if isGroup then pure (p.enter (some changes), rest)
    else if changes.isEmpty then none
    else
      pure ({ p.push (.flags changes) with
        verbose := (FlagChanges.value? changes .verbose).getD p.verbose }, rest)
  | cs => some (p.enter none, cs)

/-- Close the current group. -/
def closeGroup? (p : ParseState) : Option ParseState :=
  match p.outer with
  | [] => none
  | g :: outer =>
    let t := match g.changes with
      | none => Tree.capture p.content
      | some changes => Tree.scoped changes p.content
    some { p with
      verbose := g.verboseOutside, items := t :: g.items, branches := g.branches, outer := outer }

/-! ### Repetitions -/

/-- Repeat the last item of the current branch. What follows may be a mark that asks for few
rounds. -/
def repeatLast? (p : ParseState) (least : Nat) (most : Option Nat) (cs : List Char) :
    Option (ParseState × List Char) :=
  let (isLazy, cs) := match cs with
    | '?' :: cs => (true, cs)
    | cs => (false, cs)
  match p.items with
  | t :: items =>
    if t.isRepeatable then some ({ p with items := .rep t least most isLazy :: items }, cs)
    else none
  | [] => none

/-- The bounds behind an opening brace. -/
def bounds? (x : Bool) (cs : List Char) : Option (Nat × Option Nat × List Char) := do
  let (least, rest) ← count? x (behindGap x cs)
  match rest with
  | '}' :: rest => pure (least, some least, rest)
  | ',' :: rest =>
    match behindGap x rest with
    | '}' :: rest => pure (least, none, rest)
    | rest => do
      let (most, rest) ← count? x rest
      match rest with
      | '}' :: rest => if least ≤ most then pure (least, some most, rest) else none
      | _ => none
  | _ => none

/-! ### Steps -/

/-- Take the character `c` and what belongs to it. -/
def step? (p : ParseState) (c : Char) (cs : List Char) : Option (ParseState × List Char) :=
  match c with
  | '(' => openGroup? p cs
  | ')' => (closeGroup? p).map fun p => (p, cs)
  | '|' => some ({ p with items := [], branches := p.branch :: p.branches }, cs)
  | '[' => (bracket? p.verbose cs).map fun r => (p.push (.bracket r.1 r.2.1), r.2.2)
  | '?' => repeatLast? p 0 (some 1) cs
  | '*' => repeatLast? p 0 none cs
  | '+' => repeatLast? p 1 none cs
  | '{' => do
    let (least, most, rest) ← bounds? p.verbose cs
    repeatLast? p least most (behindGap p.verbose rest)
  | '.' => some (p.push .dot, cs)
  | '^' => some (p.push (.atom (.anchor .lineStart)), cs)
  | '$' => some (p.push (.atom (.anchor .lineEnd)), cs)
  | '\\' => (escape? p.verbose cs).map fun r => (p.push (.atom r.1), r.2)
  | c => some (p.push (.atom (.letter ⟨c, false⟩)), cs)

/-- Take the rest of a pattern. -/
def parseLoop? : Nat → ParseState → List Char → Option Tree
  | 0, _, _ => none
  | n + 1, p, cs =>
    match behindGap p.verbose cs with
    | [] => if p.outer.isEmpty then some p.content else none
    | c :: cs => do
      let (p, rest) ← step? p c cs
      parseLoop? n p rest

/-- The tree of a well-formed pattern. -/
def Tree.parse? (text : String) : Option Tree :=
  parseLoop? (text.toList.length + 1) {} text.toList

end SymbolProbe.Pattern

import SymbolProbe.Pattern.Look

/-!
# Pattern trees

The written form of a pattern, as a tree. What a tree means depends on flags, which are set inside
the pattern and hold from there to the end of the enclosing group.
-/

namespace SymbolProbe.Pattern

/-! ### Leaves -/

/-- The flags of a pattern. -/
inductive Flag
  /-- Letters stand for either case. -/
  | ignoreCase
  /-- Line anchors hold at every line of the text. -/
  | multiLine
  /-- The dot stands for line feeds too. -/
  | dotAll
  /-- Repetitions prefer few rounds. -/
  | swapGreed
  /-- Classes and word edges go beyond the ASCII range. -/
  | unicode
  /-- A carriage return ends a line too. -/
  | eitherLineEnd
  /-- Blanks and comments in the pattern do not count. -/
  | verbose
deriving DecidableEq, Repr

/-- The flag that a letter stands for. -/
def Flag.ofChar? : Char → Option Flag
  | 'i' => some .ignoreCase
  | 'm' => some .multiLine
  | 's' => some .dotAll
  | 'U' => some .swapGreed
  | 'u' => some .unicode
  | 'R' => some .eitherLineEnd
  | 'x' => some .verbose
  | _ => none

/-- Flags with the values they are given. -/
abbrev FlagChanges := List (Flag × Bool)

/-- The value that the changes give to a flag, if they mention it. -/
def FlagChanges.value? (cs : FlagChanges) (f : Flag) : Option Bool :=
  (cs.find? fun c => c.1 == f).map Prod.snd

/-- A character of the pattern that stands for itself. It is a byte if it was written as two
hexadecimal digits. -/
structure Letter where
  char : Char
  isByte : Bool := false
deriving DecidableEq, Repr

/-- A condition on a place, before flags decide what it means. -/
inductive Anchor
  | lineStart
  | lineEnd
  | textStart
  | textEnd
  | word (edge : WordEdge)
deriving DecidableEq, Repr

/-- The classes written as one letter behind a backslash. -/
inductive ShortClass
  | digit
  | space
  | word
deriving DecidableEq, Repr

/-- A set of characters named by a property. -/
inductive NamedClass
  | named (name : List Char)
  | valued (property value : List Char)
deriving DecidableEq, Repr

/-- The leaves of a pattern that are also written inside brackets, and the anchors. -/
inductive Atom
  | letter (l : Letter)
  | short (c : ShortClass) (negated : Bool)
  | named (c : NamedClass) (negated : Bool)
  | anchor (a : Anchor)
deriving DecidableEq, Repr

/-! ### Bracketed classes -/

/-- The operations between parts of a bracketed class. -/
inductive SetOp
  | inter
  | diff
  | symmDiff
deriving DecidableEq, Repr

/-- The inside of a bracketed class. -/
inductive ClassTree
  | letter (l : Letter)
  | span (lo hi : Letter)
  | short (c : ShortClass) (negated : Bool)
  | named (c : NamedClass) (negated : Bool)
  /-- A class of the ASCII range by its name. -/
  | ascii (set : Unicode.CodeSet) (negated : Bool)
  | bracket (negated : Bool) (inner : ClassTree)
  | union (items : List ClassTree)
  | op (o : SetOp) (left right : ClassTree)
deriving Repr, Inhabited

/-- The items of a class as one tree. -/
def ClassTree.ofItems : List ClassTree → ClassTree
  | [t] => t
  | ts => .union ts

/-! ### Patterns -/

/-- The written form of a pattern. -/
inductive Tree
  | empty
  | flags (changes : FlagChanges)
  | atom (a : Atom)
  | dot
  | bracket (negated : Bool) (inner : ClassTree)
  /-- Between `least` and `most` in a row, any number from `least` on without `most`, with a mark
  for few rounds or without. -/
  | rep (inner : Tree) (least : Nat) (most : Option Nat) (isLazy : Bool)
  | capture (inner : Tree)
  | scoped (changes : FlagChanges) (inner : Tree)
  | concat (items : List Tree)
  | alternation (branches : List Tree)
deriving Repr, Inhabited

/-- The items of a branch as one tree. -/
def Tree.ofItems : List Tree → Tree
  | [] => .empty
  | [t] => t
  | ts => .concat ts

/-- The branches of a group as one tree. -/
def Tree.ofBranches : List Tree → Tree
  | [t] => t
  | ts => .alternation ts

/-- Whether a tree stands for something that can be repeated. -/
def Tree.isRepeatable : Tree → Bool
  | .empty => false
  | .flags _ => false
  | _ => true

/-! ### Depth -/

mutual
/-- How deep the parts of a class are nested. -/
def ClassTree.depth : ClassTree → Nat
  | .bracket _ inner => inner.depth + 1
  | .union [] => 0
  | .union (t :: ts) => max t.depth (ClassTree.depths ts) + 1
  | .op _ left right => max left.depth right.depth + 1
  | _ => 0

/-- The greatest depth of some classes. -/
def ClassTree.depths : List ClassTree → Nat
  | [] => 0
  | t :: ts => max t.depth (ClassTree.depths ts)
end

mutual
/-- How deep the parts of a pattern are nested. -/
def Tree.depth : Tree → Nat
  | .bracket _ inner => inner.depth + 1
  | .rep inner _ _ _ => inner.depth + 1
  | .capture inner => inner.depth + 1
  | .scoped _ inner => inner.depth + 1
  | .concat items => Tree.depths items + 1
  | .alternation branches => Tree.depths branches + 1
  | _ => 0

/-- The greatest depth of some patterns. -/
def Tree.depths : List Tree → Nat
  | [] => 0
  | t :: ts => max t.depth (Tree.depths ts)
end

end SymbolProbe.Pattern

/-!
# Nodes of YAML

A document is a tree of scalars, sequences and mappings. A node that bears an anchor can stand in
several places: the others hold an alias. Anchors are numbers here; more than one node may bear the
same number, and then the last of them counts.

The tree of a malformed text goes on as far as the text makes sense, and is cut there.
-/

namespace SymbolProbe.Yaml

/-- What stands in front of a node. -/
structure Properties where
  anchor : Option Nat := none
  tag : Option String := none
deriving DecidableEq, Repr, Inhabited

/-- A tree of scalars, sequences and mappings. -/
inductive Node
  /-- A text, which may have been written without quotes. -/
  | scalar (p : Properties) (text : String) (isPlain : Bool)
  | sequence (p : Properties) (items : List Node)
  | mapping (p : Properties) (entries : List (Node × Node))
  /-- The node that bears an anchor. -/
  | alias (anchor : Nat)
  /-- The place where the text stops making sense. -/
  | cut
deriving Repr, Inhabited

namespace Node

/-- A quoted scalar without properties. -/
def text (t : String) : Node := .scalar {} t false

/-- The scalar that stands where nothing was written. -/
def missing (p : Properties) : Node := .scalar p "" true

/-- The properties of a node that has any. -/
def properties : Node → Properties
  | .scalar p _ _ => p
  | .sequence p _ => p
  | .mapping p _ => p
  | _ => {}

/-- Whether a node stands where nothing was written. -/
def isMissing : Node → Bool
  | .scalar _ t isPlain => isPlain && t.isEmpty
  | _ => false

mutual

/-- Whether a node is cut nowhere. -/
def isWhole : Node → Bool
  | .scalar .. => true
  | .sequence _ items => areWhole items
  | .mapping _ entries => entriesAreWhole entries
  | .alias _ => true
  | .cut => false

/-- Whether no node of a list is cut anywhere. -/
def areWhole : List Node → Bool
  | [] => true
  | x :: xs => x.isWhole && areWhole xs

/-- Whether no key and no value is cut anywhere. -/
def entriesAreWhole : List (Node × Node) → Bool
  | [] => true
  | (k, v) :: es => k.isWhole && v.isWhole && entriesAreWhole es

end

mutual

/-- The number of marks that it takes to write down a node: one for each scalar and alias, and two
around each collection. -/
def size : Node → Nat
  | .scalar .. => 1
  | .sequence _ items => itemsSize items + 2
  | .mapping _ entries => entriesSize entries + 2
  | .alias _ => 1
  | .cut => 0

/-- The size of a list of nodes. -/
def itemsSize : List Node → Nat
  | [] => 0
  | x :: xs => x.size + itemsSize xs

/-- The size of a list of entries. -/
def entriesSize : List (Node × Node) → Nat
  | [] => 0
  | (k, v) :: es => k.size + v.size + entriesSize es

end

mutual

/-- A node and the nodes below it that bear the given anchor, in document order. -/
def bearers (anchor : Nat) : Node → List Node
  | .scalar p t isPlain => if p.anchor = some anchor then [.scalar p t isPlain] else []
  | .sequence p items =>
    (if p.anchor = some anchor then [.sequence p items] else []) ++ itemsBearers anchor items
  | .mapping p entries =>
    (if p.anchor = some anchor then [.mapping p entries] else []) ++ entriesBearers anchor entries
  | .alias _ => []
  | .cut => []

/-- The bearers of an anchor in a list of nodes. -/
def itemsBearers (anchor : Nat) : List Node → List Node
  | [] => []
  | x :: xs => x.bearers anchor ++ itemsBearers anchor xs

/-- The bearers of an anchor in a list of entries. -/
def entriesBearers (anchor : Nat) : List (Node × Node) → List Node
  | [] => []
  | (k, v) :: es => k.bearers anchor ++ v.bearers anchor ++ entriesBearers anchor es

end

/-- The node that an alias stands for in the given tree. -/
def target (root : Node) (anchor : Nat) : Node := (root.bearers anchor).getLast?.getD .cut

end Node

end SymbolProbe.Yaml

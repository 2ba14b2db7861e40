import SymbolProbe.Pattern.Footprint.WordTree
import SymbolProbe.Pattern.NormalForm

/-!
# Footprint of an expression

The room that an automaton for an expression takes. Repetitions with bounds are written out, and a
set beyond the ASCII range is spelled by the octets of its characters, so a short pattern may
describe a huge automaton. Two automata are made of an expression: one reads forward and records
extents, the other reads backward.
-/

namespace SymbolProbe.Pattern

namespace Expr

/-! ### Anchors -/

/-- Whether every stretch starts at the start of the text. -/
def startsText : Expr → Bool
  | .look l => l == .textStart
  | .seq a b => a.startsText || (a.isZeroWidth && b.startsText)
  | .alt a b => a.startsText && b.startsText
  | .group a => a.startsText
  | .rep a least _ _ => 0 < least && a.startsText
  | _ => false

/-- Whether every stretch ends at the end of the text. -/
def endsText : Expr → Bool
  | .look l => l == .textEnd
  | .seq a b => b.endsText || (b.isZeroWidth && a.endsText)
  | .alt a b => a.endsText && b.endsText
  | .group a => a.endsText
  | .rep a least _ _ => 0 < least && a.endsText
  | _ => false

/-! ### States -/

/-- The text of a literal. -/
def text? : Expr → Option (List Char)
  | .literal text => some text
  | _ => none

/-- The room with the fork of an alternation and the state where its branches meet, which follow
the second branch. Each branch is a link of the fork. -/
def addBranch (position : Nat) (r : Room) : Room :=
  let r := if position = 1 then (r.addFork 0).add 1 else r
  { r with links := r.links + 4 }

/-- The room with the states for an expression. An expression that is the rest of an alternation is
given with the number of the branches in front of it. -/
def occupy (d : Direction) : Expr → Nat → Room → Room
  | .empty, _, r => r.add 1
  | .literal text, _, r => r.add (wordOf d text).length
  | .one set _, _, r => r.addSet d set
  | .look _, _, r => r.add 1
  | .seq a b, _, r =>
    match d with
    | .forward => b.occupy d 0 (a.occupy d 0 r)
    | .backward => a.occupy d 0 (b.occupy d 0 r)
  | .alt a b, position, r =>
    match if position = 0 then (branches (.alt a b)).mapM text? else none with
    | some texts => r.addWordTree (texts.map (wordOf d))
    | none =>
      let r := addBranch position (a.occupy d 0 r)
      match b with
      | .alt _ _ => b.occupy d (position + 1) r
      | _ => addBranch (position + 1) (b.occupy d 0 r)
  | .group a, _, r =>
    match d with
    | .forward => (a.occupy d 0 (r.add 1)).add 1
    | .backward => a.occupy d 0 r
  | .rep a least most _, _, r =>
    let copies := fun n r => Room.addTimes (a.occupy d 0) n r
    match least, most with
    | 0, some 1 => (a.occupy d 0 (r.addFork 2)).add 1
    | 0, none =>
      if a.leastLength?.any (0 < ·) then a.occupy d 0 (r.addFork 2)
      else (((a.occupy d 0 r).addFork 2).addFork 2).add 1
    | least, none => (copies least r).addFork 2
    | least, some most =>
      let r := if least = 0 then r.add 1 else copies least r
      if least = most then r
      else Room.addTimes (fun r => a.occupy d 0 (r.addFork 2)) (most - least) (r.add 1)

/-- The room with the states that pass over what stands in front of a match. A match that starts
where reading starts needs none of them. -/
def addApproach (isAnchored : Bool) (r : Room) : Room :=
  if isAnchored then r.add 1 else ((r.addFork 2).add 1).addSwitch 1

/-- The room of the automaton for an expression. The forward automaton records the extent of the
whole. -/
def footprint (d : Direction) (e : Expr) : Room :=
  match d with
  | .forward => (e.occupy d 0 ((addApproach e.startsText {}).add 1)).add 2
  | .backward => (e.occupy d 0 (addApproach e.endsText {})).add 1

/-- Whether an expression is a long list of words. Such a list is searched for without an
automaton. -/
def isWordList (e : Expr) : Bool :=
  let bs := e.branches
  3000 ≤ bs.length && bs.all fun b => b.text?.isSome

end Expr

end SymbolProbe.Pattern

import SymbolProbe.Pattern.Expr
import SymbolProbe.Pattern.Footprint.WordTree

/-!
# How stretches open

Every stretch of an expression opens with one of some words, unless there are too many of these to
list. An opening word may be a whole stretch. Where all of them are, the words say everything: the
expression is found by searching for them, without an automaton.

The words stand in the order in which stretches are preferred. Their number and their lengths are
bounded, and so is how often a repetition is followed; a word that is cut is not a whole stretch.
-/

namespace SymbolProbe.Pattern

/-- A word that stretches open with. -/
structure Opening where
  word : Word
  /-- Whether the word is a whole stretch. -/
  isWhole : Bool
deriving DecidableEq, Repr

/-- The words that stretches open with; `none` if they are too many. -/
abbrev Openings := Option (List Opening)

namespace Opening

/-- What opens with a word still opens with its first `n` octets. -/
def cut (n : Nat) (o : Opening) : Opening :=
  if o.word.length ≤ n then o else ⟨o.word.take n, false⟩

/-- A stretch and the opening of one behind it. -/
def append (o p : Opening) : Opening := ⟨o.word ++ p.word, p.isWhole⟩

/-- An opening of more than the word. -/
def extended (o : Opening) : Opening := { o with isWhole := false }

/-- Join neighbours with the same word. The word is a whole stretch if it is one for each of
them. -/
def joinEqual : List Opening → List Opening
  | [] => []
  | o :: os =>
    match joinEqual os with
    | p :: ps =>
      if o.word = p.word then ⟨o.word, o.isWhole && p.isWhole⟩ :: ps else o :: p :: ps
    | [] => [o]

/-- Leave out each word that starts with a word in front of it, since a search meets the other
first. -/
def dropCovered (os : List Opening) : List Opening :=
  os.foldl (fun kept o =>
    if kept.any fun p => p.word.isPrefixOf o.word then kept else kept ++ [o]) []

/-- What two words start with. -/
def commonWord : Word → Word → Word
  | a :: as, b :: bs => if a = b then a :: commonWord as bs else []
  | _, _ => []

/-- What all words start with. -/
def commonStart : List Opening → Word
  | [] => []
  | o :: os => os.foldl (fun w p => commonWord w p.word) o.word

end Opening

namespace Openings

open Opening

/-! ### Bounds -/

/-- The greatest number of openings. -/
def maxCount : Nat := 250

/-- The greatest length of a word, in octets. -/
def maxLength : Nat := 100

/-- The greatest number of characters of a set that are listed. -/
def maxLetters : Nat := 10

/-- How often a repetition is followed. -/
def maxTimes : Nat := 10

/-! ### Openings of parts -/

/-- The opening of an empty stretch. -/
def ofEmpty : Openings := some [⟨[], true⟩]

/-- The opening of a text that stands for itself. -/
def ofText (text : List Char) : Openings :=
  some [Opening.cut maxLength ⟨wordOf .forward text, true⟩]

/-- The openings of one character of a set. -/
def ofSet (set : Unicode.CodeSet) : Openings :=
  if set.ranges.foldl (fun n r => n + (r.2 - r.1 + 1)) 0 ≤ maxLetters then
    some (set.ranges.flatMap fun r => (List.range (r.2 - r.1 + 1)).map fun i =>
      ⟨wordOf .forward [Char.ofNat (r.1 + i)], true⟩)
  else none

/-- Whether nothing that follows can change the openings. -/
def isSettled (os : Openings) : Bool := os.all fun os => os.all fun o => !o.isWhole

/-- The openings if more follows. -/
def extended (os : Openings) : Openings := os.map (·.map Opening.extended)

/-- The openings of either expression. If they are too many, words of four octets are tried. -/
def either : Openings → Openings → Openings
  | some os, some ps =>
    if os.length + ps.length ≤ maxCount then some (joinEqual (os ++ ps))
    else
      let os := joinEqual (os.map (cut 4))
      let ps := joinEqual (ps.map (cut 4))
      if os.length + ps.length ≤ maxCount then some (joinEqual (os ++ ps)) else none
  | _, _ => none

/-- The openings of two expressions in a row. If those of the second are too many, the first ones
stay as they are, unless one of their words is empty. -/
def andThen (first second : Openings) : Openings :=
  match first with
  | none => none
  | some os =>
    match second.filter fun ps => os.length * ps.length ≤ maxCount with
    | some ps =>
      some ((joinEqual (os.flatMap fun o =>
        if o.isWhole then ps.map o.append else [o])).map (cut maxLength))
    | none => if os.any fun o => o.word.isEmpty then none else extended (some os)

/-- Follow openings by others, unless nothing can change them. -/
def followedBy (first second : Openings) : Openings :=
  if first.isSettled then first else first.andThen second

/-- The openings of `n` stretches in a row. -/
def times (os : Openings) (n : Nat) : Openings :=
  let all := Nat.repeat (followedBy · os) (min n maxTimes) ofEmpty
  if n ≤ maxTimes then all else extended all

end Openings

namespace Expr

/-! ### Openings of an expression -/

/-- What an expression is a part of. -/
inductive Whole
  /-- Nothing else. -/
  | itself
  /-- A row of expressions. -/
  | row
  /-- An alternation. -/
  | alternation
deriving DecidableEq, Repr

/-- Put openings to those of the parts in front. -/
def Whole.put : Whole → Openings → Openings → Openings
  | .itself, _, os => os
  | .row, before, os => before.followedBy os
  | .alternation, before, os => before.either os

/-- The openings of an expression, put to those of the parts in front. -/
def openings : Expr → Whole → Openings → Openings
  | .empty, w, before => w.put before .ofEmpty
  | .look _, w, before => w.put before .ofEmpty
  | .literal text, w, before => w.put before (.ofText text)
  | .one set _, w, before => w.put before (.ofSet set)
  | .group a, w, before => w.put before (a.openings .itself none)
  | .seq a b, .row, before => b.openings .row (a.openings .row before)
  | .seq a b, w, before => w.put before (b.openings .row (a.openings .row .ofEmpty))
  | .alt a b, .alternation, before => b.openings .alternation (a.openings .alternation before)
  | .alt a b, w, before =>
    w.put before (b.openings .alternation (a.openings .alternation (some [])))
  | .rep a least most prefersMany, w, before =>
    let inner := a.openings .itself none
    w.put before <|
      if least = 0 then
        let inner := if most = some 1 then inner else inner.extended
        if prefersMany then inner.either .ofEmpty else Openings.ofEmpty.either inner
      else
        let all := inner.times least
        if most = some least then all else all.extended

/-! ### Search by words -/

/-- Octets that are rare enough in texts to search for one of them alone. -/
def rareOctets : Unicode.CodeSet :=
  Unicode.CodeSet.ofText
    "0-9 b-c e-1f 21-27 2a-2b 33-38 3b-5e 60 6a-6b 71 77 7a-7b 7d-7f"

/-- Shorten the words of a long list, step by step. As long as there are more words than the second
number of a step tells, as many octets of each are kept as the first one tells. -/
def shortened : List (Nat × Nat) → List Opening → List Opening
  | [], os => os
  | (length, count) :: steps, os =>
    if os.length ≤ count then os
    else shortened steps (Opening.dropCovered (os.map (Opening.cut length)))

/-- Whether a search for some words that are whole stretches is better than a search for the start
of a stretch. It is not if a few octets tell enough: a long common start, or the starts of not too
many words, if none of them is too short. -/
def isBestWhole (os : List Opening) : Bool :=
  let starts := shortened [(5, 10), (4, 10), (3, 64), (2, 64), (1, 10)] os
  starts.all (·.isWhole) || starts.any (·.word.length ≤ 2) || 64 < starts.length

/-- Whether some openings are whole stretches for which a search is made. -/
def areSearchedFor (openings : List Opening) : Bool :=
  let os := Opening.dropCovered openings
  let start := Opening.commonStart os
  if openings.isEmpty || openings.any (·.word.isEmpty) then false
  else if 1 < openings.length && start.length ≤ 3 && start.head?.any rareOctets.containsCode then
    os.all fun o => o.isWhole && o.word.length ≤ 1
  else if !os.all (·.isWhole) then false
  else if 4 < start.length || (1 < start.length && 16 < os.length) then
    os.all (·.word.length ≤ start.length)
  else isBestWhole os

/-- Whether an expression has neither conditions nor parts whose extent is recorded. -/
def isPlain : Expr → Bool
  | .look _ => false
  | .seq a b => a.isPlain && b.isPlain
  | .alt a b => a.isPlain && b.isPlain
  | .group _ => false
  | .rep a _ _ _ => a.isPlain
  | _ => true

/-- Whether the stretches of an expression are found by a search for words. -/
def isFoundByWords (e : Expr) : Bool :=
  e.isPlain && (e.openings .itself none).any fun os => areSearchedFor (Opening.joinEqual os)

end Expr

end SymbolProbe.Pattern

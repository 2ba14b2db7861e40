import SymbolProbe.Pattern.Footprint.Room

/-!
# Word trees

An alternation of literals is read by a tree of their octets: words that start alike share states.
The order of the words counts, since an earlier word is preferred to a later one. So where a word
ends, the words behind it are kept apart from those in front of it.
-/

namespace SymbolProbe.Pattern

/-- A word, as a list of octets. -/
abbrev Word := List Nat

/-- The octets of a text, from the first to the last or the other way round. -/
def wordOf (d : Direction) (text : List Char) : Word :=
  let octets := text.flatMap fun c => (String.utf8EncodeChar c).map UInt8.toNat
  match d with
  | .forward => octets
  | .backward => octets.reverse

/-- Cut the rests of some words where a word ends. The ends in front of all rests count as one. -/
def splitAtEnds : List Word → List (List Word)
  | ws =>
    let rests := ws.dropWhile (·.isEmpty)
    if rests.length = ws.length then go rests else [] :: go rests
where
  /-- Cut at every end. -/
  go : List Word → List (List Word)
    | [] => [[]]
    | [] :: ws => [] :: go ws
    | w :: ws =>
      match go ws with
      | [] => [[w]]
      | part :: parts => (w :: part) :: parts

/-- Put a rest to those that start with the same octet. -/
def putByHead (groups : List (Nat × List Word)) : Word → List (Nat × List Word)
  | [] => groups
  | o :: w =>
    if groups.any (·.1 == o) then
      groups.map fun g => if g.1 == o then (g.1, g.2 ++ [w]) else g
    else groups ++ [(o, [w])]

/-- The room with the states that read the rests of some words, which have at most `n` octets. A
place of the tree has a switch, or a plain state, for each part between two ends, and a fork to
these and to the ends. Behind the last octet of all words there is no state. -/
def addWords : Nat → List Word → Room → Room
  | 0, _, r => r
  | n + 1, ws, r =>
    if ws.all (·.isEmpty) then r
    else
      let parts := (splitAtEnds ws).map fun part => part.foldl putByHead []
      let r := parts.foldl (fun r groups =>
        let r := groups.foldl (fun r g => addWords n g.2 r) r
        match groups.length with
        | 0 => r
        | 1 => r.add 1
        | count => r.addSwitch count) r
      r.addFork ((parts.filter (!·.isEmpty)).length + parts.length - 1)

/-- The room with the states for an alternation of literals. -/
def Room.addWordTree (ws : List Word) (r : Room) : Room :=
  addWords (ws.foldl (fun n w => max n w.length) 0) ws (r.add 1)

end SymbolProbe.Pattern

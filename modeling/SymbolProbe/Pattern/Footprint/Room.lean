import Std.Data.HashMap
import SymbolProbe.Pattern.Footprint.OctetSequence

/-!
# Room for states

The room that the states of an automaton take. States are numbered in the order in which they are
added. A state for a part of a set is shared if the same state was added for the set before; but the
states that can be shared are kept in a fixed number of slots, told by a hash of what the state
does, and a newer state displaces an older one from its slot. So the room for a set may depend on
how many states there were before.
-/

namespace SymbolProbe.Pattern

open Unicode (CodeSet)

/-! ### States -/

/-- The states of an automaton, as far as their room is concerned. -/
structure Room where
  /-- The number of states. -/
  states : Nat := 0
  /-- The octets that their links take. -/
  links : Nat := 0
deriving DecidableEq, Repr

namespace Room

/-- The bound on the room, in octets. -/
def limit : Nat := 10 * 1024 * 1024

/-- The size in octets. A state without its links takes 32 of them. -/
def size (r : Room) : Nat := 32 * r.states + r.links

/-- Whether the room is within the bound. -/
def fits (r : Room) : Bool := r.size ≤ limit

/-- The room with some more states that have one link each. -/
def add (r : Room) (count : Nat) : Room := { r with states := r.states + count }

/-- The room with one more state that branches without reading; each branch is a link. -/
def addFork (r : Room) (branches : Nat) : Room := ⟨r.states + 1, r.links + 4 * branches⟩

/-- The room with one more state that branches by the octet it reads; each range is a link. -/
def addSwitch (r : Room) (ranges : Nat) : Room := ⟨r.states + 1, r.links + 8 * ranges⟩

/-- Add states `n` times, as long as the room is within the bound. -/
def addTimes (f : Room → Room) : Nat → Room → Room
  | 0, r => r
  | n + 1, r => if r.fits then addTimes f n (f r) else r

end Room

/-! ### Shared states -/

/-- The room while states for a set are added: `kept` holds, in some of the slots, what a state does
and the number of the state. -/
structure SharedRoom where
  room : Room
  kept : Std.HashMap Nat (List Nat × Nat) := {}

/-- The hash of a list of numbers, in 64 bits. -/
def hashOf (ns : List Nat) : UInt64 :=
  ns.foldl (fun h n => (h ^^^ n.toUInt64) * 1099511628211) 14695981039346656037

/-- The number of the state that does what the list tells, which is added unless it is kept in its
slot out of `slots`. -/
def SharedRoom.state (s : SharedRoom) (slots : Nat) (does : List Nat) (add : Room → Room) :
    Nat × SharedRoom :=
  let slot := (hashOf does).toNat % slots
  let number := s.room.states
  match s.kept[slot]? with
  | some (other, number') =>
    if other = does then (number', s) else (number, ⟨add s.room, s.kept.insert slot (does, number)⟩)
  | none => (number, ⟨add s.room, s.kept.insert slot (does, number)⟩)

/-! ### Sets -/

/-- The state from which the rest of some sequences is read, up to the state `last`. Of each
sequence `n` ranges are left. -/
def readForward (last : Nat) : Nat → List OctetSequence → SharedRoom → Nat × SharedRoom
  | 0, _, s => (last, s)
  | n + 1, ss, s =>
    if ss.all (·.isEmpty) then (last, s)
    else
      let groups := groupByHead ss
      let (does, s) := groups.foldl (fun (does, s) g =>
        let (next, s) := readForward last n g.2 s
        (does ++ [g.1.1, g.1.2, next], s)) (([] : List Nat), s)
      s.state 10000 does (·.addSwitch groups.length)

/-- Add the states that read a sequence backward from the state `last`. -/
def readBackward (last : Nat) (s : SharedRoom) (ranges : OctetSequence) : SharedRoom :=
  (ranges.foldl (fun (next, s) r => s.state 1000 [next, r.1, r.2] (·.add 1)) (last, s)).2

/-- The directions in which an automaton reads. -/
inductive Direction
  | forward
  | backward
deriving DecidableEq, Repr

/-- The room with the states for a set. A set of the ASCII range takes one state that reads and one
behind it. Otherwise common ends are shared in the forward direction, and common starts in the
backward direction. -/
def Room.addSet (d : Direction) (set : CodeSet) (r : Room) : Room :=
  if set.isAscii then (r.add 1).addSwitch set.ranges.length
  else
    let ss := octetSequences set
    match d with
    | .forward => (readForward r.states 4 ss ⟨r.add 1, {}⟩).2.room
    | .backward =>
      (ss.foldl (readBackward (r.states + 1)) ⟨(r.addFork ss.length).add 1, {}⟩).room

end SymbolProbe.Pattern

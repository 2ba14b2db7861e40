import SymbolProbe.Text.Hex

/-!
# Sets of code points

A set of code points is a list of ranges in ascending order, with a gap between any two of them.
Tables of such sets are written as text: ranges in hexadecimal, separated by blanks, where a lone
code point is a range of its own.
-/

namespace SymbolProbe.Unicode

/-- The code points from the first to the second, both included. -/
abbrev CodeRange := Nat × Nat

/-- A set of code points. -/
structure CodeSet where
  ranges : List CodeRange
deriving DecidableEq, Repr, Inhabited

namespace CodeSet

/-! ### Elements -/

/-- Whether a code point belongs to the set. -/
def containsCode (s : CodeSet) (n : Nat) : Bool :=
  s.ranges.any fun r => r.1 ≤ n && n ≤ r.2

/-- Whether a character belongs to the set. -/
def contains (s : CodeSet) (c : Char) : Bool := s.containsCode c.toNat

/-- The set without elements. -/
def empty : CodeSet := ⟨[]⟩

/-- The set of one range. -/
def range (lo hi : Nat) : CodeSet := ⟨[(lo, hi)]⟩

/-- The set of one character. -/
def singleton (c : Char) : CodeSet := range c.toNat c.toNat

/-- The code points that are characters: all but the surrogates. -/
def scalars : CodeSet := ⟨[(0, 0xD7FF), (0xE000, 0x10FFFF)]⟩

/-- The ASCII range. -/
def ascii : CodeSet := range 0 0x7F

/-! ### Ranges in order -/

/-- Join ranges that touch, given ranges in the order of their starts. -/
def coalesce : List CodeRange → List CodeRange
  | [] => []
  | r :: rs => go r rs
where
  /-- Extend the range at hand as long as the next one touches it. -/
  go (r : CodeRange) : List CodeRange → List CodeRange
    | [] => [r]
    | s :: rs => if s.1 ≤ r.2 + 1 then go (r.1, max r.2 s.2) rs else r :: go s rs

/-- The set that ranges in any order cover. -/
def ofRanges (rs : List CodeRange) : CodeSet :=
  ⟨coalesce (rs.mergeSort fun r s => decide (r.1 ≤ s.1))⟩

/-- What is left of the first ranges without the second. -/
def subtract : List CodeRange → List CodeRange → List CodeRange
  | [], _ => []
  | rs, [] => rs
  | (a, b) :: rs, (c, d) :: ss =>
    if b < c then (a, b) :: subtract rs ((c, d) :: ss)
    else if d < a then subtract ((a, b) :: rs) ss
    else
      let left := if a < c then [(a, c - 1)] else []
      if b ≤ d then left ++ subtract rs ((c, d) :: ss)
      else left ++ subtract ((d + 1, b) :: rs) ss
termination_by rs ss => rs.length + ss.length

/-! ### Operations on sets -/

/-- The elements of either set. -/
def union (s t : CodeSet) : CodeSet := ofRanges (s.ranges ++ t.ranges)

/-- The elements of any of the sets. -/
def unions (ss : List CodeSet) : CodeSet := ofRanges (ss.flatMap ranges)

/-- The elements of the first set that are not in the second. -/
def diff (s t : CodeSet) : CodeSet := ⟨subtract s.ranges t.ranges⟩

/-- The elements of both sets. -/
def inter (s t : CodeSet) : CodeSet := s.diff (s.diff t)

/-- The elements of exactly one of the sets. -/
def symmDiff (s t : CodeSet) : CodeSet := (s.diff t).union (t.diff s)

/-- The characters outside the set. -/
def compl (s : CodeSet) : CodeSet := scalars.diff s

/-- Whether all elements are in the ASCII range. -/
def isAscii (s : CodeSet) : Bool := s.ranges.all fun r => r.2 ≤ 0x7F

/-- The number of code points in the set. -/
def size (s : CodeSet) : Nat := s.ranges.foldr (fun r n => r.2 + 1 - r.1 + n) 0

/-! ### Sets written as text -/

/-- The state in the middle of a written set: the ranges read, the start of the range at hand, and
the number at hand. -/
structure Reading where
  done : List CodeRange := []
  start : Option Nat := none
  number : Option Nat := none

/-- End the range at hand. -/
def Reading.close (r : Reading) : Reading :=
  match r.number with
  | some n => { done := (r.start.getD n, n) :: r.done }
  | none => r

/-- Read one more character. -/
def Reading.next (r : Reading) (c : Char) : Reading :=
  match Text.Hex.digit? c with
  | some d => { r with number := some (r.number.getD 0 * 16 + d) }
  | none => if c = '-' then { r with start := r.number, number := none } else r.close

/-- The set that a text describes, its ranges being written in ascending order. -/
def ofText (text : String) : CodeSet :=
  ⟨(text.foldl Reading.next {}).close.done.reverse⟩

end CodeSet

end SymbolProbe.Unicode

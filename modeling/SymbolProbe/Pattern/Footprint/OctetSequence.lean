import SymbolProbe.Unicode.CodeSet

/-!
# Octet sequences

An automaton reads the octets of UTF-8. A set of characters is spelled by sequences of ranges of
octets: a text encodes a character of the set if each of its octets lies in the range of its place
in one of the sequences. The sequences stand in ascending order, and no two of them share a
character.
-/

namespace SymbolProbe.Pattern

open Unicode (CodeSet CodeRange)

/-- The octets from the first to the second, both included. -/
abbrev OctetRange := Nat × Nat

/-- One range for each octet of an encoded character. -/
abbrev OctetSequence := List OctetRange

/-- The octet that continues a character with six more bits. -/
def continuation (n : Nat) : Nat := 0x80 + n

/-- All octets that continue a character. -/
def continuations : OctetRange := (continuation 0, continuation 63)

/-- The sequences of `k + 1` ranges that spell the numbers from `lo` to `hi` by six bits per octet,
where `lead` gives the first octet. -/
def spellings : Nat → (Nat → Nat) → Nat → Nat → List OctetSequence
  | 0, lead, lo, hi => [[(lead lo, lead hi)]]
  | k + 1, lead, lo, hi =>
    let block := Nat.pow 64 (k + 1)
    let full := List.replicate (k + 1) continuations
    let first := lo / block
    let last := hi / block
    let startsBlock := lo % block == 0
    let endsBlock := hi % block == block - 1
    let inside := fun d lo hi => (spellings k continuation lo hi).map ((lead d, lead d) :: ·)
    if startsBlock && endsBlock then [(lead first, lead last) :: full]
    else if first = last then inside first (lo % block) (hi % block)
    else
      let start := if startsBlock then first else first + 1
      let stop := if endsBlock then last + 1 else last
      (if startsBlock then [] else inside first (lo % block) (block - 1)) ++
        (if start < stop then [(lead start, lead (stop - 1)) :: full] else []) ++
        (if endsBlock then [] else inside last 0 (hi % block))

/-- The sequences of `k + 1` ranges that spell the characters of a range between two bounds, where
`mark` starts the first octet. -/
def spellingsWithin (r : CodeRange) (k mark lo hi : Nat) : List OctetSequence :=
  if max r.1 lo ≤ min r.2 hi then spellings k (mark + ·) (max r.1 lo) (min r.2 hi) else []

/-- The sequences that spell a set. -/
def octetSequences (s : CodeSet) : List OctetSequence :=
  s.ranges.flatMap fun r =>
    spellingsWithin r 0 0 0x0 0x7F ++ spellingsWithin r 1 0xC0 0x80 0x7FF ++
      spellingsWithin r 2 0xE0 0x800 0xFFFF ++ spellingsWithin r 3 0xF0 0x10000 0x10FFFF

/-- Group neighbouring sequences by their first range. -/
def groupByHead : List OctetSequence → List (OctetRange × List OctetSequence)
  | [] => []
  | [] :: ss => groupByHead ss
  | (r :: rest) :: ss =>
    match groupByHead ss with
    | (q, tails) :: gs =>
      if q = r then (r, rest :: tails) :: gs else (r, [rest]) :: (q, tails) :: gs
    | [] => [(r, [rest])]

end SymbolProbe.Pattern

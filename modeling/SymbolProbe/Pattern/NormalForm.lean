import SymbolProbe.Pattern.Expr

/-!
# Expressions in normal form

Expressions are put together by functions that keep them in a normal form. Rows are nested to the
right and hold no empty parts, no rows, and no two literals side by side. Alternations are nested to
the right and hold no alternations; a choice between sets is one set, and what all branches start
with stands in front of the alternation. A set of one character is a literal.
-/

namespace SymbolProbe.Pattern

open Unicode (CodeSet)

/-- The number of octets that encode a character, given by its number. -/
def octetCount (n : Nat) : Nat :=
  if n < 0x80 then 1 else if n < 0x800 then 2 else if n < 0x10000 then 3 else 4

namespace Expr

/-! ### Lengths -/

/-- The least number of octets in a stretch. An empty set leaves it open. -/
def leastLength? : Expr → Option Nat
  | .empty => some 0
  | .literal text => some (text.foldl (fun n c => n + octetCount c.toNat) 0)
  | .one set _ => set.ranges.head?.map fun r => octetCount r.1
  | .look _ => some 0
  | .seq a b => do return (← a.leastLength?) + (← b.leastLength?)
  | .alt a b => do return min (← a.leastLength?) (← b.leastLength?)
  | .group a => a.leastLength?
  | .rep a least _ _ => a.leastLength?.map (· * least)

/-- The greatest number of octets in a stretch, if there is a bound. An empty set has none. -/
def greatestLength? : Expr → Option Nat
  | .empty => some 0
  | .literal text => some (text.foldl (fun n c => n + octetCount c.toNat) 0)
  | .one set _ => set.ranges.getLast?.map fun r => octetCount r.2
  | .look _ => some 0
  | .seq a b => do return (← a.greatestLength?) + (← b.greatestLength?)
  | .alt a b => do return max (← a.greatestLength?) (← b.greatestLength?)
  | .group a => a.greatestLength?
  | .rep a _ most _ => do return (← a.greatestLength?) * (← most)

/-- Whether every stretch is known to be empty. -/
def isZeroWidth (e : Expr) : Bool := e.greatestLength? == some 0

/-! ### Sets -/

/-- One character of a set. -/
def ofSet (isAsciiOnly : Bool) (s : CodeSet) : Expr :=
  match s.ranges with
  | [] => .one CodeSet.empty true
  | [(a, b)] => if a = b then .literal [Char.ofNat a] else .one s isAsciiOnly
  | _ => .one s isAsciiOnly

/-! ### Rows -/

/-- The parts of a row. -/
def parts : Expr → List Expr
  | .empty => []
  | .seq a b => a :: b.parts
  | e => [e]

/-- The row with the given parts. -/
def ofParts : List Expr → Expr
  | [] => .empty
  | [e] => e
  | e :: es => .seq e (ofParts es)

/-- Join the literals that stand side by side. -/
def joinLiterals : List Expr → List Expr
  | .literal s :: es =>
    match joinLiterals es with
    | .literal t :: es => .literal (s ++ t) :: es
    | es => .literal s :: es
  | e :: es => e :: joinLiterals es
  | [] => []

/-- Expressions in a row. -/
def row (es : List Expr) : Expr := ofParts (joinLiterals (es.flatMap parts))

/-! ### Alternations -/

/-- The branches of an alternation. -/
def branches : Expr → List Expr
  | .alt a b => a :: b.branches
  | e => [e]

/-- The alternation with the given branches; of none, an expression without stretches. -/
def ofBranches : List Expr → Expr
  | [] => ofSet true CodeSet.empty
  | [e] => e
  | e :: es => .alt e (ofBranches es)

/-- The set of a literal of one character. -/
def letterSet? : Expr → Option CodeSet
  | .literal [c] => some (CodeSet.singleton c)
  | _ => none

/-- The set of an expression that is one character of a set. -/
def set? : Expr → Option CodeSet
  | .one s _ => some s
  | _ => none

/-- The set that branches describe together: either all of them are literals of one character, or
all are sets. -/
def commonSet? (es : List Expr) : Option CodeSet :=
  ((es.mapM letterSet?).or (es.mapM set?)).map CodeSet.unions

/-- Whether the extent of a part is recorded. -/
def hasGroup : Expr → Bool
  | .seq a b => a.hasGroup || b.hasGroup
  | .alt a b => a.hasGroup || b.hasGroup
  | .group _ => true
  | .rep a _ _ _ => a.hasGroup
  | _ => false

/-- The parts that two rows start with. A recorded part is never shared, since each record is one of
its own. -/
def commonParts : List Expr → List Expr → List Expr
  | a :: as, b :: bs => if a = b && !a.hasGroup then a :: commonParts as bs else []
  | _, _ => []

/-- Whether an expression is a row of several parts. -/
def isRow : Expr → Bool
  | .seq _ _ => true
  | _ => false

/-- The parts that all branches start with, if all of them are rows. -/
def commonStart : List Expr → List Expr
  | [] => []
  | e :: es =>
    if (e :: es).all isRow then es.foldl (fun start b => commonParts start b.parts) e.parts else []

/-- The number of expressions that an expression is made of. -/
def size : Expr → Nat
  | .seq a b => a.size + b.size + 1
  | .alt a b => a.size + b.size + 1
  | .group a => a.size + 1
  | .rep a _ _ _ => a.size + 1
  | _ => 1

/-- Any one of some branches. What they start with is taken out at most `n` times. -/
def choice (n : Nat) (es : List Expr) : Expr :=
  let es := es.flatMap branches
  match n, es, commonSet? es with
  | _, [], _ => ofBranches []
  | _, [e], _ => e
  | _, _, some s => ofSet false s
  | 0, es, none => ofBranches es
  | n + 1, es, none =>
    let start := commonStart es
    if start.isEmpty then ofBranches es
    else row (start ++ [choice n (es.map fun e => ofParts (e.parts.drop start.length))])

/-- Any one of some expressions. -/
def alternation (es : List Expr) : Expr := choice (es.foldl (fun n e => n + e.size) 0) es

/-! ### Repetitions -/

/-- A repetition. An expression of empty stretches need not be repeated. -/
def repeated (e : Expr) (least : Nat) (most : Option Nat) (prefersMany : Bool) : Expr :=
  let least := if e.isZeroWidth then min least 1 else least
  let most := if e.isZeroWidth then some ((most.map (min 1)).getD 1) else most
  match least, most with
  | 0, some 0 => .empty
  | 1, some 1 => e
  | least, most => .rep e least most prefersMany

end Expr

end SymbolProbe.Pattern

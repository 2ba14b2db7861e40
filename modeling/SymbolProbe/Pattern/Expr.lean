import SymbolProbe.Pattern.Look

/-!
# Expressions and their matches

An expression describes stretches of a text. A place of a text is the number of characters in
front of it, and a set of places is a number whose bits tell its elements. `Expr.reach` carries a
set of places where an expression may start over to the set of places where it may end, so a
search anywhere in the text starts from all places at once.
-/

namespace SymbolProbe.Pattern

open Unicode (CodeSet)

/-! ### Expressions -/

/-- The stretches of text that a pattern describes. -/
inductive Expr
  /-- The empty stretch. -/
  | empty
  /-- A text that stands for itself. -/
  | literal (text : List Char)
  /-- One character of a set. The set may come from a part of the pattern in which nothing beyond
  the ASCII range counts. -/
  | one (set : CodeSet) (isAsciiOnly : Bool)
  /-- The empty stretch at a place where a condition holds. -/
  | look (condition : Look)
  /-- A stretch of the first expression and one of the second behind it. -/
  | seq (first second : Expr)
  /-- A stretch of either expression. -/
  | alt (left right : Expr)
  /-- A stretch of the expression whose extent is recorded. -/
  | group (inner : Expr)
  /-- Between `least` and `most` stretches in a row, any number from `least` on without `most`.
  Whether many or few of them are preferred has no bearing on which stretches there are. -/
  | rep (inner : Expr) (least : Nat) (most : Option Nat) (prefersMany : Bool)
deriving DecidableEq, Repr, Inhabited

/-! ### Sets of places -/

/-- The places in front of the characters for which `f` holds. -/
def placesBefore (f : Char → Bool) : List Char → Nat
  | [] => 0
  | c :: t => 2 * placesBefore f t + (f c).toNat

/-- The places of a text where a condition holds, the character in front of it being given. -/
def placesWhere (f : Option Char → Option Char → Bool) (before : Option Char) : List Char → Nat
  | [] => (f before none).toNat
  | c :: t => 2 * placesWhere f (some c) t + (f before (some c)).toNat

/-- The places behind one character for which `f` holds, from the given places. -/
def reachOne (f : Char → Bool) (t : List Char) (s : Nat) : Nat := (s &&& placesBefore f t) <<< 1

/-- The places behind a text that stands for itself, from the given places. -/
def reachText (t : List Char) : List Char → Nat → Nat
  | [], s => s
  | c :: cs, s => reachText t cs (reachOne (· == c) t s)

/-- Apply `f` to a set of places `n` times; the empty set stays empty. -/
def reachTimes (f : Nat → Nat) : Nat → Nat → Nat
  | 0, s => s
  | n + 1, s => if s = 0 then 0 else reachTimes f n (f s)

/-- The places that at most `n` applications of `f` reach. -/
def reachWithin (f : Nat → Nat) : Nat → Nat → Nat
  | 0, s => s
  | n + 1, s => if s ||| f s = s then s else reachWithin f n (s ||| f s)

/-! ### Matches -/

namespace Expr

/-- The places of the text where a stretch may end that starts at a place of the given set. -/
def reach (t : List Char) : Expr → Nat → Nat
  | .empty, s => s
  | .literal text, s => reachText t text s
  | .one set _, s => reachOne set.contains t s
  | .look l, s => s &&& placesWhere (fun b a => l.holds b a) none t
  | .seq a b, s => b.reach t (a.reach t s)
  | .alt a b, s => a.reach t s ||| b.reach t s
  | .group a, s => a.reach t s
  | .rep a least most _, s =>
    reachWithin (a.reach t) ((most.map (· - least)).getD (t.length + 1))
      (reachTimes (a.reach t) least s)

/-- Whether the expression describes a stretch anywhere in the text. -/
def occursIn (e : Expr) (t : List Char) : Bool :=
  e.reach t (1 <<< (t.length + 1) - 1) != 0

end Expr

end SymbolProbe.Pattern

import SymbolProbe.Pattern.NormalForm
import SymbolProbe.Pattern.Tree
import SymbolProbe.Unicode.Case
import SymbolProbe.Unicode.Lookup

/-!
# Meaning of pattern trees

A tree is turned into an expression under the flags in force, from left to right. Beyond the ASCII
range a pattern speaks of characters, never of single bytes, so everything that would match a lone
byte there has no meaning.
-/

namespace SymbolProbe.Pattern

open Unicode (CodeSet)

/-! ### Flags in force -/

/-- The flags that bear on the meaning of a tree. -/
structure Flags where
  ignoreCase : Bool := false
  multiLine : Bool := false
  dotAll : Bool := false
  swapGreed : Bool := false
  unicode : Bool := true
  eitherLineEnd : Bool := false
deriving DecidableEq, Repr

/-- The flags after some changes. -/
def Flags.change (f : Flags) (cs : FlagChanges) : Flags where
  ignoreCase := (cs.value? .ignoreCase).getD f.ignoreCase
  multiLine := (cs.value? .multiLine).getD f.multiLine
  dotAll := (cs.value? .dotAll).getD f.dotAll
  swapGreed := (cs.value? .swapGreed).getD f.swapGreed
  unicode := (cs.value? .unicode).getD f.unicode
  eitherLineEnd := (cs.value? .eitherLineEnd).getD f.eitherLineEnd

/-! ### Sets -/

/-- Add the other cases of all elements where case does not count. -/
def Flags.fold (f : Flags) (s : CodeSet) : CodeSet :=
  if f.ignoreCase then if f.unicode then s.foldCase else s.foldAsciiCase else s

/-- A set or its complement. Without Unicode the complement would hold lone bytes. -/
def Flags.negate? (f : Flags) (negated : Bool) (s : CodeSet) : Option CodeSet :=
  if negated then if f.unicode then some s.compl else none else some s

/-- A written set: cases are added before the complement is taken. -/
def Flags.close? (f : Flags) (negated : Bool) (s : CodeSet) : Option CodeSet :=
  f.negate? negated (f.fold s)

/-- The decimal digits, the white space, and the characters of words. -/
def ShortClass.codes (unicode : Bool) : ShortClass → CodeSet
  | .digit => if unicode then Unicode.Category.decimalNumber.codes else ⟨[(48, 57)]⟩
  | .space => if unicode then Unicode.Property.whiteSpace.codes else ⟨[(9, 13), (32, 32)]⟩
  | .word =>
    if unicode then Unicode.Property.word.codes
    else ⟨[(48, 57), (65, 90), (95, 95), (97, 122)]⟩

/-- The characters that a property names; they need Unicode. -/
def NamedClass.codes? (f : Flags) : NamedClass → Option CodeSet
  | .named name => if f.unicode then Unicode.setOfName? name else none
  | .valued property value => if f.unicode then Unicode.setOfValue? property value else none

/-- The operation on sets. -/
def SetOp.apply : SetOp → CodeSet → CodeSet → CodeSet
  | .inter => CodeSet.inter
  | .diff => CodeSet.diff
  | .symmDiff => CodeSet.symmDiff

/-- The character that a letter stands for inside a class. -/
def Letter.inClass? (f : Flags) (l : Letter) : Option Char :=
  if f.unicode || l.char.toNat < 0x80 then some l.char else none

mutual
/-- The characters that the inside of a class describes. -/
def ClassTree.codes? (f : Flags) : ClassTree → Option CodeSet
  | .letter l => (l.inClass? f).map CodeSet.singleton
  | .span lo hi => do
    let a ← lo.inClass? f
    let b ← hi.inClass? f
    pure (CodeSet.range a.toNat b.toNat)
  | .short c negated => f.negate? negated (c.codes f.unicode)
  | .named c negated => (c.codes? f).bind (f.close? negated)
  | .ascii set negated => f.close? negated set
  | .bracket negated inner => (inner.codes? f).bind (f.close? negated)
  | .union items => (ClassTree.codesAll? f items).map CodeSet.unions
  | .op o left right => do
    let a ← left.codes? f
    let b ← right.codes? f
    pure (o.apply (f.fold a) (f.fold b))

/-- The sets that some classes describe. -/
def ClassTree.codesAll? (f : Flags) : List ClassTree → Option (List CodeSet)
  | [] => some []
  | t :: ts => do
    let s ← t.codes? f
    let ss ← ClassTree.codesAll? f ts
    pure (s :: ss)
end

/-! ### Atoms -/

/-- The condition that an anchor stands for. -/
def Anchor.look (f : Flags) : Anchor → Look
  | .lineStart =>
    if f.multiLine then if f.eitherLineEnd then .lineStartEither else .lineStart else .textStart
  | .lineEnd =>
    if f.multiLine then if f.eitherLineEnd then .lineEndEither else .lineEnd else .textEnd
  | .textStart => .textStart
  | .textEnd => .textEnd
  | .word edge => .word (ShortClass.word.codes f.unicode) edge

/-- One character of a set. -/
def Flags.one (f : Flags) (s : CodeSet) : Expr := Expr.ofSet (!f.unicode) s

/-- The expression of an atom. -/
def Atom.expr? (f : Flags) : Atom → Option Expr
  | .letter l =>
    if !f.unicode && l.isByte && 0x80 ≤ l.char.toNat then none
    else some (f.one (f.fold (CodeSet.singleton l.char)))
  | .short c negated => (f.negate? negated (c.codes f.unicode)).map f.one
  | .named c negated => ((c.codes? f).bind (f.close? negated)).map f.one
  | .anchor a => some (.look (a.look f))

/-- The expression of a dot. -/
def dotExpr? (f : Flags) : Option Expr :=
  if !f.unicode then none
  else if f.dotAll then some (f.one CodeSet.scalars)
  else if f.eitherLineEnd then some (f.one (CodeSet.compl ⟨[(10, 10), (13, 13)]⟩))
  else some (f.one (CodeSet.compl ⟨[(10, 10)]⟩))

/-! ### Patterns -/

mutual
/-- The expression of a tree, and the flags in force behind it. -/
def Tree.expr? (f : Flags) : Tree → Option (Expr × Flags)
  | .empty => some (.empty, f)
  | .flags changes => some (.empty, f.change changes)
  | .atom a => (a.expr? f).map fun e => (e, f)
  | .dot => (dotExpr? f).map fun e => (e, f)
  | .bracket negated inner =>
    ((inner.codes? f).bind (f.close? negated)).map fun s => (f.one s, f)
  | .rep inner least most isLazy => do
    let (e, g) ← inner.expr? f
    pure (e.repeated least most (isLazy == f.swapGreed), g)
  | .capture inner => do
    let (e, _) ← inner.expr? f
    pure (.group e, f)
  | .scoped changes inner => do
    let (e, _) ← inner.expr? (f.change changes)
    pure (e, f)
  | .concat items => do
    let (es, g) ← Tree.exprs? f items
    pure (Expr.row es, g)
  | .alternation branches => do
    let (es, g) ← Tree.exprs? f branches
    pure (Expr.alternation es, g)

/-- The expressions of trees in a row, and the flags in force behind them. -/
def Tree.exprs? (f : Flags) : List Tree → Option (List Expr × Flags)
  | [] => some ([], f)
  | t :: ts => do
    let (e, g) ← t.expr? f
    let (es, h) ← Tree.exprs? g ts
    pure (e :: es, h)
end

end SymbolProbe.Pattern

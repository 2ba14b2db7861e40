import SymbolProbe.Text.Hex

/-!
# Numbers in plain scalars

Whole numbers are decimal, or hexadecimal, octal or binary behind `0x`, `0o` or `0b`. A decimal
number with leading zeros is no number but a text. Decimal fractions are read only as far as it
takes to tell that a 64-bit float has a finite value for them.
-/

namespace SymbolProbe.Yaml

/-! ### Whole numbers -/

/-- The value of a row of digits in a base up to sixteen, which is not empty. -/
def digitsValue? (base : Nat) (t : List Char) : Option Nat :=
  if t.isEmpty then none
  else t.foldlM (fun n c => (Text.Hex.digit? c).bind fun d =>
    if d < base then some (n * base + d) else none) 0

/-- Whether a text is a zero with more digits behind it. -/
def isPadded (t : List Char) : Bool := 1 < t.length && t.head? == some '0' && t.all Char.isDigit

/-- The value of a whole number without a sign. -/
def magnitude? : List Char → Option Nat
  | '0' :: 'x' :: t => digitsValue? 16 t
  | '0' :: 'o' :: t => digitsValue? 8 t
  | '0' :: 'b' :: t => digitsValue? 2 t
  | t => if isPadded t then none else digitsValue? 10 t

/-- A whole number. The negative ones have a minus sign, even if they are zero. -/
inductive WholeNumber
  | positive (n : Nat)
  | negative (n : Nat)
deriving DecidableEq, Repr

/-- The count of the numbers of 128 bits. -/
def longSize : Nat := UInt64.size * UInt64.size

/-- The whole number that a text writes in at most 128 bits. -/
def WholeNumber.ofText? : List Char → Option WholeNumber
  | '-' :: t => ((magnitude? t).filter (· ≤ longSize / 2)).map .negative
  | '+' :: t => ((magnitude? t).filter (· < longSize)).map .positive
  | t => ((magnitude? t).filter (· < longSize)).map .positive

/-- Whether a whole number has 64 bits. -/
def WholeNumber.isWord : WholeNumber → Bool
  | .positive n => n < UInt64.size
  | .negative n => n ≤ UInt64.size / 2

/-! ### Decimal fractions -/

/-- A number `mantissa * 10 ^ exponent`. -/
structure Decimal where
  mantissa : Nat
  exponent : Int
deriving DecidableEq, Repr

/-- The exponent that a text writes. -/
def exponent? : List Char → Option Int
  | '-' :: t => (digitsValue? 10 t).map fun n => -(n : Int)
  | '+' :: t => (digitsValue? 10 t).map Int.ofNat
  | t => (digitsValue? 10 t).map Int.ofNat

/-- The decimal fraction that a text writes without a sign: digits with at most one point, and
perhaps an exponent. -/
def Decimal.ofText? (t : List Char) : Option Decimal := do
  let (whole, t) := (t.takeWhile Char.isDigit, t.dropWhile Char.isDigit)
  let t' := if t.head? == some '.' then t.tail else t
  let part := if t.head? == some '.' then t'.takeWhile Char.isDigit else []
  let mantissa ← digitsValue? 10 (whole ++ part)
  match t'.drop part.length with
  | [] => pure ⟨mantissa, -part.length⟩
  | c :: t =>
    if c != 'e' && c != 'E' then none
    let e ← exponent? t
    pure ⟨mantissa, e - part.length⟩

/-- The least number that is rounded to infinity: the middle between the greatest finite float and
the next power of two. -/
def overflowBound : Nat := 1 <<< 1024 - 1 <<< 970

/-- Whether a decimal fraction is rounded to a finite float. Exponents far from the bound are told
by the number of digits. -/
def Decimal.isFinite (d : Decimal) : Bool :=
  let digits : Int := (Nat.toDigits 10 d.mantissa).length
  if d.mantissa = 0 || digits + d.exponent < 300 then true
  else if 320 < digits + d.exponent then false
  else d.mantissa * Nat.pow 10 d.exponent.toNat < overflowBound * Nat.pow 10 (-d.exponent).toNat

/-- Whether a text writes infinity without a sign. -/
def isInfinity (t : List Char) : Bool := t ∈ [".inf".toList, ".Inf".toList, ".INF".toList]

/-- Whether a text writes the value that is not a number. -/
def isNotANumber (t : List Char) : Bool := t ∈ [".nan".toList, ".NaN".toList, ".NAN".toList]

/-- Whether a text writes a float. Only finite decimal fractions and infinity may have a sign. -/
def isFloat (t : List Char) : Bool :=
  let unsigned := if t.head? == some '+' || t.head? == some '-' then t.tail else t
  isInfinity unsigned || isNotANumber t || (Decimal.ofText? unsigned).any Decimal.isFinite

example : WholeNumber.ofText? "-0x1F".toList = some (.negative 31) := by decide

example : WholeNumber.ofText? "007".toList = none := by decide

example : isFloat "+.5".toList = true := by decide

example : isFloat "1e400".toList = false := by decide

end SymbolProbe.Yaml

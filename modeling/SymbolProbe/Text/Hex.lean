/-!
# Hexadecimal numbers

Digits of both cases are read; digits are written in lower case and without leading zeros. Such
numbers mostly stand for characters.
-/

namespace SymbolProbe.Text

/-- The character of a number, if there is one. -/
def charOfNat? (n : Nat) : Option Char := if n.isValidChar then some (Char.ofNat n) else none

namespace Hex

/-- The value of a hexadecimal digit. -/
def digit? (c : Char) : Option Nat :=
  if c.isDigit then some (c.toNat - 48)
  else if 97 ≤ c.toNat && c.toNat ≤ 102 then some (c.toNat - 87)
  else if 65 ≤ c.toNat && c.toNat ≤ 70 then some (c.toNat - 55)
  else none

/-- The value of a row of hexadecimal digits, zero for the empty row. -/
def value? (t : List Char) : Option Nat :=
  (t.mapM digit?).map fun ds => ds.foldl (fun n d => n * 16 + d) 0

/-- The hexadecimal digits of a number. -/
def ofNat (n : Nat) : List Char := Nat.toDigits 16 n

end Hex

end SymbolProbe.Text

import SymbolProbe.Text.Hex
import SymbolProbe.Unicode.Property
import SymbolProbe.Unicode.Recent

/-!
# Quoted text

A quoted text stands between double quotes and holds only characters that can be seen. The others,
and those that would join the character in front of them, are written by number, except for a few
that have an escape of their own. The half-width sound marks of Katakana stand for themselves.
-/

namespace SymbolProbe.Text

open Unicode (Formula CodeSet)

/-- The characters that are written by number. The space is none of them. -/
def unseen : CodeSet :=
  (Formula.without
    (.any [.categories [.control, .format, .privateUse, .unassigned, .spaceSeparator,
      .lineSeparator, .paragraphSeparator], Unicode.Property.graphemeExtend,
      Unicode.Property.defaultIgnorable])
    (.ranges "20 ff9e-ff9f")).codes.diff Unicode.recentVisible

/-- The letter of an escape of its own. -/
def escapeLetter? : Char → Option Char
  | '\x00' => some '0'
  | '\t' => some 't'
  | '\r' => some 'r'
  | '\n' => some 'n'
  | '"' => some '"'
  | '\\' => some '\\'
  | _ => none

/-- A character as it stands in a quoted text. -/
def quotedChar (c : Char) : List Char :=
  match escapeLetter? c with
  | some l => ['\\', l]
  | none =>
    if 0x20 ≤ c.toNat && c.toNat < 0x7F || !unseen.contains c then [c]
    else ['\\', 'u', '{'] ++ Hex.ofNat c.toNat ++ ['}']

/-- A text between quotes. -/
def quoted (text : String) : String :=
  String.ofList ('"' :: text.toList.flatMap quotedChar ++ ['"'])

end SymbolProbe.Text

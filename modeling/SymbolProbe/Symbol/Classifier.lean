import SymbolProbe.Symbol.Basic
import SymbolProbe.Text.Affix

/-!
# Classification of listing lines

A line names a symbol when it has the form

```text
line       := indent scope "::" name terminator rest
indent     := one or more ' '
name       := [A-Za-z_][A-Za-z0-9_]*
terminator := ':' | ';' | '*'
```

and the casing of the name tells the kind of the symbol. The first rule that holds decides:

1. a short name of upper-case letters and digits is a global singleton,
2. a name of two or more characters that starts with `C` is a class,
3. a name of two or more characters that starts with `T` is a class template,
4. a name of two or more characters that starts with a lower-case letter is a free function.

A name followed by `*` can only be a free function. Every other line names no symbol.
-/

namespace SymbolProbe

/-! ### Characters of a line -/

/-- The punctuation that may end a name. -/
inductive Terminator
  | scope
  | statement
  | pointer
deriving DecidableEq, Repr

/-- The terminator that a character stands for. -/
def Terminator.ofChar? : Char → Option Terminator
  | ':' => some .scope
  | ';' => some .statement
  | '*' => some .pointer
  | _ => none

/-- Letters of the ASCII range, digits and the underscore. -/
def isNameChar (c : Char) : Bool := c.isAlphanum || c == '_'

/-- The characters that may start a name. -/
def isNameStart (c : Char) : Bool := c.isAlpha || c == '_'

/-! ### Lines -/

/-- How the lines of one library are read: the namespace that qualifies its symbols, and the
greatest length of a name that is still taken for a singleton. -/
structure Classifier where
  scope : String := "pwx"
  maxSingletonLength : Nat := 3
deriving DecidableEq, Repr

namespace Classifier

/-- What follows the indentation, when there is any. -/
def unindent? : List Char → Option (List Char)
  | ' ' :: line => some (line.dropWhile (· == ' '))
  | _ => none

/-- The name at the start of a text, and the terminator right behind it. -/
def nameAndTerminator? (text : List Char) : Option (List Char × Terminator) :=
  match text.takeWhile isNameChar, text.dropWhile isNameChar with
  | first :: name, next :: _ =>
    if isNameStart first then
      (Terminator.ofChar? next).map fun t => (first :: name, t)
    else
      none
  | _, _ => none

/-- The name that a line carries, and its terminator. -/
def split? (c : Classifier) (line : List Char) : Option (List Char × Terminator) := do
  let body ← unindent? line
  let qualified ← Text.after? c.scope.toList body
  let text ← Text.after? [':', ':'] qualified
  nameAndTerminator? text

/-- A singleton's name is short and has only upper-case letters and digits, a letter first. -/
def isSingletonName (c : Classifier) (name : List Char) : Bool :=
  2 ≤ name.length && name.length ≤ c.maxSingletonLength &&
    (name.head?.any Char.isUpper && name.all fun d => d.isUpper || d.isDigit)

/-- The kind of symbol that a name in front of a terminator stands for. -/
def kind? (c : Classifier) (name : List Char) (t : Terminator) : Option SymbolKind :=
  if t != .pointer && c.isSingletonName name then some .globalSingleton
  else
    match name with
    | first :: _ :: _ =>
      if t != .pointer && first == 'C' then some .objectClass
      else if t != .pointer && first == 'T' then some .classTemplate
      else if first.isLower then some .freeFunction
      else none
    | _ => none

/-- The symbol that a line names, if it names one. -/
def classify (c : Classifier) (line : String) : Option Symbol := do
  let (name, t) ← c.split? line.toList
  let kind ← c.kind? name t
  pure ⟨kind, String.ofList name⟩

end Classifier

end SymbolProbe

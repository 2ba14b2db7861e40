import SymbolProbe.Yaml.Fault
import SymbolProbe.Yaml.Node
import SymbolProbe.Yaml.Number

/-!
# Untyped values

What a node means when nothing is known about the type that is wanted. The tag of a scalar tells
its type; without one, a plain scalar is resolved by its looks and any other is a text.
-/

namespace SymbolProbe.Yaml

/-- What a node means by itself. -/
inductive Value
  | null
  | bool (b : Bool)
  | number (n : WholeNumber)
  | float (t : String)
  | text (t : String)
  | list (items : List Value)
  | record (entries : List (Value × Value))
deriving Repr, Inhabited

namespace Value

/-! ### Scalars -/

/-- Whether a text writes null. -/
def isNullText (t : String) : Bool := t ∈ ["~", "null", "Null", "NULL"]

/-- The truth value that a text writes. -/
def boolOfText? (t : String) : Option Bool :=
  if t ∈ ["true", "True", "TRUE"] then some true
  else if t ∈ ["false", "False", "FALSE"] then some false
  else none

/-- The tag of null. -/
def nullTag : String := "tag:yaml.org,2002:null"

/-- A whole number, which must have 64 bits. -/
def ofNumber (n : WholeNumber) : Except Fault Value :=
  if n.isWord then .ok (.number n) else .error .invalidType

/-- The value of a plain scalar without a tag. -/
def ofPlain (t : String) : Except Fault Value :=
  if t.isEmpty || isNullText t then .ok .null
  else match boolOfText? t with
    | some b => .ok (.bool b)
    | none => match WholeNumber.ofText? t.toList with
      | some n => ofNumber n
      | none =>
        let digits := if t.startsWith "+" || t.startsWith "-" then t.toList.tail else t.toList
        if isFloat t.toList && !isPadded digits then .ok (.float t) else .ok (.text t)

/-- Whether a tag is the document's own. -/
def isOwnTag (tag : String) : Bool := tag.startsWith "!"

/-- The value of a scalar with a tag. The tags of the common types have to fit the text, and a tag
of the document's own tells nothing about a plain scalar. -/
def ofTagged (tag t : String) (isPlain : Bool) : Except Fault Value :=
  if tag = "tag:yaml.org,2002:bool" then
    ((boolOfText? t).map fun b => .ok (.bool b)).getD (.error .malformed)
  else if tag = "tag:yaml.org,2002:int" then
    ((WholeNumber.ofText? t.toList).map ofNumber).getD (.error .malformed)
  else if tag = "tag:yaml.org,2002:float" then
    if isFloat t.toList then .ok (.float t) else .error .malformed
  else if tag = nullTag then
    if isNullText t then .ok .null else .error .malformed
  else if isOwnTag tag && isPlain then ofPlain t
  else .ok (.text t)

/-- The value of a scalar. -/
def ofScalar (p : Properties) (t : String) (isPlain : Bool) : Except Fault Value :=
  match p.tag with
  | some tag => ofTagged tag t isPlain
  | none => if isPlain then ofPlain t else .ok (.text t)

end Value

end SymbolProbe.Yaml

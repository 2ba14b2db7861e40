import SymbolProbe.Proofs.Layout

/-!
# Rule files with one fault

A rule file is spoilt at one place: a required entry of a mapping is left out, or an entry of a
field is repeated. The place may lie as deep as the file goes. What is written for the fields of a
record, and how it is spoilt in turn, is described field by field (`FieldShape`), and
`RuleFile.Spoils` puts the descriptions together.

A table has no fields. There a name may be repeated, and the later rule wins
(`RuleFile.RepeatsRule`).
-/

namespace SymbolProbe

open Yaml

namespace Yaml

/-! ### Records -/

/-- A field of a record: whether it must be there, the nodes that write some value of it, and how
such a node is spoilt. -/
structure FieldShape where
  name : String
  isRequired : Bool := false
  isWritten : Node → Prop
  spoils : Fault → Node → Node → Prop := fun _ _ _ => False

/-- The entries of a record are spoilt: one is left out, or written once more in any place, or what
is written in it is spoilt. -/
inductive SpoilsEntries (shapes : List FieldShape) :
    Fault → List (Node × Node) → List (Node × Node) → Prop
  | missing {s : FieldShape} {es₁ es₂ : List (Node × Node)} {k x : Node} (hs : s ∈ shapes)
      (hrequired : s.isRequired = true) (hk : k.IsWord s.name) :
      SpoilsEntries shapes (.missingField s.name) (es₁ ++ (k, x) :: es₂) (es₁ ++ es₂)
  | repeated {s : FieldShape} {es₁ es₂ : List (Node × Node)} {k x k' x' : Node} (hs : s ∈ shapes)
      (hmem : (k, x) ∈ es₁ ++ es₂) (hk : k.IsWord s.name) (hk' : k'.IsWord s.name)
      (hx' : s.isWritten x') :
      SpoilsEntries shapes (.duplicateField s.name) (es₁ ++ es₂) (es₁ ++ (k', x') :: es₂)
  | inside {s : FieldShape} {es₁ es₂ : List (Node × Node)} {k x x' : Node} {fault : Fault}
      (hs : s ∈ shapes) (hk : k.IsWord s.name) (hx : s.spoils fault x x') :
      SpoilsEntries shapes fault (es₁ ++ (k, x) :: es₂) (es₁ ++ (k, x') :: es₂)

namespace Node

/-- A record that is written as a mapping is spoilt. -/
inductive SpoilsRecord (shapes : List FieldShape) (fault : Fault) : Node → Node → Prop
  | intro {p : Properties} {es es' : List (Node × Node)} (h : SpoilsEntries shapes fault es es') :
      SpoilsRecord shapes fault (.mapping p es) (.mapping p es')

/-! ### Collections -/

variable {α : Type}

/-- One item of a sequence is spoilt. -/
inductive SpoilsItem (spoils : Fault → Node → Node → Prop) (fault : Fault) : Node → Node → Prop
  | intro {p : Properties} {xs ys : List Node} {x x' : Node} (h : spoils fault x x') :
      SpoilsItem spoils fault (.sequence p (xs ++ x :: ys)) (.sequence p (xs ++ x' :: ys))

/-- The value of one entry is spoilt. -/
inductive SpoilsValue (spoils : Fault → Node → Node → Prop) (fault : Fault) : Node → Node → Prop
  | intro {p : Properties} {es₁ es₂ : List (Node × Node)} {k x x' : Node} (h : spoils fault x x') :
      SpoilsValue spoils fault (.mapping p (es₁ ++ (k, x) :: es₂))
        (.mapping p (es₁ ++ (k, x') :: es₂))

/-- An entry of a table is written once more, with a value of its own. Behind the first one it
counts; in front of it, it does not. -/
inductive RepeatsName (value : α → Node → Prop) (t : Table α) : Table α → Node → Node → Prop
  | behind {p : Properties} {es₁ es₂ : List (Node × Node)} {k x k' x' : Node} {n : String} {a : α}
      {t' : Table α} (hmem : (k, x) ∈ es₁) (hk : k.IsQuoted n) (hk' : k'.IsQuoted n)
      (hx' : value a x') (ht' : ∀ m, t'.find? m = if m = n then some a else t.find? m) :
      RepeatsName value t t' (.mapping p (es₁ ++ es₂)) (.mapping p (es₁ ++ (k', x') :: es₂))
  | ahead {p : Properties} {es₁ es₂ : List (Node × Node)} {k x k' x' : Node} {n : String} {a : α}
      (hmem : (k, x) ∈ es₂) (hk : k.IsQuoted n) (hk' : k'.IsQuoted n) (hx' : value a x') :
      RepeatsName value t t (.mapping p (es₁ ++ es₂)) (.mapping p (es₁ ++ (k', x') :: es₂))

/-- What is written in the entry of a name is changed. -/
inductive ChangesEntry (name : String) (changes : Node → Node → Prop) : Node → Node → Prop
  | intro {p : Properties} {es₁ es₂ : List (Node × Node)} {k x x' : Node} (hk : k.IsWord name)
      (hx : changes x x') :
      ChangesEntry name changes (.mapping p (es₁ ++ (k, x) :: es₂))
        (.mapping p (es₁ ++ (k, x') :: es₂))

/-- Some list of texts is written. -/
def WritesTexts (x : Node) : Prop := ∃ ts, IsTexts ts x

/-- Some text is written. -/
def WritesText (x : Node) : Prop := ∃ t, IsQuoted t x

end Node

end Yaml

open Node

/-! ### Rules -/

/-- The fields of the rule of a class. -/
def ClassRule.shapes : List FieldShape := [
  { name := "prelude", isWritten := WritesTexts },
  { name := "args", isWritten := WritesTexts }]

/-- The rule of a class is spoilt. -/
def ClassRule.Spoils : Fault → Node → Node → Prop := SpoilsRecord ClassRule.shapes

/-- The fields of the rule of a class template. -/
def TemplateRule.shapes : List FieldShape := [
  { name := "params", isRequired := true, isWritten := WritesTexts },
  { name := "prelude", isWritten := WritesTexts },
  { name := "args", isWritten := WritesTexts }]

/-- The rule of a class template is spoilt. -/
def TemplateRule.Spoils : Fault → Node → Node → Prop := SpoilsRecord TemplateRule.shapes

/-- The fields of the defaults of templates. -/
def TemplateDefaults.shapes : List FieldShape := [
  { name := "value_type", isWritten := WritesText },
  { name := "associative_marker", isWritten := WritesText },
  { name := "element_marker", isWritten := WritesText },
  { name := "element_value", isWritten := WritesText },
  { name := "element_key", isWritten := WritesText }]

/-- The defaults of templates are spoilt. -/
def TemplateDefaults.Spoils : Fault → Node → Node → Prop := SpoilsRecord TemplateDefaults.shapes

/-- The fields of a signature. -/
def Signature.shapes : List FieldShape := [
  { name := "returns", isRequired := true, isWritten := WritesText },
  { name := "params", isWritten := WritesTexts }]

/-- A signature is spoilt. -/
def Signature.Spoils : Fault → Node → Node → Prop := SpoilsRecord Signature.shapes

namespace FunctionRule

/-- The field of the kind. -/
def kindShape : FieldShape where
  name := "kind"
  isRequired := true
  isWritten := fun x => ∃ kind, IsWord (kindName kind) x

/-- The fields besides the kind. A rule has those of its kind. -/
def contentShapes : List FieldShape := [
  { name := "args", isRequired := true, isWritten := WritesText },
  { name := "signatures", isRequired := true,
    isWritten := fun x => ∃ signatures, IsListOf Signature.IsLaidOutAs signatures x
    spoils := SpoilsItem Signature.Spoils }]

/-- A function rule is spoilt. -/
def Spoils : Fault → Node → Node → Prop := SpoilsRecord (kindShape :: contentShapes)

end FunctionRule

/-- The fields of an entry of the patterns. -/
def PatternEntry.shapes : List FieldShape := [
  { name := "pattern", isRequired := true, isWritten := WritesText },
  { name := "rule", isRequired := true, isWritten := fun x => ∃ r, FunctionRule.IsLaidOutAs r x
    spoils := FunctionRule.Spoils }]

/-- An entry of the patterns is spoilt. -/
def PatternEntry.Spoils : Fault → Node → Node → Prop := SpoilsRecord PatternEntry.shapes

namespace RuleFile

/-- The fields of a rule file. -/
def shapes : List FieldShape := [
  { name := "classes", isWritten := fun x => ∃ t, IsTableOf ClassRule.IsLaidOutAs t x
    spoils := SpoilsValue ClassRule.Spoils },
  { name := "templates", isWritten := fun x => ∃ t, IsTableOf TemplateRule.IsLaidOutAs t x
    spoils := SpoilsValue TemplateRule.Spoils },
  { name := "functions", isWritten := fun x => ∃ t, IsTableOf FunctionRule.IsLaidOutAs t x
    spoils := SpoilsValue FunctionRule.Spoils },
  { name := "patterns", isWritten := fun x => ∃ es, IsListOf PatternEntry.IsLaidOutAs es x
    spoils := SpoilsItem PatternEntry.Spoils },
  { name := "template_defaults"
    isWritten := fun x => ∃ o, IsOptionOf TemplateDefaults.IsLaidOutAs o x
    spoils := TemplateDefaults.Spoils }]

/-- A rule file is spoilt at one place. -/
def Spoils : Fault → Node → Node → Prop := SpoilsRecord shapes

/-- The name of a rule is repeated in one of the tables of a rule file, which makes it another
one. -/
inductive RepeatsRule (f : RuleFile) : RuleFile → Node → Node → Prop
  | classes {t : Table ClassRule} {x x' : Node}
      (h : ChangesEntry "classes" (RepeatsName ClassRule.IsLaidOutAs f.classes t) x x') :
      RepeatsRule f { f with classes := t } x x'
  | templates {t : Table TemplateRule} {x x' : Node}
      (h : ChangesEntry "templates" (RepeatsName TemplateRule.IsLaidOutAs f.templates t) x x') :
      RepeatsRule f { f with templates := t } x x'
  | functions {t : Table FunctionRule} {x x' : Node}
      (h : ChangesEntry "functions" (RepeatsName FunctionRule.IsLaidOutAs f.functions t) x x') :
      RepeatsRule f { f with functions := t } x x'

end RuleFile

end SymbolProbe

import SymbolProbe.Rule.File
import SymbolProbe.Yaml.Untyped

/-!
# Rule files in YAML

A rule file is a mapping, and so are the rules of classes and templates, the entries of patterns and
the template defaults. A function rule tells its kind under the key `kind`, in any place, or as the
first item of a list; what else it holds is read by kind.
-/

namespace SymbolProbe

open Yaml
open Yaml.Reading (Field)

/-! ### Classes and templates -/

/-- Read a list of texts. -/
def textsOfNode : Node → Reading (List String) := Reading.list Reading.text

/-- Read the rule of a class. -/
def ClassRule.ofNode : Node → Reading ClassRule :=
  Reading.record [
    { name := "prelude", read := fun x r => do return { r with prelude := ← textsOfNode x } },
    { name := "args", read := fun x r => do return { r with args := ← textsOfNode x } }] {}

/-- Read the rule of a class template. -/
def TemplateRule.ofNode : Node → Reading TemplateRule :=
  Reading.record [
    { name := "params", isRequired := true,
      read := fun x r => do return { r with params := ← textsOfNode x } },
    { name := "prelude", read := fun x r => do return { r with prelude := ← textsOfNode x } },
    { name := "args", read := fun x r => do return { r with args := ← textsOfNode x } }]
    ⟨[], [], []⟩

/-- Read the defaults of templates. -/
def TemplateDefaults.ofNode : Node → Reading TemplateDefaults :=
  Reading.record [
    { name := "value_type", read := fun x d => do return { d with valueType := ← .text x } },
    { name := "associative_marker",
      read := fun x d => do return { d with associativeMarker := ← .text x } },
    { name := "element_marker",
      read := fun x d => do return { d with elementMarker := ← .text x } },
    { name := "element_value", read := fun x d => do return { d with elementValue := ← .text x } },
    { name := "element_key", read := fun x d => do return { d with elementKey := ← .text x } }] {}

/-! ### Functions -/

/-- Read a list of texts. -/
def textsOfValue : Value → Reading (List String) := Value.asList Value.asText

/-- Read a signature. -/
def Signature.ofValue : Value → Reading Signature :=
  Value.asRecord [
    { name := "returns", isRequired := true,
      read := fun x s => do return { s with returns := ← x.asText } },
    { name := "params", read := fun x s => do return { s with params := ← textsOfValue x } }]
    ⟨"", []⟩

/-- The kinds of function rules. -/
inductive FunctionRuleKind
  | address
  | instantiate
  | overloads
deriving DecidableEq, Repr

namespace FunctionRuleKind

/-- The kind with a name. -/
def ofName? : String → Option FunctionRuleKind
  | "address" => some .address
  | "instantiate" => some .instantiate
  | "overloads" => some .overloads
  | _ => none

/-- Read the name of a kind. -/
def ofNode (x : Node) : Reading FunctionRuleKind := do
  let name ← Reading.text x
  match ofName? name with
  | some kind => return kind
  | none => throw (.unknownVariant name)

end FunctionRuleKind

namespace FunctionRule

/-- Read what a rule holds besides its kind. The plain address takes nothing from a list, and
passes over the entries of a mapping. -/
def ofContent : FunctionRuleKind → Value → Reading FunctionRule
  | .address, .list (_ :: _) => throw .invalidLength
  | .address, _ => return .address
  | .instantiate, v => v.asRecord [
      { name := "args", isRequired := true,
        read := fun x _ => do return .instantiate (← x.asText) }] (.instantiate "")
  | .overloads, v => v.asRecord [
      { name := "signatures", isRequired := true,
        read := fun x _ => do return .overloads (← x.asList Signature.ofValue) }] (.overloads [])

/-- The entries of a function rule: its kind, if it was seen, and the others from the last to the
first. -/
structure Entries where
  kind : Option FunctionRuleKind := none
  others : List (Value × Value) := []

/-- Read one more entry of a function rule. Collections in it are nested at most as deep as
given. -/
def Entries.add (depth : Nat) (es : Entries) (e : Node × Node) : Reading Entries := do
  match ← Value.ofNode depth e.1 with
  | .text "kind" =>
    if es.kind.isSome then throw (.duplicateField "kind")
    return { es with kind := some (← FunctionRuleKind.ofNode e.2) }
  | key => return { es with others := (key, ← Value.ofNode depth e.2) :: es.others }

/-- Read a function rule. Collections in it are nested at most as deep as given. -/
def ofNode (depth : Nat) (x : Node) : Reading FunctionRule := do
  let x ← Reading.follow x
  if Value.asksForOwnType x then throw .invalidType
  match x with
  | .mapping _ es =>
    let es ← es.foldlM (Entries.add depth) {}
    match es.kind with
    | some kind => ofContent kind (.record es.others.reverse)
    | none => throw (.missingField "kind")
  | .sequence _ (first :: others) =>
    let kind ← FunctionRuleKind.ofNode first
    ofContent kind (.list (← others.mapM (Value.ofNode depth)))
  | .sequence _ [] => throw (.missingField "kind")
  | x => throw (Reading.misfit x)

end FunctionRule

/-! ### Files -/

/-- The depth of nesting that a document may have. -/
def documentDepth : Nat := 128

/-- Read an entry of the patterns. -/
def PatternEntry.ofNode : Node → Reading PatternEntry :=
  Reading.record [
    { name := "pattern", isRequired := true,
      read := fun x e => do return { e with pattern := ← .text x } },
    { name := "rule", isRequired := true,
      read := fun x e => do return { e with rule := ← FunctionRule.ofNode (documentDepth - 4) x } }]
    ⟨"", .address⟩

namespace RuleFile

/-- Read a rule file. -/
def ofNode : Node → Reading RuleFile :=
  Reading.record [
    { name := "classes",
      read := fun x f => do return { f with classes := ← Reading.table ClassRule.ofNode x } },
    { name := "templates",
      read := fun x f => do return { f with templates := ← Reading.table TemplateRule.ofNode x } },
    { name := "functions",
      read := fun x f => do
        let rule := FunctionRule.ofNode (documentDepth - 3)
        return { f with functions := ← Reading.table rule x } },
    { name := "patterns",
      read := fun x f => do return { f with patterns := ← Reading.list PatternEntry.ofNode x } },
    { name := "template_defaults",
      read := fun x f => do
        return { f with templateDefaults := ← Value.optional TemplateDefaults.ofNode x } }] {}

/-- The rule file of a document. -/
def ofDocument (d : Document) : Except Fault RuleFile := Reading.ofDocument ofNode d

/-- The rule file that a text writes. -/
def ofText (text : String) : Except Fault RuleFile := ofDocument (Document.ofText text.toList)

end RuleFile

end SymbolProbe

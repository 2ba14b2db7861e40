import Mathlib.Data.List.Forall2
import Mathlib.Data.List.Perm.Basic
import Mathlib.Tactic.Lemma
import SymbolProbe.Rule.OfYaml

/-!
# Layouts of rule files

A rule file can be laid out in many ways. The entries of a mapping stand in any order; a field may
be left out when it has its default; a record that is read directly may hold entries of other names;
and a function rule or a signature is a mapping or a list of all its fields. Texts are quoted, so
that they are taken for nothing else. A node that lays out a rule file is described field by field
(`FieldForm`), and `RuleFile.IsLaidOutAs` puts the descriptions together.
-/

namespace SymbolProbe

open Yaml

namespace Yaml

/-! ### Scalars and collections -/

namespace Node

/-- A scalar without a tag, in quotes or not. -/
def IsWord (t : String) (x : Node) : Prop := ∃ p isPlain, x = .scalar p t isPlain ∧ p.tag = none

/-- A quoted scalar without a tag. -/
def IsQuoted (t : String) (x : Node) : Prop := ∃ p, x = .scalar p t false ∧ p.tag = none

variable {α : Type}

/-- A sequence without a tag whose items write the elements of a list. -/
def IsListOf (item : α → Node → Prop) (as : List α) (x : Node) : Prop :=
  ∃ p xs, x = .sequence p xs ∧ p.tag = none ∧ List.Forall₂ item as xs

/-- A mapping without a tag that writes the entries of a table, in any order. -/
def IsTableOf (value : α → Node → Prop) (t : Table α) (x : Node) : Prop :=
  ∃ p es named, x = .mapping p es ∧ p.tag = none ∧ named.Perm t.entries ∧
    List.Forall₂ (fun a e => IsQuoted a.1 e.1 ∧ value a.2 e.2) named es

/-- What is written for an option: a value, or null without quotes. -/
def IsOptionOf (value : α → Node → Prop) : Option α → Node → Prop
  | some a => value a
  | none => fun x => ∃ p t, x = .scalar p t true ∧ p.tag = none ∧
      (t.isEmpty || Value.isNullText t) = true

/-- A sequence of quoted texts. -/
abbrev IsTexts : List String → Node → Prop := IsListOf IsQuoted

end Node

/-! ### Records -/

/-- How a field of a record is written: its name, whether it may be left out, and the nodes that
write what it holds. -/
structure FieldForm where
  name : String
  mayLack : Prop := False
  isWritten : Node → Prop

/-- Entries write fields in their order, without those that are left out. -/
inductive WritesFields : List FieldForm → List (Node × Node) → Prop
  | nil : WritesFields [] []
  | lack {f : FieldForm} {fs : List FieldForm} {es : List (Node × Node)} (h : f.mayLack)
      (hs : WritesFields fs es) : WritesFields (f :: fs) es
  | entry {f : FieldForm} {fs : List FieldForm} {k x : Node} {es : List (Node × Node)}
      (hk : k.IsWord f.name) (hx : f.isWritten x) (hs : WritesFields fs es) :
      WritesFields (f :: fs) ((k, x) :: es)

namespace Node

/-- A mapping that holds the entries of fields and others of unknown names, in any order. -/
def IsRecord (fields : List FieldForm) (x : Node) : Prop :=
  ∃ p es known unknown, x = .mapping p es ∧ p.tag = none ∧ es.Perm (known ++ unknown) ∧
    WritesFields fields known ∧
    ∀ e ∈ unknown, (∃ q t isPlain, e.1 = .scalar q t isPlain ∧ ∀ f ∈ fields, f.name ≠ t) ∧
      e.2.isWhole = true

/-- A mapping that holds the entries of fields, in any order, or a sequence of all of them. -/
def IsVariant (fields : List FieldForm) (x : Node) : Prop :=
  (∃ p es known, x = .mapping p es ∧ p.tag = none ∧ es.Perm known ∧ WritesFields fields known) ∨
    ∃ p xs, x = .sequence p xs ∧ p.tag = none ∧ List.Forall₂ FieldForm.isWritten fields xs

end Node

end Yaml

open Node

/-! ### Rules -/

/-- A node lays out the rule of a class. -/
def ClassRule.IsLaidOutAs (r : ClassRule) : Node → Prop :=
  IsRecord [
    { name := "prelude", mayLack := r.prelude = [], isWritten := IsTexts r.prelude },
    { name := "args", mayLack := r.args = [], isWritten := IsTexts r.args }]

/-- A node lays out the rule of a class template. -/
def TemplateRule.IsLaidOutAs (r : TemplateRule) : Node → Prop :=
  IsRecord [
    { name := "params", isWritten := IsTexts r.params },
    { name := "prelude", mayLack := r.prelude = [], isWritten := IsTexts r.prelude },
    { name := "args", mayLack := r.args = [], isWritten := IsTexts r.args }]

/-- A node lays out the defaults of templates. -/
def TemplateDefaults.IsLaidOutAs (d : TemplateDefaults) : Node → Prop :=
  let start : TemplateDefaults := {}
  IsRecord [
    { name := "value_type", mayLack := d.valueType = start.valueType,
      isWritten := IsQuoted d.valueType },
    { name := "associative_marker", mayLack := d.associativeMarker = start.associativeMarker,
      isWritten := IsQuoted d.associativeMarker },
    { name := "element_marker", mayLack := d.elementMarker = start.elementMarker,
      isWritten := IsQuoted d.elementMarker },
    { name := "element_value", mayLack := d.elementValue = start.elementValue,
      isWritten := IsQuoted d.elementValue },
    { name := "element_key", mayLack := d.elementKey = start.elementKey,
      isWritten := IsQuoted d.elementKey }]

/-- How the fields of a signature are written. -/
def Signature.forms (s : Signature) : List FieldForm := [
  { name := "returns", isWritten := IsQuoted s.returns },
  { name := "params", mayLack := s.params = [], isWritten := IsTexts s.params }]

/-- A node lays out a signature. -/
def Signature.IsLaidOutAs (s : Signature) : Node → Prop := IsVariant s.forms

namespace FunctionRule

/-- The kind of a rule. -/
def kind : FunctionRule → FunctionRuleKind
  | .address => .address
  | .instantiate _ => .instantiate
  | .overloads _ => .overloads

/-- The name of a kind. -/
def kindName : FunctionRuleKind → String
  | .address => "address"
  | .instantiate => "instantiate"
  | .overloads => "overloads"

/-- How the fields besides the kind are written. -/
def contentForms : FunctionRule → List FieldForm
  | .address => []
  | .instantiate args => [{ name := "args", isWritten := IsQuoted args }]
  | .overloads signatures =>
    [{ name := "signatures", isWritten := IsListOf Signature.IsLaidOutAs signatures }]

/-- A node lays out a function rule: the kind is a field in any place of a mapping, and the first
item of a sequence. -/
def IsLaidOutAs (r : FunctionRule) : Node → Prop :=
  IsVariant ({ name := "kind", isWritten := IsWord (kindName r.kind) } :: r.contentForms)

end FunctionRule

/-- A node lays out an entry of the patterns. -/
def PatternEntry.IsLaidOutAs (e : PatternEntry) : Node → Prop :=
  IsRecord [
    { name := "pattern", isWritten := IsQuoted e.pattern },
    { name := "rule", isWritten := e.rule.IsLaidOutAs }]

/-- A node lays out a rule file. -/
def RuleFile.IsLaidOutAs (f : RuleFile) : Node → Prop :=
  IsRecord [
    { name := "classes", mayLack := f.classes = Table.empty,
      isWritten := IsTableOf ClassRule.IsLaidOutAs f.classes },
    { name := "templates", mayLack := f.templates = Table.empty,
      isWritten := IsTableOf TemplateRule.IsLaidOutAs f.templates },
    { name := "functions", mayLack := f.functions = Table.empty,
      isWritten := IsTableOf FunctionRule.IsLaidOutAs f.functions },
    { name := "patterns", mayLack := f.patterns = [],
      isWritten := IsListOf PatternEntry.IsLaidOutAs f.patterns },
    { name := "template_defaults", mayLack := f.templateDefaults = none,
      isWritten := IsOptionOf TemplateDefaults.IsLaidOutAs f.templateDefaults }]

end SymbolProbe

import SymbolProbe.Yaml.Reading

/-!
# Reading by way of untyped values

A node may be turned into an untyped value first. Texts, lists and records are then taken out of the
value. A record may be given by its entries or by the list of its fields.
-/

namespace SymbolProbe.Yaml.Value

open Reading (Field Draft)

/-! ### Nodes -/

/-- Whether a node asks for a type of the document's own, of which none is known. -/
def asksForOwnType (x : Node) : Bool :=
  x.properties.tag.any fun tag => isOwnTag tag && tag.all (· != '\x00')

/-- The value of a node whose collections are nested at most as deep as given. -/
def ofNode : Nat → Node → Reading Value
  | depth, x => do
    let x ← Reading.follow x
    if asksForOwnType x then throw .malformed
    match x, depth with
    | .scalar p t isPlain, _ => ofScalar p t isPlain
    | .sequence _ xs, depth + 1 => return .list (← xs.mapM (ofNode depth))
    | .mapping _ es, depth + 1 =>
      return .record (← es.mapM fun e => do return (← ofNode depth e.1, ← ofNode depth e.2))
    | _, _ => throw .malformed

variable {α : Type}

/-- A value that may be absent: it is where nothing or null was written without quotes. -/
def optional (value : Node → Reading α) (x : Node) : Reading (Option α) := do
  let x ← Reading.follow x
  match x with
  | .scalar p t true =>
    if p.tag = some nullTag && !isNullText t then throw .malformed
    else if p.tag.all (· == nullTag) && (t.isEmpty || isNullText t) then return none
    else return some (← value x)
  | _ => return some (← value x)

/-! ### Typed values -/

/-- A text. -/
def asText : Value → Reading String
  | .text t => return t
  | _ => throw .invalidType

/-- A list of values. -/
def asList (item : Value → Reading α) : Value → Reading (List α)
  | .list xs => xs.mapM item
  | _ => throw .invalidType

/-- The field that a key names: by its name, or by its number in the record. -/
def field? (fields : List (Field Value α)) : Value → Reading (Option (Field Value α))
  | .text t => return fields.find? fun f => f.name == t
  | .number (.positive n) => return fields[n]?
  | _ => throw .invalidType

/-- Read one entry into a draft. -/
def entry (fields : List (Field Value α)) (d : Draft α) (e : Value × Value) :
    Reading (Draft α) := do
  match ← field? fields e.1 with
  | some f => f.fill e.2 d
  | none => return d

/-- Read the fields of a record from a list, in their order. -/
def positional : List (Field Value α) → List Value → α → Reading α
  | [], [], a => return a
  | [], _ :: _, _ => throw .invalidLength
  | f :: fields, [], a => if f.isRequired then throw .invalidLength else positional fields [] a
  | f :: fields, x :: xs, a => do positional fields xs (← f.read x a)

/-- A record. -/
def asRecord (fields : List (Field Value α)) (start : α) : Value → Reading α
  | .record es => do
    let d ← es.foldlM (entry fields) ⟨[], start⟩
    Reading.finish fields d
  | .list xs => positional fields xs start
  | _ => throw .invalidType

end SymbolProbe.Yaml.Value

import SymbolProbe.Rule.Table
import SymbolProbe.Yaml.Document
import SymbolProbe.Yaml.Value

/-!
# Reading values from nodes

A reader takes a value of some type out of a node, or finds the first fault of the node in document
order. A record is read from a mapping by a list of fields: an unknown key is passed over, a known
key must not be repeated, and at the end of the mapping a required field must have been seen.
-/

namespace SymbolProbe.Yaml

/-- What a reader has to know about aliases: the node of each anchor, and how often aliases may be
followed. -/
structure Aliases where
  target : Nat → Node
  limit : Nat

/-- A reader. It counts the aliases that it follows. -/
abbrev Reading := ReaderT Aliases (StateT Nat (Except Fault))

namespace Reading

/-! ### Nodes -/

/-- The node that an alias stands for, and every other node itself. -/
def follow : Node → Reading Node
  | .alias anchor => do
    let count ← get
    let aliases ← read
    if aliases.limit ≤ count then throw .malformed
    set (count + 1)
    return aliases.target anchor
  | x => return x

/-- Pass over a node. -/
def ignore (x : Node) : Reading Unit := if x.isWhole then return () else throw .malformed

/-- The fault of a node that is of the wrong kind. A scalar has to fit its tag all the same. -/
def misfit : Node → Fault
  | .scalar p t isPlain =>
    match Value.ofScalar p t isPlain with
    | .error fault => fault
    | .ok _ => .invalidType
  | .cut => .malformed
  | _ => .invalidType

/-- The text of a scalar. -/
def text (x : Node) : Reading String := do
  match ← follow x with
  | .scalar _ t _ => return t
  | x => throw (misfit x)

/-- The items of a sequence. Where nothing was written there are none. -/
def items (x : Node) : Reading (List Node) := do
  match ← follow x with
  | .sequence _ xs => return xs
  | x => if x.isMissing then return [] else throw (misfit x)

/-- The entries of a mapping. Where nothing was written there are none. -/
def entries (x : Node) : Reading (List (Node × Node)) := do
  match ← follow x with
  | .mapping _ es => return es
  | x => if x.isMissing then return [] else throw (misfit x)

variable {α : Type}

/-- A list of values. -/
def list (item : Node → Reading α) (x : Node) : Reading (List α) := do (← items x).mapM item

/-- A table of values. Of two entries of one name the later one counts. -/
def table (value : Node → Reading α) (x : Node) : Reading (Table α) := do
  (← entries x).foldlM (fun t e => do
    let name ← text e.1
    return t.insert name (← value e.2)) Table.empty

/-! ### Records -/

/-- A field of a record: its name, whether it must be there, and how what is written for it changes
a record. -/
structure Field (β α : Type) where
  name : String
  isRequired : Bool := false
  read : β → α → Reading α

/-- What was read of a record: the names of the fields so far, and the record. -/
structure Draft (α : Type) where
  seen : List String := []
  record : α

/-- Read what is written for a field. -/
def Field.fill {β : Type} (f : Field β α) (x : β) (d : Draft α) : Reading (Draft α) := do
  if d.seen.contains f.name then throw (.duplicateField f.name)
  return ⟨f.name :: d.seen, ← f.read x d.record⟩

/-- The record of a draft that is complete. Of the fields that are missing the first is named. -/
def finish {β : Type} (fields : List (Field β α)) (d : Draft α) : Reading α :=
  match fields.find? fun f => f.isRequired && !d.seen.contains f.name with
  | some f => throw (.missingField f.name)
  | none => return d.record

/-- Read one entry of a mapping into a draft. -/
def entry (fields : List (Field Node α)) (d : Draft α) (e : Node × Node) : Reading (Draft α) := do
  let name ← text e.1
  match fields.find? fun f => f.name == name with
  | some f => f.fill e.2 d
  | none => ignore e.2; return d

/-- A record. Fields that are not written keep what they have at the start. -/
def record (fields : List (Field Node α)) (start : α) (x : Node) : Reading α := do
  let d ← (← entries x).foldlM (entry fields) ⟨[], start⟩
  finish fields d

/-! ### Documents -/

/-- Read the root of a document, which has to be the only one of its text. -/
def ofDocument (read : Node → Reading α) (d : Document) : Except Fault α :=
  match read d.root ⟨d.root.target, 100 * d.root.size⟩ 0 with
  | .error fault => .error fault
  | .ok (a, _) => if d.isSound then .ok a else .error .malformed

end Reading

end SymbolProbe.Yaml

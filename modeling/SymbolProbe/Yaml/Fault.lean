/-!
# Faults of a document

What can be wrong with a document that values are read from.
-/

namespace SymbolProbe.Yaml

/-- Why no value can be read. -/
inductive Fault
  /-- A record ends without one of its fields. -/
  | missingField (name : String)
  /-- A record has one of its fields twice. -/
  | duplicateField (name : String)
  /-- A record names a variant that does not exist. -/
  | unknownVariant (name : String)
  /-- A node or a value is of the wrong kind. -/
  | invalidType
  /-- A list of the fields of a record is too short or too long. -/
  | invalidLength
  /-- The text is no YAML, or a limit on its nesting is reached. -/
  | malformed
deriving DecidableEq, Repr

end SymbolProbe.Yaml

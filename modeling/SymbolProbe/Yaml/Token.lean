/-!
# Tokens of YAML

The words into which a YAML text is cut. The blocks that indentation makes have tokens of their
own, so that what follows need not look at columns.
-/

namespace SymbolProbe.Yaml

/-- A word of a YAML text. -/
inductive Token
  /-- The version that a document asks for. -/
  | version (major minor : Nat)
  /-- A handle, and the text that it stands for in tags. -/
  | tagHandle (handle text : String)
  | documentStart
  | documentEnd
  | blockSequenceStart
  | blockMappingStart
  | blockEnd
  | flowSequenceStart
  | flowSequenceEnd
  | flowMappingStart
  | flowMappingEnd
  | blockEntry
  | flowEntry
  | key
  | value
  | alias (name : String)
  | anchor (name : String)
  /-- A tag. Without a handle its text is the whole tag. -/
  | tag (handle text : String)
  | scalar (text : String) (isPlain : Bool)
  | textEnd
deriving DecidableEq, Repr, Inhabited

/-- Whether a token stands outside the content of a document. -/
def Token.endsContent : Token → Bool
  | .version .. | .tagHandle .. | .documentStart | .documentEnd | .textEnd => true
  | _ => false

end SymbolProbe.Yaml

import SymbolProbe.Yaml.Node
import SymbolProbe.Yaml.TokenStream

/-!
# Documents

The tokens of a text are put together to the tree of its first document. Where the tokens do not
fit, or end too early, the tree is cut, and so is every collection that is open there.
-/

namespace SymbolProbe.Yaml

/-- The first document of a text. -/
structure Document where
  root : Node
  /-- Whether nothing but the end of the text follows. -/
  isSound : Bool
deriving Repr

/-! ### Directives -/

/-- The texts that stand for the handles of tags. -/
abbrev TagHandles := List (String × String)

/-- The handles that need not be declared. -/
def TagHandles.common : TagHandles := [("!", "!"), ("!!", "tag:yaml.org,2002:")]

/-- The directives in front of a document, and the tokens behind them. The version is 1.1 or 1.2;
neither it nor a handle is declared twice. -/
def directives? (hasVersion : Bool) (handles : TagHandles) :
    List Token → Option (TagHandles × List Token)
  | .version major minor :: ts =>
    if hasVersion || major != 1 || (minor != 1 && minor != 2) then none
    else directives? true handles ts
  | .tagHandle handle text :: ts =>
    if (handles.lookup handle).isSome then none
    else directives? hasVersion (handles ++ [(handle, text)]) ts
  | ts => some (handles ++ TagHandles.common, ts)

/-! ### Composition -/

/-- What is known in the middle of a document. -/
structure Composition where
  tokens : List Token
  handles : TagHandles
  /-- The names of the anchors and their numbers, each name once. -/
  anchors : List (String × Nat) := []
deriving Repr

/-- A step in putting a document together. -/
abbrev Compose := StateM Composition

namespace Compose

/-- The next token. -/
def peek? : Compose (Option Token) := do return (← get).tokens.head?

/-- Go on behind the next token. -/
def skip : Compose Unit := modify fun s => { s with tokens := s.tokens.tail }

/-- Whether the next token is one of the given ones. -/
def at? (ts : List Token) : Compose Bool := do return (← peek?).any (ts.contains ·)

/-- Cut the document here: nothing behind this place is read. -/
def stop : Compose Node := do
  modify fun s => { s with tokens := [] }
  return .cut

/-- The number of a new anchor, which is the number of names in use. A name that is used again gets
a new number. -/
def define (name : String) : Compose Nat := do
  let s ← get
  set { s with anchors := (name, s.anchors.length) :: s.anchors.filter (·.1 != name) }
  return s.anchors.length

/-- The name of the next token, if it is an anchor. -/
def anchor? : Compose (Option String) := do
  match ← peek? with
  | some (.anchor name) => skip; return some name
  | _ => return none

/-- The handle and the text of the next token, if it is a tag. -/
def tag? : Compose (Option (String × String)) := do
  match ← peek? with
  | some (.tag handle text) => skip; return some (handle, text)
  | _ => return none

/-- The properties in front of a node, in either order, unless the handle of the tag is unknown. -/
def properties? : Compose (Option Properties) := do
  let front ← anchor?
  let tag ← tag?
  let back ← if front.isNone && tag.isSome then anchor? else pure none
  let tag? ← match tag with
    | none => pure (some none)
    | some (handle, text) =>
      if handle.isEmpty then pure (some (some text))
      else do pure (((← get).handles.lookup handle).map fun t => some (t ++ text))
  match tag?, front.or back with
  | none, _ => return none
  | some tag, none => return some ⟨none, tag⟩
  | some tag, some name => return some ⟨some (← define name), tag⟩

/-- The node that bears a name. -/
def aliasOf (name : String) : Compose Node := do
  match (← get).anchors.lookup name with
  | some anchor => skip; return .alias anchor
  | none => stop

/-- The node of a key without a value. -/
def noValue : Compose Node := do
  match ← peek? with
  | some _ => return .missing {}
  | none => return .cut

/-- What follows the entry of a mapping that is an item of a flow sequence: nothing, but to know the
end of the mapping takes a further token. -/
def pairEnd : Compose (List (Node × Node)) := do
  match ← peek? with
  | some _ => return []
  | none => return [(.cut, .cut)]

mutual

/-- A node. A block starts only in block context, and a sequence that is no deeper than its key
only as a value. -/
def node (inBlock asValue : Bool) : Nat → Compose Node
  | 0 => stop
  | n + 1 => do
    match ← peek? with
    | some (.alias name) => aliasOf name
    | _ =>
      match ← properties? with
      | none => stop
      | some p =>
        match ← peek?, inBlock, asValue with
        | some (.scalar text isPlain), _, _ => skip; return .scalar p text isPlain
        | some .flowSequenceStart, _, _ => skip; return .sequence p (← flowItems true n)
        | some .flowMappingStart, _, _ => skip; return .mapping p (← flowEntries true n)
        | some .blockSequenceStart, true, _ => skip; return .sequence p (← blockItems n)
        | some .blockMappingStart, true, _ => skip; return .mapping p (← blockEntries n)
        | some .blockEntry, _, true => return .sequence p (← valueItems n)
        | some _, _, _ => if p = {} then stop else return .missing p
        | none, _, _ => stop

/-- The items of a block sequence. -/
def blockItems : Nat → Compose (List Node)
  | 0 => return [← stop]
  | n + 1 => do
    match ← peek? with
    | some .blockEntry =>
      skip
      let item ← if ← at? [.blockEntry, .blockEnd] then pure (.missing {}) else node true false n
      return item :: (← blockItems n)
    | some .blockEnd => skip; return []
    | _ => return [← stop]

/-- The items of a sequence that is no deeper than its key. -/
def valueItems : Nat → Compose (List Node)
  | 0 => return [← stop]
  | n + 1 => do
    match ← peek? with
    | some .blockEntry =>
      skip
      let item ← if ← at? [.blockEntry, .key, .value, .blockEnd] then pure (.missing {})
        else node true false n
      return item :: (← valueItems n)
    | some _ => return []
    | none => return [.cut]

/-- The entries of a block mapping. -/
def blockEntries : Nat → Compose (List (Node × Node))
  | 0 => return [(← stop, .cut)]
  | n + 1 => do
    match ← peek? with
    | some .key =>
      skip
      let key ← if ← at? [.key, .value, .blockEnd] then pure (.missing {}) else node true true n
      let value ← if ← at? [.value] then do
          skip
          if ← at? [.key, .value, .blockEnd] then pure (.missing {}) else node true true n
        else noValue
      return (key, value) :: (← blockEntries n)
    | some .blockEnd => skip; return []
    | _ => return [(← stop, .cut)]

/-- The items of a flow sequence. All but the first follow a comma, and the last may too. An item
may be a key with its value; a mark in place of the key is passed over. -/
def flowItems (isFirst : Bool) : Nat → Compose (List Node)
  | 0 => return [← stop]
  | n + 1 => do
    let isParted ← at? [.flowEntry]
    if !isFirst && isParted then skip
    match ← peek? with
    | some .flowSequenceEnd => skip; return []
    | some t =>
      if !isFirst && !isParted then return [← stop]
      else if t = .key then
        skip
        let key ← if ← at? [.value, .flowEntry, .flowSequenceEnd] then do
            skip
            pure (.missing {})
          else node false false n
        let value ← if ← at? [.value] then do
            skip
            if ← at? [.flowEntry, .flowSequenceEnd] then pure (.missing {})
            else node false false n
          else noValue
        return .mapping {} ((key, value) :: (← pairEnd)) :: (← flowItems false n)
      else
        let item ← node false false n
        return item :: (← flowItems false n)
    | none => return [.cut]

/-- The entries of a flow mapping. All but the first follow a comma, and the last may too. A key
without a mark has no value. -/
def flowEntries (isFirst : Bool) : Nat → Compose (List (Node × Node))
  | 0 => return [(← stop, .cut)]
  | n + 1 => do
    let isParted ← at? [.flowEntry]
    if !isFirst && isParted then skip
    match ← peek? with
    | some .flowMappingEnd => skip; return []
    | some t =>
      if !isFirst && !isParted then return [(← stop, .cut)]
      else if t = .key then
        skip
        let key ← if ← at? [.value, .flowEntry, .flowMappingEnd] then pure (.missing {})
          else node false false n
        let value ← if ← at? [.value] then do
            skip
            if ← at? [.flowEntry, .flowMappingEnd] then pure (.missing {})
            else node false false n
          else noValue
        return (key, value) :: (← flowEntries false n)
      else
        let key ← node false false n
        let value ← noValue
        return (key, value) :: (← flowEntries false n)
    | none => return [(.cut, .cut)]

end

end Compose

namespace Document

/-- The document whose content starts with the given tokens. -/
def ofContent (handles : TagHandles) (tokens : List Token) (isEmpty : Bool) : Document :=
  if isEmpty then ⟨.missing {}, endsText tokens⟩
  else
    let (root, s) := (Compose.node true false (2 * tokens.length + 2)).run ⟨tokens, handles, []⟩
    ⟨root, endsText s.tokens⟩
where
  /-- Whether only the end of the text follows, marks that end a document apart. -/
  endsText (tokens : List Token) : Bool :=
    (tokens.dropWhile (· == .documentEnd)).head? == some .textEnd

/-- The first document of the text with the given tokens. Without content, nothing was written in
it. Directives have to be followed by the mark that starts a document. -/
def ofTokens (tokens : List Token) : Document :=
  match tokens with
  | [] => ⟨.cut, false⟩
  | [.textEnd] => ⟨.missing {}, true⟩
  | _ =>
    match directives? false [] tokens with
    | none => ⟨.cut, false⟩
    | some (handles, .documentStart :: ts) => ofContent handles ts (ts.head?.any Token.endsContent)
    | some (handles, ts) =>
      if ts.length = tokens.length then ofContent handles ts false else ⟨.cut, false⟩

/-- The first document of a text. -/
def ofText (text : List Char) : Document := ofTokens (Token.ofText text)

end Document

end SymbolProbe.Yaml

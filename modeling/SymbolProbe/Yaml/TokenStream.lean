import SymbolProbe.Yaml.Property
import SymbolProbe.Yaml.Scalar.Block
import SymbolProbe.Yaml.Scalar.Plain
import SymbolProbe.Yaml.Scalar.Quoted

/-!
# The tokens of a text

A text is cut into tokens from left to right. Two things need more than the next character. The
tokens of blocks follow from the columns at which lines start. And a key that stands in one line
with its colon is known as a key only when the colon comes, so tokens are held back as long as they
may turn out to be keys.

The tokens end with `Token.textEnd`, or earlier if the text is malformed.
-/

namespace SymbolProbe.Yaml

/-- A node that is a key if a colon follows it on its line. -/
structure PossibleKey where
  /-- Whether the node can be nothing but a key, since it stands where the keys of a block do. -/
  isRequired : Bool
  /-- The number of tokens in front of the node. -/
  number : Nat
  place : Place
deriving DecidableEq, Repr

/-- Whether a node is too far back to be a key: on an earlier line, or more than 1024 octets
away. -/
def PossibleKey.isStale (k : PossibleKey) (p : Place) : Bool :=
  k.place.line < p.line || k.place.index + 1024 < p.index

/-- What is known in the middle of a text. -/
structure TokenStream where
  cursor : Cursor
  /-- The tokens that were read and are held back. -/
  queue : List Token := []
  /-- The number of tokens that were given out. -/
  given : Nat := 0
  /-- For each open flow collection, and for the blocks around them, the last node that may be a
  key. The innermost stands first. -/
  keys : List (Option PossibleKey) := [none]
  /-- Whether a key without a mark may start here. -/
  allowsKey : Bool := true
  /-- The column of the block at hand; negative outside all blocks. -/
  indent : Int := -1
  /-- The columns of the blocks around it, the innermost first. -/
  outer : List Int := []
deriving Repr

namespace TokenStream

/-- Whether the text at hand stands in a flow collection. -/
def inFlow (s : TokenStream) : Bool := 1 < s.keys.length

/-- The stream with one more token at the end of its queue. -/
def push (s : TokenStream) (t : Token) : TokenStream := { s with queue := s.queue ++ [t] }

/-- The stream with one more token in front of the token with the given number. -/
def insert (s : TokenStream) (number : Nat) (t : Token) : TokenStream :=
  { s with queue := s.queue.take (number - s.given) ++ t :: s.queue.drop (number - s.given) }

/-- The stream behind a mark of `n` characters. -/
def mark (s : TokenStream) (t : Token) (n : Nat) : TokenStream :=
  { s.push t with cursor := s.cursor.skip n }

/-! ### Possible keys -/

/-- Forget the possible keys that are too far back. None of them may be required. -/
def dropStale? (s : TokenStream) : Option TokenStream :=
  let isStale := fun k : PossibleKey => k.isStale s.cursor.toPlace
  if s.keys.any (·.any fun k => isStale k && k.isRequired) then none
  else some { s with keys := s.keys.map (·.filter (!isStale ·)) }

/-- Forget the innermost possible key, which must not be required. -/
def dropKey? (s : TokenStream) : Option TokenStream :=
  match s.keys with
  | some k :: ks => if k.isRequired then none else some { s with keys := none :: ks }
  | _ => some s

/-- Note that the next node may be a key. -/
def noteKey? (s : TokenStream) : Option TokenStream :=
  if s.allowsKey then do
    let s ← s.dropKey?
    let k : PossibleKey := {
      isRequired := !s.inFlow && s.indent == s.cursor.column
      number := s.given + s.queue.length
      place := s.cursor.toPlace }
    pure { s with keys := some k :: s.keys.tail }
  else some s

/-- Whether the first token of the queue may turn out to be a key. -/
def holdsFirst (s : TokenStream) : Bool := s.keys.any (·.any fun k => k.number == s.given)

/-! ### Blocks -/

/-- Open a block at a column, unless the text at hand is already that deep. The token that opens it
goes in front of the token with the given number. -/
def openBlock (s : TokenStream) (column number : Nat) (t : Token) : TokenStream :=
  if !s.inFlow && s.indent < column then
    { s.insert number t with indent := column, outer := s.indent :: s.outer }
  else s

/-- Open a block at the cursor. -/
def openBlockHere (s : TokenStream) (t : Token) : TokenStream :=
  s.openBlock s.cursor.column (s.given + s.queue.length) t

/-- The number of blocks that are deeper than a column, the block at hand and those around it being
given by their columns. -/
def countDeeper (column : Int) : Int → List Int → Nat
  | _, [] => 0
  | indent, i :: outer => if column < indent then countDeeper column i outer + 1 else 0

/-- Close the blocks that are deeper than a column. -/
def closeBlocks (s : TokenStream) (column : Int) : TokenStream :=
  if s.inFlow then s
  else
    let n := countDeeper column s.indent s.outer
    { s with
      queue := s.queue ++ List.replicate n .blockEnd
      indent := ((s.indent :: s.outer).drop n).headD (-1)
      outer := s.outer.drop n }

/-! ### Single tokens -/

/-- Skip blanks, comments and breaks in front of a token. A tab must not stand where a key may
start. -/
def skipGap : Nat → TokenStream → TokenStream
  | 0, s => s
  | n + 1, s =>
    let c := s.cursor
    let c := if c.column == 0 && c.rest.head? == some '\ufeff' then c.next else c
    let c := c.skipWhile fun x => x == ' ' || (x == '\t' && (s.inFlow || !s.allowsKey))
    let c := c.skipComment
    if c.rest.head?.any isBreak then
      skipGap n { s with cursor := c.next, allowsKey := s.allowsKey || !s.inFlow }
    else { s with cursor := c }

/-- The end of the text. It ends its line, so nothing on that line can be a key any more. -/
def readEnd? (s : TokenStream) : Option TokenStream := do
  let s ← (s.closeBlocks (-1)).dropKey?
  pure ({ s with allowsKey := false, cursor := s.cursor.endLine }.push .textEnd)

/-- A directive. -/
def readDirective? (s : TokenStream) : Option TokenStream := do
  let s ← (s.closeBlocks (-1)).dropKey?
  let (t, c) ← directive? s.cursor
  pure ({ s with allowsKey := false, cursor := c }.push t)

/-- The mark that starts or ends a document. -/
def readDocumentMark? (s : TokenStream) (t : Token) : Option TokenStream := do
  let s ← (s.closeBlocks (-1)).dropKey?
  pure ({ s with allowsKey := false }.mark t 3)

/-- The mark that opens a flow collection. -/
def readFlowStart? (s : TokenStream) (t : Token) : Option TokenStream := do
  let s ← s.noteKey?
  pure ({ s with keys := none :: s.keys, allowsKey := true }.mark t 1)

/-- The mark that closes a flow collection. -/
def readFlowEnd? (s : TokenStream) (t : Token) : Option TokenStream := do
  let s ← s.dropKey?
  let keys := if s.inFlow then s.keys.tail else s.keys
  pure ({ s with keys := keys, allowsKey := false }.mark t 1)

/-- The mark between the items of a flow collection. -/
def readFlowEntry? (s : TokenStream) : Option TokenStream := do
  let s ← s.dropKey?
  pure ({ s with allowsKey := true }.mark .flowEntry 1)

/-- The mark in front of an item of a block sequence. -/
def readBlockEntry? (s : TokenStream) : Option TokenStream := do
  if !s.inFlow && !s.allowsKey then none
  let s ← (s.openBlockHere .blockSequenceStart).dropKey?
  pure ({ s with allowsKey := true }.mark .blockEntry 1)

/-- The mark in front of a key. -/
def readKey? (s : TokenStream) : Option TokenStream := do
  if !s.inFlow && !s.allowsKey then none
  let s ← (s.openBlockHere .blockMappingStart).dropKey?
  pure ({ s with allowsKey := !s.inFlow }.mark .key 1)

/-- The mark in front of a value. If it turns a node into a key, a block starts in front of that
node. -/
def readValue? (s : TokenStream) : Option TokenStream :=
  match s.keys with
  | some k :: ks =>
    let s := ({ s with keys := none :: ks, allowsKey := false }.insert k.number .key).openBlock
      k.place.column k.number .blockMappingStart
    some (s.mark .value 1)
  | _ =>
    if !s.inFlow && !s.allowsKey then none
    else
      let s := s.openBlockHere .blockMappingStart
      some ({ s with allowsKey := !s.inFlow }.mark .value 1)

/-- A token that is, or starts, a node. -/
def readNode? (s : TokenStream) (read : Cursor → Option (Token × Cursor)) :
    Option TokenStream := do
  let s ← s.noteKey?
  let (t, c) ← read s.cursor
  pure ({ s with allowsKey := false, cursor := c }.push t)

/-- A block scalar. -/
def readBlockScalar? (s : TokenStream) (isLiteral : Bool) : Option TokenStream := do
  let s ← s.dropKey?
  let (text, c) ← blockScalar? isLiteral s.indent s.cursor
  pure ({ s with allowsKey := true, cursor := c }.push (.scalar (String.ofList text) false))

/-- A quoted scalar. -/
def readQuotedScalar? (s : TokenStream) (isDouble : Bool) : Option TokenStream :=
  s.readNode? fun c => do
    let (text, c) ← quotedScalar? isDouble c
    pure (.scalar (String.ofList text) false, c)

/-- A plain scalar. A line that ends behind it may be followed by a key. -/
def readPlainScalar? (s : TokenStream) : Option TokenStream := do
  let s ← s.noteKey?
  let p ← plainScalar? s.inFlow (s.indent + 1) s.cursor
  pure ({ s with allowsKey := p.endsLine, cursor := p.after }.push
    (.scalar (String.ofList p.text) true))

/-! ### All tokens -/

/-- Read one more token from the text. -/
def read? (s : TokenStream) : Option TokenStream := do
  let s ← (skipGap (s.cursor.rest.length + 1) s).dropStale?
  let s := s.closeBlocks s.cursor.column
  let c := s.cursor
  match c.rest with
  | [] => s.readEnd?
  | x :: t =>
    if c.column == 0 && x == '%' then s.readDirective?
    else if c.atDocumentMark then
      s.readDocumentMark? (if x == '-' then .documentStart else .documentEnd)
    else match x with
      | '[' => s.readFlowStart? .flowSequenceStart
      | '{' => s.readFlowStart? .flowMappingStart
      | ']' => s.readFlowEnd? .flowSequenceEnd
      | '}' => s.readFlowEnd? .flowMappingEnd
      | ',' => s.readFlowEntry?
      | '*' => s.readNode? fun c => (anchorName? c).map fun r => (.alias r.1, r.2)
      | '&' => s.readNode? fun c => (anchorName? c).map fun r => (.anchor r.1, r.2)
      | '!' => s.readNode? (tag? s.inFlow)
      | '\'' => s.readQuotedScalar? false
      | '"' => s.readQuotedScalar? true
      | _ =>
        if x == '-' && atGap t then s.readBlockEntry?
        else if x == '?' && (s.inFlow || atGap t) then s.readKey?
        else if x == ':' && (s.inFlow || atGap t) then s.readValue?
        else if !s.inFlow && (x == '|' || x == '>') then s.readBlockScalar? (x == '|')
        else if startsPlain s.inFlow c.rest then s.readPlainScalar?
        else none

/-- The tokens from here on. Each step reads a token or gives one out. -/
def tokens : Nat → TokenStream → List Token
  | 0, _ => []
  | n + 1, s =>
    match s.queue with
    | [] =>
      match s.read? with
      | none => []
      | some s => tokens n s
    | t :: queue =>
      match s.dropStale? with
      | none => []
      | some s =>
        if s.holdsFirst then
          match s.read? with
          | none => []
          | some s => tokens n s
        else if t = .textEnd then [t]
        else t :: tokens n { s with queue := queue, given := s.given + 1 }

end TokenStream

/-- The tokens of a text. A text with a character that must not stand in one has none. -/
def Token.ofText (text : List Char) : List Token :=
  let text := uniformBreaks text
  if text.all isPrintable then
    TokenStream.tokens (6 * text.length + 12) { cursor := .ofText text }
  else []

end SymbolProbe.Yaml

import SymbolProbe.Text.Hex
import SymbolProbe.Yaml.Cursor
import SymbolProbe.Yaml.Token

/-!
# Anchors, tags and directives

The words in front of a node, which name it or tell its type, and the lines in front of a document.
Each reader answers with a token and the cursor behind it, or with nothing if the text is
malformed.
-/

namespace SymbolProbe.Yaml

/-! ### Anchors and aliases -/

/-- The name of an anchor or alias whose first character is at the cursor. A gap or a mark that
ends a node has to follow it. -/
def anchorName? (c : Cursor) : Option (String × Cursor) :=
  let (name, after) := c.next.span isWord
  if !name.isEmpty && (atGap after.rest ||
      after.rest.head?.any (· ∈ ['?', ':', ',', ']', '}', '%', '@', '`'])) then
    some (String.ofList name, after)
  else none

/-! ### Tags -/

/-- The number of octets of a character in UTF-8, by its first octet, and what that octet
contributes. -/
def firstOctet? (n : Nat) : Option (Nat × Nat) :=
  if n < 0x80 then some (1, n)
  else if n / 32 == 6 then some (2, n % 32)
  else if n / 16 == 14 then some (3, n % 16)
  else if n / 8 == 30 then some (4, n % 8)
  else none

/-- An octet that is written as a percent sign and two digits. -/
def percentOctet? : List Char → Option Nat
  | '%' :: a :: b :: _ => Text.Hex.value? [a, b]
  | _ => none

/-- The rest of the number of a character whose further octets are written with percent signs. -/
def percentRest? : Nat → Nat → List Char → Option Nat
  | 0, value, _ => some value
  | n + 1, value, t => do
    let octet ← percentOctet? t
    if octet / 64 != 2 then none
    percentRest? n (value * 64 + octet % 64) (t.drop 3)

/-- The character that is written with percent signs at the start of a text, and the length of its
writing. Octets that are the writing of no character, or not its shortest one, stand for `none`. -/
def percentChar? (t : List Char) : Option (Option Char × Nat) := do
  let octet ← percentOctet? t
  let (count, value) ← firstOctet? octet
  let value ← percentRest? (count - 1) value (t.drop 3)
  pure ((Text.charOfNat? value).filter (·.utf8Size == count), count * 3)

/-- The characters of a tag at a cursor, and the cursor behind them. -/
def tagChars? (withFlowMarks : Bool) : Nat → Cursor → Option (List (Option Char) × Cursor)
  | 0, c => some ([], c)
  | n + 1, c =>
    match c.rest with
    | [] => some ([], c)
    | x :: _ =>
      if x == '%' then do
        let (y, length) ← percentChar? c.rest
        let (text, after) ← tagChars? withFlowMarks n (c.skip length)
        pure (y :: text, after)
      else if isTagChar withFlowMarks x then do
        let (text, after) ← tagChars? withFlowMarks n c.next
        pure (some x :: text, after)
      else some ([], c)

/-- The text of a tag with the given characters. It ends in front of a NUL; therefore a NUL in it
can stand for what is no character. -/
def tagText (t : List (Option Char)) : List Char :=
  (t.takeWhile (· != some '\x00')).map (·.getD '\x00')

/-- The text of a tag at a cursor, which is not left out. -/
def tagText? (withFlowMarks : Bool) (c : Cursor) : Option (List Char × Cursor) := do
  let (text, after) ← tagChars? withFlowMarks c.rest.length c
  if text.isEmpty then none
  pure (tagText text, after)

/-- A handle: an exclamation mark, a word, and another exclamation mark if there is one. -/
def handleChars (c : Cursor) : List Char × Cursor :=
  let (word, after) := c.next.span isWord
  if after.rest.head? == some '!' then ('!' :: word ++ ['!'], after.next) else ('!' :: word, after)

/-- The tag at a cursor. A tag in angle brackets is whole. Otherwise what stands up to a second
exclamation mark is its handle; if there is none, the first exclamation mark is. A lone
exclamation mark is a whole tag. -/
def tag? (inFlow : Bool) (c : Cursor) : Option (Token × Cursor) := do
  let (token, after) ←
    if c.next.rest.head? == some '<' then do
      let (text, after) ← tagText? true (c.skip 2)
      if after.rest.head? != some '>' then none
      pure (Token.tag "" (String.ofList text), after.next)
    else do
      let (handle, after) := handleChars c
      if 1 < handle.length && handle.getLast? == some '!' then do
        let (text, after) ← tagText? false after
        pure (Token.tag (String.ofList handle) (String.ofList text), after)
      else do
        let (more, after) ← tagChars? false after.rest.length after
        match handle.drop 1 ++ tagText more with
        | [] => pure (Token.tag "" "!", after)
        | text => pure (Token.tag "!" (String.ofList text), after)
  if atGap after.rest || (inFlow && after.rest.head? == some ',') then pure (token, after)
  else none

/-! ### Directives -/

/-- The number at a cursor. It has at most nine digits. -/
def versionNumber? (c : Cursor) : Option (Nat × Cursor) :=
  let (digits, after) := c.span Char.isDigit
  if digits.isEmpty || 9 < digits.length then none
  else some (digits.foldl (fun n d => n * 10 + (d.toNat - 48)) 0, after)

/-- The version that a directive names. -/
def versionDirective? (c : Cursor) : Option (Token × Cursor) := do
  let (major, c) ← versionNumber? (c.skipWhile isBlank)
  if c.rest.head? != some '.' then none
  let (minor, c) ← versionNumber? c.next
  pure (.version major minor, c)

/-- The handle and the text that a directive names. -/
def tagDirective? (c : Cursor) : Option (Token × Cursor) := do
  let c := c.skipWhile isBlank
  if c.rest.head? != some '!' then none
  let (handle, c) := handleChars c
  if handle != ['!'] && handle.getLast? != some '!' || !atBlank c.rest then none
  let (text, c) ← tagText? true (c.skipWhile isBlank)
  if !atGap c.rest then none
  pure (.tagHandle (String.ofList handle) (String.ofList text), c)

/-- The directive at a cursor, and the cursor at the next line. -/
def directive? (c : Cursor) : Option (Token × Cursor) := do
  let (name, c) := c.next.span isWord
  if !atGap c.rest then none
  let (token, c) ←
    if name == "YAML".toList then versionDirective? c
    else if name == "TAG".toList then tagDirective? c
    else none
  let c := (c.skipWhile isBlank).skipComment
  if !(c.rest.isEmpty || c.rest.head?.any isBreak) then none
  pure (token, c.skipBreak)

end SymbolProbe.Yaml

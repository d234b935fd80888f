import MemoryBridge.Text.Numeral
import MemoryBridge.Yaml.Token

/-!
# Anchors, tags and directives

Names and tags are read from a place in a text up to the place after them.
-/

namespace MemoryBridge.Yaml

/-! ## Anchors -/

/-- Whether the name of an anchor may end in front of this text. -/
def endsAnchor : List Char → Bool
  | [] => true
  | c :: cs => atGap (c :: cs) || c ∈ ['?', ':', ',', ']', '\x7d', '%', '@', '\x60']

/-- The name after the character that makes it an anchor or an alias. -/
def anchorName? (c : Cursor) : Option (String × Cursor) :=
  let (name, after) := c.next.span isNameChar
  if name.isEmpty || !endsAnchor after.rest then none else some (String.ofList name, after)

/-! ## Tags -/

/-- A character of tags. A tag in angle brackets may also hold the separators of flow sequences. -/
def isTagChar (bracketed : Bool) (c : Char) : Bool :=
  isNameChar c || c == singleQuote ||
    c ∈ [';', '/', '?', ':', '@', '&', '=', '+', '$', '.', '%', '!', '~', '*', '(', ')'] ||
    (bracketed && (c == ',' || c == '[' || c == ']'))

/-- How many octets a character has whose encoding begins with this one. -/
def encodingLength? (lead : Nat) : Option Nat :=
  if lead < 0x80 then some 1
  else if lead < 0xC0 then none
  else if lead < 0xE0 then some 2
  else if lead < 0xF0 then some 3
  else if lead < 0xF8 then some 4
  else none

/-- A tag with its escaped octets decoded, where `missing` octets are still to come of the character
that is being decoded. The first octet of a character says how many follow; that they are the
encoding of a character is not looked at. -/
def decodeOctets (missing : Nat) : List Char → Option Tag
  | '%' :: a :: b :: cs => do
    let octet := 16 * (← Numeral.digit? 16 a) + (← Numeral.digit? 16 b)
    let missing ←
      if missing = 0 then (encodingLength? octet).map (· - 1)
      else if 0x80 ≤ octet ∧ octet < 0xC0 then some (missing - 1)
      else none
    (decodeOctets missing cs).map (UInt8.ofNat octet :: ·)
  | [] => if missing = 0 then some [] else none
  | c :: cs =>
    if missing = 0 ∧ c ≠ '%' then (decodeOctets 0 cs).map (UInt8.ofNat c.toNat :: ·) else none

/-- The octets of a tag at a place, decoded. A tag ends at an escaped zero. -/
def tagText? (bracketed : Bool) (c : Cursor) : Option (Tag × Cursor) := do
  let (raw, after) := c.span (isTagChar bracketed)
  let text ← decodeOctets 0 raw
  some (text.takeWhile (· ≠ 0), after)

/-- The word at a place where an exclamation mark stands, and whether a second one ends it. -/
def tagHandle? (c : Cursor) : Option (List Char × Bool × Cursor) :=
  if c.rest.head? == some '!' then
    let (word, after) := c.next.span isNameChar
    if after.rest.head? == some '!' then some (('!' :: word) ++ ['!'], true, after.next)
    else some ('!' :: word, false, after)
  else none

/-- Whether a tag may end in front of this text. -/
def endsTag (inFlow : Bool) (rest : List Char) : Bool :=
  atGap rest || (inFlow && rest.head? == some ',')

/-- The handle and the suffix of the tag at a place where its exclamation mark stands. A tag without
a handle has an empty one, and so has the tag that is nothing but the mark. -/
def tag? (inFlow : Bool) (c : Cursor) : Option (TokenKind × Cursor) := do
  let (handle, suffix, after) ←
    if c.next.rest.head? == some '<' then do
      let start := c.along 2
      let (text, after) ← tagText? true start
      if after.mark = start.mark || after.rest.head? != some '>' then none
      else some ([], text, after.next)
    else do
      let (word, closed, start) ← tagHandle? c
      let (text, after) ← tagText? false start
      if closed then if after.mark = start.mark then none else some (word, text, after)
      else
        let suffix := Tag.ofChars (word.drop 1) ++ text
        if suffix.isEmpty then some ([], .exclamation, after) else some (['!'], suffix, after)
  if endsTag inFlow after.rest then some (.tag (String.ofList handle) suffix, after) else none

/-! ## Directives -/

/-- A number of at most nine digits. -/
def versionNumber? (c : Cursor) : Option (Nat × Cursor) :=
  let (digits, after) := c.span isDigit
  if digits.isEmpty || 9 < digits.length then none
  else some (digits.foldl (fun n d => 10 * n + (d.toNat - '0'.toNat)) 0, after)

/-- The value of a version directive. -/
def version? (c : Cursor) : Option (TokenKind × Cursor) := do
  let (major, c) ← versionNumber? (c.skip isBlank)
  if c.rest.head? != some '.' then none
  else
    let (minor, c) ← versionNumber? c.next
    some (.version major minor, c)

/-- The value of a tag directive. -/
def tagDirective? (c : Cursor) : Option (TokenKind × Cursor) := do
  let (handle, closed, c) ← tagHandle? (c.skip isBlank)
  let next := c.skip isBlank
  if (!closed && handle.length != 1) || next.mark = c.mark then none
  else
    let (text, after) ← tagText? true next
    if after.mark = next.mark || !atGap after.rest then none
    else some (.tagHandle (String.ofList handle) text, after)

/-- The directive at a place where its percent sign stands, and the start of the line after it.
There are two directives, and any other is refused. -/
def directive? (c : Cursor) : Option (TokenKind × Cursor) := do
  let (name, c) := c.next.span isNameChar
  if !atGap c.rest then none
  else
    let (kind, c) ←
      match String.ofList name with
      | "YAML" => version? c
      | "TAG" => tagDirective? c
      | _ => none
    some (kind, ← c.endLine?)

end MemoryBridge.Yaml

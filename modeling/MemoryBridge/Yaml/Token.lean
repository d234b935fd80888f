import MemoryBridge.Fault
import MemoryBridge.Yaml.Cursor

/-!
# Tokens of YAML

A token is a mark of punctuation or a word of a document, or the start or the end of a block, which
the indentation shows.
-/

namespace MemoryBridge.Yaml

/-- How a scalar is written. -/
inductive ScalarStyle
  | plain
  | singleQuoted
  | doubleQuoted
  | literal
  | folded
  deriving DecidableEq, Repr

/-- A tag, or a part of one, as octets. They need not be the encoding of a text, since a tag can
hold octets by their codes. -/
abbrev Tag := Bytes

namespace Tag

/-- The octets of a text of ASCII characters. -/
def ofChars (cs : List Char) : Tag := cs.map fun c => UInt8.ofNat c.toNat

def ofText (t : String) : Tag := ofChars t.toList

/-- The tag that is nothing but an exclamation mark. -/
def exclamation : Tag := [0x21]

end Tag

inductive TokenKind
  | streamStart
  | streamEnd
  | version (major minor : Nat)
  /-- Gives a tag handle a meaning for one document. -/
  | tagHandle (handle : String) (meaning : Tag)
  | documentStart
  | documentEnd
  | blockSequence
  | blockMapping
  | blockEnd
  | flowSequence
  | flowSequenceEnd
  | flowMapping
  | flowMappingEnd
  | blockEntry
  | flowEntry
  | key
  | value
  | alias (name : String)
  | anchor (name : String)
  | tag (handle : String) (suffix : Tag)
  | scalar (text : String) (style : ScalarStyle)
  deriving DecidableEq, Repr

structure Token where
  kind : TokenKind
  mark : Mark
  deriving DecidableEq, Repr

end MemoryBridge.Yaml

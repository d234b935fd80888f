import MemoryBridge.Yaml.Token

/-!
# Events of YAML

The structure of a stream of documents, in the order of its text: scalars and aliases, and the start
and the end of sequences, mappings and documents.
-/

namespace MemoryBridge.Yaml

/-- A scalar of a document. -/
structure Scalar where
  text : String
  style : ScalarStyle := .plain
  /-- The tag, with its handle resolved. -/
  tag : Option Tag := none
  deriving DecidableEq, Repr

inductive EventKind
  | documentStart
  | documentEnd
  | streamEnd
  | alias (name : String)
  | scalar (s : Scalar) (anchor : Option String)
  | sequenceStart (anchor : Option String)
  | sequenceEnd
  | mappingStart (anchor : Option String)
  | mappingEnd
  deriving DecidableEq, Repr

structure Event where
  kind : EventKind
  mark : Mark
  deriving DecidableEq, Repr

end MemoryBridge.Yaml

import Std.Data.HashMap
import MemoryBridge.Yaml.Event.Grammar
import MemoryBridge.Yaml.Token.Lexer

/-!
# Documents

The first document of a text. When the text is malformed, the document is cut short there: a
reader who wants something else than what the document begins with learns that before the text
turns out to be malformed.
-/

namespace MemoryBridge.Yaml

/-- An event inside of a document. -/
inductive ContentKind
  /-- A node that was seen elsewhere, by the number of its anchor. -/
  | alias (anchor : Nat)
  | scalar (s : Scalar)
  | sequenceStart
  | sequenceEnd
  | mappingStart
  | mappingEnd
  deriving DecidableEq, Repr

structure Content where
  kind : ContentKind
  mark : Mark
  deriving DecidableEq, Repr

/-- How a document ends. -/
inductive Ending
  /-- At the end of the text. -/
  | whole
  /-- At a mistake, or in front of another document. -/
  | broken
  deriving DecidableEq, Repr

structure Document where
  contents : List Content := []
  /-- For the number of each anchor, how many contents are before the node that it stands at. The
  latest comes first. -/
  anchored : List (Nat × Nat) := []
  ending : Ending
  deriving Repr

namespace Document

/-- A document of which only the beginning is known. -/
structure Draft where
  /-- The latest content comes first. -/
  contents : List Content := []
  /-- How many contents there are. -/
  size : Nat := 0
  /-- The numbers of the names of anchors. -/
  names : Std.HashMap String Nat := {}
  anchored : List (Nat × Nat) := []
  deriving Repr

namespace Draft

/-- An anchor is numbered by how many names there were before it, and a name that is used again
gets a new number. -/
def anchor (d : Draft) (name : Option String) : Draft :=
  match name with
  | none => d
  | some name =>
    let number := d.names.size
    { d with names := d.names.insert name number, anchored := (number, d.size) :: d.anchored }

def add (d : Draft) (mark : Mark) (kind : ContentKind) : Draft :=
  { d with contents := ⟨kind, mark⟩ :: d.contents, size := d.size + 1 }

def finish (d : Draft) (ending : Ending) : Document :=
  { contents := d.contents.reverse, anchored := d.anchored, ending }

end Draft

/-- How the first document ends when these events follow it. -/
def endingBefore : List Event → Ending
  | [⟨.streamEnd, _⟩] => .whole
  | _ => .broken

/-- The document that begins as `d` says and goes on with these events. An alias of an anchor that
is not known is a mistake. -/
def collect (d : Draft) : List Event → Document
  | [] => d.finish .broken
  | e :: es =>
    match e.kind with
    | .documentStart => collect d es
    | .documentEnd => d.finish (endingBefore es)
    | .streamEnd => d.finish .whole
    | .alias name =>
      match d.names[name]? with
      | some number => collect (d.add e.mark (.alias number)) es
      | none => d.finish .broken
    | .scalar s name => collect ((d.anchor name).add e.mark (.scalar s)) es
    | .sequenceStart name => collect ((d.anchor name).add e.mark .sequenceStart) es
    | .mappingStart name => collect ((d.anchor name).add e.mark .mappingStart) es
    | .sequenceEnd => collect (d.add e.mark .sequenceEnd) es
    | .mappingEnd => collect (d.add e.mark .mappingEnd) es

/-- The first document of a text. A text without documents has an empty one. -/
def ofText (text : String) : Document :=
  collect {} (Grammar.events (Lexer.tokens text.toList))

/-- The contents from the node at an anchor on. -/
def node (d : Document) (anchor : Nat) : List Content :=
  match d.anchored.lookup anchor with
  | some n => d.contents.drop n
  | none => []

/-- Whether there is nothing in a document, not even a scalar without text. -/
def isEmpty (d : Document) : Bool := d.contents.isEmpty && d.ending == .whole

end Document

end MemoryBridge.Yaml

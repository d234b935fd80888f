import MemoryBridge.Yaml.Event

/-!
# The events of a sequence of tokens

The grammar keeps a stack of what it expects to follow. `Grammar.next` answers the next event; there
is none when the tokens do not fit what is expected, or when they run out.
-/

namespace MemoryBridge.Yaml

/-- What the grammar can expect. -/
inductive Expectation
  /-- A document, which need not be announced. -/
  | firstDocument
  /-- Another document or the end of the stream. -/
  | document
  | documentContent
  | documentEnd
  | blockNode
  | blockEntry (first : Bool)
  /-- An entry of a sequence that is a value of a block mapping without being indented further. -/
  | indentlessEntry
  | blockKey (first : Bool)
  | blockValue
  | flowEntry (first : Bool)
  /-- The key of a mapping of one entry in a flow sequence. -/
  | pairKey
  | pairValue
  | pairEnd
  | flowKey (first : Bool)
  | flowValue
  /-- The value of a key of a flow mapping that has none. -/
  | noFlowValue
  | nothing
  deriving DecidableEq, Repr

structure Grammar where
  tokens : List Token
  expected : Expectation := .firstDocument
  /-- What is expected after what is expected now, in turn. -/
  later : List Expectation := []
  /-- The meanings of tag handles in this document. -/
  handles : List (String × Tag) := []
  deriving Repr

/-- An event and what remains of the tokens. -/
abbrev Grammar.Step := Option (Event × Grammar)

namespace Grammar

/-- The handles that need not be declared. -/
def commonHandles : List (String × Tag) :=
  [("!", .exclamation), ("!!", .ofText "tag:yaml.org,2002:")]

/-- A tag in which the handle is replaced by its meaning. -/
def resolve? (handles : List (String × Tag)) (handle : String) (suffix : Tag) : Option Tag :=
  if handle.isEmpty then some suffix else (handles.lookup handle).map (· ++ suffix)

def peek? (g : Grammar) : Option Token := g.tokens.head?

def expect (g : Grammar) (e : Expectation) : Grammar := { g with expected := e }

/-- Expects `e` after what is expected now. -/
def push (g : Grammar) (e : Expectation) : Grammar := { g with later := e :: g.later }

/-- What was expected has come. -/
def pop (g : Grammar) : Grammar :=
  match g.later with
  | [] => { g with expected := .nothing }
  | e :: later => { g with expected := e, later }

def advance (g : Grammar) : Grammar := { g with tokens := g.tokens.drop 1 }

def emit (kind : EventKind) (mark : Mark) (g : Grammar) : Step := some (⟨kind, mark⟩, g)

/-- A node that is left out is a scalar without text. -/
def emitAbsent (mark : Mark) (g : Grammar) : Step := emit (.scalar { text := "" } none) mark g

/-! ## Nodes -/

/-- What stands in front of the content of a node. -/
structure Properties where
  anchor : Option String := none
  /-- Handle and suffix. -/
  tag : Option (String × Tag) := none
  deriving Repr

/-- The properties of a node, in either order, and the content after them. -/
def properties : List Token → Properties × List Token
  | ⟨.anchor a, _⟩ :: ⟨.tag h s, _⟩ :: rest => ({ anchor := some a, tag := some (h, s) }, rest)
  | ⟨.tag h s, _⟩ :: ⟨.anchor a, _⟩ :: rest => ({ anchor := some a, tag := some (h, s) }, rest)
  | ⟨.anchor a, _⟩ :: rest => ({ anchor := some a }, rest)
  | ⟨.tag h s, _⟩ :: rest => ({ tag := some (h, s) }, rest)
  | rest => ({}, rest)

/-- A node. Block collections may be its content only in a block, and entries of a sequence without
further indentation only where a mapping wants a key or a value. -/
def node (inBlock indentless : Bool) (g : Grammar) : Step := do
  let first ← g.peek?
  match first.kind with
  | .alias name => emit (.alias name) first.mark g.pop.advance
  | _ =>
    let (properties, tokens) := properties g.tokens
    let tag ←
      match properties.tag with
      | none => some none
      | some (handle, suffix) => (resolve? g.handles handle suffix).map some
    let content ← tokens.head?
    let g := { g with tokens }
    match content.kind with
    | .blockEntry =>
      if indentless then
        emit (.sequenceStart properties.anchor) first.mark (g.expect .indentlessEntry)
      else absent g properties tag first.mark
    | .scalar text style =>
      emit (.scalar { text, style, tag } properties.anchor) first.mark g.pop.advance
    | .flowSequence =>
      emit (.sequenceStart properties.anchor) first.mark (g.expect (.flowEntry true))
    | .flowMapping => emit (.mappingStart properties.anchor) first.mark (g.expect (.flowKey true))
    | .blockSequence =>
      if inBlock then
        emit (.sequenceStart properties.anchor) first.mark (g.expect (.blockEntry true))
      else absent g properties tag first.mark
    | .blockMapping =>
      if inBlock then emit (.mappingStart properties.anchor) first.mark (g.expect (.blockKey true))
      else absent g properties tag first.mark
    | _ => absent g properties tag first.mark
where
  /-- A node without content has at least a property. -/
  absent (g : Grammar) (properties : Properties) (tag : Option Tag) (mark : Mark) : Step :=
    if properties.anchor.isSome || properties.tag.isSome then
      emit (.scalar { text := "", tag } properties.anchor) mark g.pop
    else none

/-- A node up to one of the tokens `ends`, or none at all if one of them comes at once; `e` is
expected after it. -/
def nodeOrAbsent (inBlock indentless : Bool) (ends : List TokenKind) (mark : Mark) (e : Expectation)
    (g : Grammar) :
    Step := do
  let t ← g.peek?
  if t.kind ∈ ends then emitAbsent mark (g.expect e) else node inBlock indentless (g.push e)

/-! ## Documents -/

/-- Reads directives. A document has at most one version, which is 1.1 or 1.2, and
declares each handle once. -/
def directives (versioned : Bool) (handles : List (String × Tag)) :
    List Token → Option (List (String × Tag) × List Token)
  | ⟨.version major minor, _⟩ :: rest =>
    if versioned || major != 1 || (minor != 1 && minor != 2) then none
    else directives true handles rest
  | ⟨.tagHandle handle meaning, _⟩ :: rest =>
    if (handles.lookup handle).isSome then none
    else directives versioned (handles ++ [(handle, meaning)]) rest
  | rest => some (handles ++ commonHandles, rest)

/-- A document that is announced, or the end of the stream. -/
def announced (g : Grammar) : Step := do
  let t ← g.peek?
  if t.kind = .streamEnd then
    emit .streamEnd t.mark ({ g with later := [] }.expect .nothing).advance
  else
    let (handles, tokens) ← directives false [] g.tokens
    let start ← tokens.head?
    if start.kind = .documentStart then
      emit .documentStart t.mark
        (({ g with tokens, handles }.push .documentEnd).expect .documentContent).advance
    else none

def firstDocument (g : Grammar) : Step := do
  let t ← g.peek?
  match t.kind with
  | .version .. | .tagHandle .. | .documentStart | .streamEnd => announced g
  | _ =>
    emit .documentStart t.mark
      (({ g with handles := commonHandles }.push .documentEnd).expect .blockNode)

def document (g : Grammar) : Step :=
  announced { g with tokens := g.tokens.dropWhile fun t => t.kind == .documentEnd }

def documentContent (g : Grammar) : Step := do
  let t ← g.peek?
  match t.kind with
  | .version .. | .tagHandle .. | .documentStart | .documentEnd | .streamEnd =>
    emitAbsent t.mark g.pop
  | _ => node true false g

def documentEnd (g : Grammar) : Step := do
  let t ← g.peek?
  let g := if t.kind = .documentEnd then g.advance else g
  emit .documentEnd t.mark ({ g with handles := [] }.expect .document)

/-! ## Blocks -/

def blockEntry (g : Grammar) : Step := do
  let t ← g.peek?
  match t.kind with
  | .blockEntry =>
    nodeOrAbsent true false [.blockEntry, .blockEnd] t.mark.next (.blockEntry false) g.advance
  | .blockEnd => emit .sequenceEnd t.mark g.pop.advance
  | _ => none

def indentlessEntry (g : Grammar) : Step := do
  let t ← g.peek?
  match t.kind with
  | .blockEntry =>
    nodeOrAbsent true false [.blockEntry, .key, .value, .blockEnd] t.mark.next .indentlessEntry
      g.advance
  | _ => emit .sequenceEnd t.mark g.pop

def blockKey (g : Grammar) : Step := do
  let t ← g.peek?
  match t.kind with
  | .key => nodeOrAbsent true true [.key, .value, .blockEnd] t.mark.next .blockValue g.advance
  | .blockEnd => emit .mappingEnd t.mark g.pop.advance
  | _ => none

def blockValue (g : Grammar) : Step := do
  let t ← g.peek?
  match t.kind with
  | .value =>
    nodeOrAbsent true true [.key, .value, .blockEnd] t.mark.next (.blockKey false) g.advance
  | _ => emitAbsent t.mark (g.expect (.blockKey false))

/-! ## Flow collections -/

/-- In front of an entry that is not the first one stands a comma. -/
def comma (first : Bool) (g : Grammar) : Option Grammar := do
  if first then some g
  else
    let t ← g.peek?
    if t.kind = .flowEntry then some g.advance else none

def flowEntry (first : Bool) (g : Grammar) : Step := do
  let t ← g.peek?
  if t.kind = .flowSequenceEnd then emit .sequenceEnd t.mark g.pop.advance
  else
    let g ← comma first g
    let t ← g.peek?
    match t.kind with
    | .key => emit (.mappingStart none) t.mark (g.expect .pairKey).advance
    | .flowSequenceEnd => emit .sequenceEnd t.mark g.pop.advance
    | _ => node false false (g.push (.flowEntry false))

/-- The token that shows that there is no key is passed over with it. -/
def pairKey (g : Grammar) : Step := do
  let t ← g.peek?
  match t.kind with
  | .value | .flowEntry | .flowSequenceEnd => emitAbsent t.mark.next (g.expect .pairValue).advance
  | _ => node false false (g.push .pairValue)

def pairValue (g : Grammar) : Step := do
  let t ← g.peek?
  match t.kind with
  | .value =>
    let u ← g.advance.peek?
    nodeOrAbsent false false [.flowEntry, .flowSequenceEnd] u.mark .pairEnd g.advance
  | _ => emitAbsent t.mark (g.expect .pairEnd)

def pairEnd (g : Grammar) : Step := do
  let t ← g.peek?
  emit .mappingEnd t.mark (g.expect (.flowEntry false))

def flowKey (first : Bool) (g : Grammar) : Step := do
  let t ← g.peek?
  if t.kind = .flowMappingEnd then emit .mappingEnd t.mark g.pop.advance
  else
    let g ← comma first g
    let t ← g.peek?
    match t.kind with
    | .key =>
      let u ← g.advance.peek?
      nodeOrAbsent false false [.value, .flowEntry, .flowMappingEnd] u.mark .flowValue g.advance
    | .flowMappingEnd => emit .mappingEnd t.mark g.pop.advance
    | _ => node false false (g.push .noFlowValue)

def flowValue (g : Grammar) : Step := do
  let t ← g.peek?
  match t.kind with
  | .value =>
    let u ← g.advance.peek?
    nodeOrAbsent false false [.flowEntry, .flowMappingEnd] u.mark (.flowKey false) g.advance
  | _ => emitAbsent t.mark (g.expect (.flowKey false))

def noFlowValue (g : Grammar) : Step := do
  let t ← g.peek?
  emitAbsent t.mark (g.expect (.flowKey false))

/-! ## Events -/

/-- The next event. -/
def next (g : Grammar) : Step :=
  match g.expected with
  | .firstDocument => g.firstDocument
  | .document => g.document
  | .documentContent => g.documentContent
  | .documentEnd => g.documentEnd
  | .blockNode => g.node true false
  | .blockEntry true => blockEntry g.advance
  | .blockEntry false => g.blockEntry
  | .indentlessEntry => g.indentlessEntry
  | .blockKey true => blockKey g.advance
  | .blockKey false => g.blockKey
  | .blockValue => g.blockValue
  | .flowEntry true => flowEntry true g.advance
  | .flowEntry false => flowEntry false g
  | .pairKey => g.pairKey
  | .pairValue => g.pairValue
  | .pairEnd => g.pairEnd
  | .flowKey true => flowKey true g.advance
  | .flowKey false => flowKey false g
  | .flowValue => g.flowValue
  | .noFlowValue => g.noFlowValue
  | .nothing => none

/-- The events from here on, as far as the tokens go. -/
def run : Nat → Grammar → List Event
  | 0, _ => []
  | fuel + 1, g =>
    match g.next with
    | none => []
    | some (e, g) => e :: run fuel g

/-- The events of a stream of tokens. Events without a token of their own stand between two tokens,
at most three together, so `fuel` is not used up before the tokens are. -/
def events : List Token → List Event
  | ⟨.streamStart, _⟩ :: tokens => run (4 * tokens.length + 4) { tokens }
  | _ => []

end Grammar

end MemoryBridge.Yaml

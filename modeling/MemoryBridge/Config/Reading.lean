import MemoryBridge.Config
import MemoryBridge.Config.Misfit
import MemoryBridge.Yaml.Document

/-!
# Configuration files

A configuration file is a YAML document: a mapping from the names of settings to their values.
Settings that it does not have keep their defaults, and names that are no settings are passed over.

A file is read from its start, and the first thing wrong with it is what is reported, be it a misfit
or a mistake in the document.
-/

namespace MemoryBridge

/-- Why a file is no configuration. -/
inductive ConfigFault
  /-- It is not a single well-formed document. -/
  | malformed
  | misfit (m : Misfit)
  deriving DecidableEq, Repr

namespace Config

open Yaml (Content ContentKind Document Scalar Value)

abbrev Reading (α : Type) := Except ConfigFault α

/-! ## Nodes -/

/-- The change of depth that a content makes. -/
def depthChange (depth : Nat) : ContentKind → Nat
  | .sequenceStart | .mappingStart => depth + 1
  | .sequenceEnd | .mappingEnd => depth - 1
  | _ => depth

/-- What follows the node at the start of these contents, of which `depth` collections are open. -/
def afterNode? (depth : Nat) : List Content → Option (List Content)
  | [] => none
  | c :: cs =>
    let depth := depthChange depth c.kind
    if depth = 0 then some cs else afterNode? depth cs

theorem afterNode?_length {depth : Nat} {cs rest : List Content}
    (h : afterNode? depth cs = some rest) : rest.length < cs.length := by
  induction cs generalizing depth with
  | nil => cases h
  | cons c cs ih =>
    rw [afterNode?] at h
    split at h
    · cases h
      simp
    · exact Nat.lt_trans (ih h) (by simp)

/-- The content at the start of a node, and those after it. An alias stands for the node at its
anchor. -/
def content (d : Document) : List Content → Reading (Content × List Content)
  | [] => .error .malformed
  | c :: cs =>
    match c.kind with
    | .alias anchor =>
      match d.node anchor with
      | [] => .error .malformed
      | target :: rest => .ok (target, rest)
    | _ => .ok (c, cs)

/-- The misfit of a content where something else is wanted. -/
def misfitOf (wanted : Wanted) : ContentKind → MisfitKind
  | .scalar s =>
    match s.value with
    | .ok v => .wrongType (.value v) wanted
    | .error kind => .wrongValue (.value (.text s.text)) (.ofKind kind)
  | .sequenceStart | .sequenceEnd => .wrongType .sequence wanted
  | _ => .wrongType .mapping wanted

def refuse {α : Type} (path : List String) (c : Content) (kind : MisfitKind) : Reading α :=
  .error (.misfit { kind, place := some ⟨path, c.mark⟩ })

/-- The result of reading a mapping, where a misfit that has no place gets that of the mapping. -/
def located {α : Type} (path : List String) (c : Content) : Reading α → Reading α
  | .error (.misfit m) => .error (.misfit (m.locate ⟨path, c.mark⟩))
  | r => r

/-! ## Scalars -/

/-- A natural, at most `limit`. -/
def readNatural (wanted : Wanted) (limit : Nat) (d : Document) (path : List String)
    (cs : List Content) :
    Reading Nat := do
  let (c, _) ← content d cs
  let number? :=
    match c.kind with
    | .scalar s =>
      if s.mayBe .integer then Value.natural? 0xffffffffffffffff s.text.toList else none
    | _ => none
  match number? with
  | some n => if n ≤ limit then .ok n else refuse path c (.wrongValue (.value (.integer n)) wanted)
  | none => refuse path c (misfitOf wanted c.kind)

def readByte (d : Document) (path : List String) (cs : List Content) : Reading UInt8 := do
  return UInt8.ofNat (← readNatural .byte 0xff d path cs)

def readWord (d : Document) (path : List String) (cs : List Content) : Reading UInt32 := do
  return UInt32.ofNat (← readNatural .word 0xffffffff d path cs)

def readLongWord (d : Document) (path : List String) (cs : List Content) : Reading UInt64 := do
  return UInt64.ofNat (← readNatural .longWord 0xffffffffffffffff d path cs)

def readBoolean (d : Document) (path : List String) (cs : List Content) : Reading Bool := do
  let (c, _) ← content d cs
  let boolean? :=
    match c.kind with
    | .scalar s => if s.mayBe .boolean then Value.boolean? s.text else none
    | _ => none
  match boolean? with
  | some b => .ok b
  | none => refuse path c (misfitOf .boolean c.kind)

/-- A text. Every scalar is one, whatever else it may be. -/
def readText (wanted : Wanted) (d : Document) (path : List String) (cs : List Content) :
    Reading String := do
  let (c, _) ← content d cs
  match c.kind with
  | .scalar s => .ok s.text
  | k => refuse path c (misfitOf wanted k)

/-! ## Mappings -/

/-- A field of a mapping that is read into an `α`. -/
structure Field (α : Type) where
  name : String
  /-- Reads the value of the field and puts it in its place. -/
  read : Document → List String → List Content → Reading (α → α)

/-- The name of a key in the path to its value. A key that is no scalar has none. -/
def keyName : ContentKind → String
  | .scalar s => s.text
  | _ => "?"

/-- Reads the fields of a mapping whose start was passed. `seen` are the names of those that were
read. -/
def readFields {α : Type} (fields : List (Field α)) (d : Document) (path : List String)
    (cs : List Content) (seen : List String) (a : α) : Reading (α × List String) :=
  match cs with
  | [] => .error .malformed
  | c :: rest =>
    if c.kind = .mappingEnd then .ok (a, seen)
    else
      match readText .fieldName d path (c :: rest) with
      | .error fault => .error fault
      | .ok name =>
        let value : Reading (α × List String) :=
          match fields.find? fun f => f.name == name with
          | none => .ok (a, seen)
          | some f =>
            if name ∈ seen then .error (.misfit { kind := .repeated name })
            else
              match f.read d (path ++ [keyName c.kind]) rest with
              | .error fault => .error fault
              | .ok put => .ok (put a, name :: seen)
        match value with
        | .error fault => .error fault
        | .ok (a, seen) =>
          match _h : afterNode? 0 rest with
          | none => .error .malformed
          | some next => readFields fields d path next seen a
termination_by cs.length
decreasing_by
  have := afterNode?_length _h
  simp only [List.length_cons]
  omega

/-- Reads a mapping, or a node that is left out, which stands for an empty one. -/
def readMapping {α : Type} (wanted : Wanted) (fields : List (Field α)) (d : Document)
    (path : List String) (cs : List Content) (a : α)
    (finish : α × List String → Reading α) : Reading α := do
  let (c, rest) ← content d cs
  match c.kind with
  | .mappingStart => located path c (readFields fields d path rest [] a >>= finish)
  | .scalar s =>
    if s.style = .plain ∧ s.text = "" then located path c (finish (a, []))
    else refuse path c (misfitOf wanted c.kind)
  | k => refuse path c (misfitOf wanted k)

/-! ## Settings -/

def passthroughFields : List (Field Passthrough) :=
  [{ name := "port", read := fun d path cs => do
      let port ← readText .text d path cs
      return fun p => { p with port } },
   { name := "baud", read := fun d path cs => do
      let baud ← readWord d path cs
      return fun p => { p with baud } }]

/-- The passthrough port. It must have a name. -/
def readPassthrough (d : Document) (path : List String) (cs : List Content) : Reading Passthrough :=
  readMapping .passthrough passthroughFields d path cs { port := "" } fun (p, seen) =>
    if "port" ∈ seen then .ok p else .error (.misfit { kind := .missing "port" })

/-- Whether a node stands for nothing. A node with the tag of null that is not null is refused. -/
def isNothing (d : Document) (cs : List Content) : Reading Bool := do
  let (c, _) ← content d cs
  match c.kind with
  | .scalar s =>
    if s.style ≠ .plain then .ok false
    else
      match s.tag with
      | none => .ok (s.text.isEmpty || Value.isNull s.text)
      | some tag =>
        if Yaml.ValueKind.ofTag? tag ≠ some .null then .ok false
        else if Value.isNull s.text then .ok true
        else .error (.misfit { kind := .wrongValue (.value (.text s.text)) (.ofKind .null) })
  | _ => .ok false

def longWordField (name : String) (put : UInt64 → Config → Config) : Field Config :=
  { name, read := fun d path cs => do return put (← readLongWord d path cs) }

def fields : List (Field Config) :=
  [{ name := "port", read := fun d path cs => do
      let port ← readText .text d path cs
      return fun c => { c with port } },
   { name := "baud", read := fun d path cs => do
      let baud ← readWord d path cs
      return fun c => { c with baud } },
   { name := "init_value", read := fun d path cs => do
      let initValue ← readByte d path cs
      return fun c => { c with initValue } },
   { name := "passthrough", read := fun d path cs => do
      if ← isNothing d cs then return fun c => { c with passthrough := none }
      else
        let passthrough ← readPassthrough d path cs
        return fun c => { c with passthrough := some passthrough } },
   longWordField "reconnect_delay_ms" fun n c => { c with reconnectDelay := n },
   longWordField "settle_delay_ms" fun n c => { c with settleDelay := n },
   longWordField "handshake_interval_ms" fun n c => { c with handshakeInterval := n },
   longWordField "poll_timeout_ms" fun n c => { c with pollTimeout := n },
   longWordField "command_timeout_ms" fun n c => { c with commandTimeout := n },
   { name := "ack_init", read := fun d path cs => do
      let ackInit ← readBoolean d path cs
      return fun c => { c with ackInit } }]

/-- The configuration that a document holds. An empty document holds the defaults. -/
def ofDocument (d : Document) : Reading Config := do
  let config ←
    if d.isEmpty then .ok {}
    else readMapping .config fields d [] d.contents {} fun (c, _) => .ok c
  match d.ending with
  | .whole => .ok config
  | .broken => .error .malformed

/-- The configuration that a YAML text holds. -/
def ofYaml (text : String) : Reading Config :=
  ofDocument (Document.ofText text)

end Config

end MemoryBridge

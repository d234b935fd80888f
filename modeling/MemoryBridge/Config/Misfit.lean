import MemoryBridge.Text.Hidden
import MemoryBridge.Yaml.Value

/-!
# Misfits

A misfit is something in a document that is no setting: what was found, what was wanted, and where.
-/

namespace MemoryBridge

/-- What a document holds at a place where something else is wanted. -/
inductive Found
  | value (v : Yaml.Value)
  | sequence
  | mapping
  deriving DecidableEq, Repr

/-- What is wanted at a place of a document. -/
inductive Wanted
  | byte
  | word
  | longWord
  | boolean
  | text
  | config
  | passthrough
  | fieldName
  /-- A value of the kind that a tag asks for. -/
  | ofKind (kind : Yaml.ValueKind)
  deriving DecidableEq, Repr

inductive MisfitKind
  | wrongType (found : Found) (wanted : Wanted)
  | wrongValue (found : Found) (wanted : Wanted)
  | missing (field : String)
  | repeated (field : String)
  deriving DecidableEq, Repr

/-- The place of a misfit: the names of the fields on the way to it, and where it stands in the
text. -/
structure MisfitPlace where
  path : List String
  mark : Yaml.Mark
  deriving DecidableEq, Repr

structure Misfit where
  kind : MisfitKind
  place : Option MisfitPlace := none
  deriving DecidableEq, Repr

/-- Texts of messages, in which names and values stand in grave accents. -/
def inAccents (t : String) : String := "`" ++ t ++ "`"

/-- An integer, and how wide it is if it has more than 64 bits. -/
def Found.integerText (n : Int) : String :=
  let text := "integer " ++ inAccents (toString n)
  if n < -0x8000000000000000 then text ++ " as i128"
  else if 0xffffffffffffffff < n then text ++ " as u128"
  else text

def Found.message : Found → String
  | .value .null => "unit value"
  | .value (.boolean b) => "boolean " ++ inAccents (if b then "true" else "false")
  | .value (.integer n) => Found.integerText n
  | .value (.real r) => "floating point " ++ inAccents r.text
  | .value (.text t) => "string " ++ Text.quote t
  | .sequence => "sequence"
  | .mapping => "map"

def Wanted.message : Wanted → String
  | .byte => "u8"
  | .word => "u32"
  | .longWord => "u64"
  | .boolean => "a boolean"
  | .text => "a string"
  | .config => "struct BridgeConfig"
  | .passthrough => "struct PassthroughConfig"
  | .fieldName => "field identifier"
  | .ofKind .null => "null"
  | .ofKind .boolean => "a boolean"
  | .ofKind .integer => "an integer"
  | .ofKind .real => "a float"

def MisfitKind.message : MisfitKind → String
  | .wrongType found wanted => "invalid type: " ++ found.message ++ ", expected " ++ wanted.message
  | .wrongValue found wanted =>
    "invalid value: " ++ found.message ++ ", expected " ++ wanted.message
  | .missing field => "missing field " ++ inAccents field
  | .repeated field => "duplicate field " ++ inAccents field

namespace Misfit

/-- The misfit at a place, unless its place is known already. -/
def locate (m : Misfit) (place : MisfitPlace) : Misfit :=
  { m with place := some (m.place.getD place) }

/-- A misfit at the very start of the text is reported without its place. -/
def message (m : Misfit) : String :=
  match m.place with
  | none => m.kind.message
  | some p =>
    let path := if p.path.isEmpty then "" else String.intercalate "." p.path ++ ": "
    let position :=
      if p.mark.line = 0 ∧ p.mark.column = 0 then ""
      else " at line " ++ toString (p.mark.line + 1) ++ " column " ++ toString (p.mark.column + 1)
    path ++ m.kind.message ++ position

end Misfit

end MemoryBridge

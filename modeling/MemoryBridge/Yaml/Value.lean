import MemoryBridge.Decimal.Double
import MemoryBridge.Text.Numeral
import MemoryBridge.Yaml.Event

/-!
# Values of scalars

What the text of a scalar stands for. A plain scalar without a tag may be null, a boolean, an
integer or a real number, and is a text otherwise. A tag of YAML's own asks for one of these kinds.
-/

namespace MemoryBridge.Yaml

/-- A real number of double precision, or one of the values beside them. -/
inductive Real
  | finite (negative : Bool) (value : Double)
  | infinite (negative : Bool)
  | notANumber
  deriving DecidableEq, Repr

/-- Reals are written with the fewest digits that identify them, without an exponent and with a
point. -/
def Real.text : Real → String
  | .finite negative value =>
    String.ofList ((if negative then ['-'] else []) ++ value.shortest.positional)
  | .infinite negative => if negative then "-inf" else "inf"
  | .notANumber => "NaN"

inductive Value
  | null
  | boolean (b : Bool)
  | integer (n : Int)
  | real (r : Real)
  | text (t : String)
  deriving DecidableEq, Repr

namespace Value

def isNull (t : String) : Bool := t ∈ ["null", "Null", "NULL", "~"]

def boolean? (t : String) : Option Bool :=
  if t ∈ ["true", "True", "TRUE"] then some true
  else if t ∈ ["false", "False", "FALSE"] then some false
  else none

/-- Whether a text is a numeral with a zero in front, which is a text and no number. -/
def zeroInFront (cs : List Char) : Bool :=
  let digits :=
    match cs with
    | '-' :: ds => ds
    | '+' :: ds => ds
    | ds => ds
  match digits with
  | '0' :: d :: ds => (d :: ds).all fun c => '0' ≤ c && c ≤ '9'
  | _ => false

/-- The base that a numeral without a sign is written in, and its digits. -/
def based? : List Char → Option (Nat × List Char)
  | '0' :: 'x' :: ds => some (16, ds)
  | '0' :: 'o' :: ds => some (8, ds)
  | '0' :: 'b' :: ds => some (2, ds)
  | _ => none

/-- A natural, at most `limit`, that is written in digits only. -/
def digits? (base limit : Nat) (ds : List Char) : Option Nat :=
  if ds.isEmpty then none
  else
    match Numeral.readDigits base limit 0 ds with
    | .ok n => some n
    | .error _ => none

/-- A natural, at most `limit`. A plus sign may stand in front of it. -/
def natural? (limit : Nat) (cs : List Char) : Option Nat :=
  let unsigned :=
    match cs with
    | '+' :: rest => rest
    | rest => rest
  match based? unsigned with
  | some (base, ds) => digits? base limit ds
  | none => if zeroInFront cs then none else digits? 10 limit unsigned

/-- The amount of an integer with a minus sign in front. -/
def amountBelowZero? (limit : Nat) : List Char → Option Nat
  | '-' :: rest =>
    match based? rest with
    | some (base, ds) => digits? base limit ds
    | none => if zeroInFront rest then none else digits? 10 limit rest
  | _ => none

/-- The greatest integer of 128 bits. -/
def greatestNatural : Nat := 0xffffffffffffffffffffffffffffffff

/-- The amount of the least integer of 128 bits with a sign. -/
def greatestAmountBelowZero : Nat := 0x80000000000000000000000000000000

/-- An integer of at most 128 bits. -/
def integer? (cs : List Char) : Option Int :=
  match natural? greatestNatural cs with
  | some n => some n
  | none => (amountBelowZero? greatestAmountBelowZero cs).map fun n => -(n : Int)

/-- The value of decimal digits, however many. -/
def allDigits? (ds : List Char) : Option Nat :=
  digits? 10 (Nat.pow 10 ds.length) ds

/-- The exponent of a decimal at the end of a text. -/
def exponent? : List Char → Option Int
  | [] => some 0
  | e :: rest =>
    if e == 'e' || e == 'E' then
      match rest with
      | '-' :: ds => (allDigits? ds).map fun n => -(n : Int)
      | '+' :: ds => (allDigits? ds).map fun n => n
      | ds => (allDigits? ds).map fun n => n
    else none

/-- A decimal without a sign, and the number of its digits. Digits must stand in front of the
point or after it. -/
def decimal? (cs : List Char) : Option (Decimal × Nat) := do
  let isDigit (c : Char) : Bool := '0' ≤ c && c ≤ '9'
  let whole := cs.takeWhile isDigit
  let rest := cs.drop whole.length
  let fraction := if rest.head? == some '.' then (rest.drop 1).takeWhile isDigit else []
  let rest := if rest.head? == some '.' then rest.drop (fraction.length + 1) else rest
  let digits := whole ++ fraction
  let value ← allDigits? digits
  let exponent ← exponent? rest
  some (⟨value, exponent - fraction.length⟩, digits.length)

def finite? (negative : Bool) (cs : List Char) : Option Real := do
  let (decimal, size) ← decimal? cs
  let value ← Double.nearest? decimal size
  some (.finite negative value)

/-- A real number. A decimal beyond all doubles is none. -/
def real? (t : String) : Option Real :=
  if t ∈ [".inf", ".Inf", ".INF", "+.inf", "+.Inf", "+.INF"] then some (.infinite false)
  else if t ∈ ["-.inf", "-.Inf", "-.INF"] then some (.infinite true)
  else if t ∈ [".nan", ".NaN", ".NAN"] then some .notANumber
  else
    match t.toList with
    | '-' :: rest => finite? true rest
    | '+' :: rest => finite? false rest
    | cs => finite? false cs

/-- What a plain scalar without a tag stands for. -/
def ofPlain (t : String) : Value :=
  if t.isEmpty || isNull t then .null
  else
    match boolean? t with
    | some b => .boolean b
    | none =>
      match integer? t.toList with
      | some n => .integer n
      | none =>
        if zeroInFront t.toList then .text t
        else
          match real? t with
          | some r => .real r
          | none => .text t

end Value

/-- A kind of value that a tag can ask for. -/
inductive ValueKind
  | null
  | boolean
  | integer
  | real
  deriving DecidableEq, Repr

namespace ValueKind

def all : List ValueKind := [.null, .boolean, .integer, .real]

/-- The tag of YAML's own that asks for a kind. -/
def tag : ValueKind → Tag
  | .null => .ofText "tag:yaml.org,2002:null"
  | .boolean => .ofText "tag:yaml.org,2002:bool"
  | .integer => .ofText "tag:yaml.org,2002:int"
  | .real => .ofText "tag:yaml.org,2002:float"

/-- The kind that a tag of YAML's own asks for. -/
def ofTag? (tag : Tag) : Option ValueKind :=
  all.find? fun kind => kind.tag == tag

/-- The value of a kind that a text stands for. -/
def read? (kind : ValueKind) (t : String) : Option Value :=
  match kind with
  | .null => if Value.isNull t then some .null else none
  | .boolean => (Value.boolean? t).map .boolean
  | .integer => (Value.integer? t.toList).map .integer
  | .real => (Value.real? t).map .real

end ValueKind

namespace Scalar

/-- What a scalar stands for, or the kind that its tag asks for in vain. Beside YAML's own tags, a
tag makes the scalar a text, unless it is local to the document and the scalar is plain. -/
def value (s : Scalar) : Except ValueKind Value :=
  match s.tag with
  | none => .ok (if s.style = .plain then Value.ofPlain s.text else .text s.text)
  | some tag =>
    match ValueKind.ofTag? tag with
    | some kind =>
      match kind.read? s.text with
      | some v => .ok v
      | none => .error kind
    | none =>
      .ok (if s.style = .plain ∧ tag.head? = some 0x21 then Value.ofPlain s.text else .text s.text)

/-- Whether a scalar may be read as a value of a kind although nothing but its place asks for that:
if it is plain, or literal with the tag of that kind. -/
def mayBe (s : Scalar) (kind : ValueKind) : Bool :=
  match s.style with
  | .plain => true
  | .literal => s.tag.bind ValueKind.ofTag? == some kind
  | _ => false

end Scalar

end MemoryBridge.Yaml

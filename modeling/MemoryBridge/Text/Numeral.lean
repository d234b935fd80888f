/-!
# Numerals

A numeral is an optional sign and digits of a base, the highest digit first. It is read from left to
right, and the first thing that is wrong with it decides how it fails: at each digit, that the
character is no digit before that the value is out of range.
-/

namespace MemoryBridge

/-- Why a text is no numeral of a range of integers. -/
inductive NumeralFault
  | empty
  | invalidDigit
  | tooLarge
  | tooSmall
  deriving DecidableEq, Repr

def NumeralFault.message : NumeralFault → String
  | .empty => "cannot parse integer from empty string"
  | .invalidDigit => "invalid digit found in string"
  | .tooLarge => "number too large to fit in target type"
  | .tooSmall => "number too small to fit in target type"

namespace Numeral

/-- The value of a digit, letters of either case counting on from ten. No other character is
worth less than 36. -/
def digitValue (c : Char) : Nat :=
  let n := c.toNat
  if 0x30 ≤ n ∧ n ≤ 0x39 then n - 0x30
  else if 0x61 ≤ n ∧ n ≤ 0x7A then n - 0x61 + 10
  else if 0x41 ≤ n ∧ n ≤ 0x5A then n - 0x41 + 10
  else 36

/-- The value of a digit of a base. -/
def digit? (base : Nat) (c : Char) : Option Nat :=
  if digitValue c < base then some (digitValue c) else none

/-- The value of the digits, where those before them have the value `acc`, as long as it
stays within the limit. -/
def readDigits (base limit : Nat) : Nat → List Char → Except NumeralFault Nat
  | acc, [] => .ok acc
  | acc, c :: cs =>
    match digit? base c with
    | none => .error .invalidDigit
    | some d =>
      if base * acc + d ≤ limit then readDigits base limit (base * acc + d) cs else .error .tooLarge

/-- An unsigned numeral. A plus sign may stand in front of the digits; a sign alone is no
numeral. -/
def readNat (base limit : Nat) : List Char → Except NumeralFault Nat
  | [] => .error .empty
  | ['+'] => .error .invalidDigit
  | '+' :: ds => readDigits base limit 0 ds
  | ds => readDigits base limit 0 ds

/-- A signed numeral, at most `above` and at least `-below`. -/
def readInt (base above below : Nat) : List Char → Except NumeralFault Int
  | '-' :: d :: ds =>
    match readDigits base below 0 (d :: ds) with
    | .ok n => .ok (-n)
    | .error .tooLarge => .error .tooSmall
    | .error f => .error f
  | cs =>
    match readNat base above cs with
    | .ok n => .ok n
    | .error f => .error f

end Numeral

end MemoryBridge

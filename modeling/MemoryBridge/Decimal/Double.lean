/-!
# Doubles and decimals

A double is `mantissa * 2 ^ exponent` with a mantissa of at most 53 bits. A decimal is read as the
double nearest to it, and a double is written as the shortest decimal that is read as this double.
Everything is computed exactly, on naturals.
-/

namespace MemoryBridge

/-- A finite double that is not negative. -/
structure Double where
  mantissa : Nat
  exponent : Int
  deriving DecidableEq, Repr

/-- `digits * 10 ^ exponent`. -/
structure Decimal where
  digits : Nat
  exponent : Int
  deriving DecidableEq, Repr

/-- The same decimal without zeros at the end of its digits. -/
def Decimal.reduce (d : Decimal) : Decimal :=
  if d.digits = 0 ∨ d.digits % 10 ≠ 0 then d else Decimal.reduce ⟨d.digits / 10, d.exponent + 1⟩
termination_by d.digits
decreasing_by omega

namespace Double

/-- The quotient of two naturals, rounded to the nearest natural; of two that are equally
near, to the even one. -/
def roundQuotient (a b : Nat) : Nat :=
  let q := a / b
  let r := a % b
  if 2 * r < b ∨ (2 * r = b ∧ q % 2 = 0) then q else q + 1

/-- A quotient divided by `2 ^ e`. -/
def downBy (e : Int) (q : Nat × Nat) : Nat × Nat :=
  (q.1 * Nat.pow 2 (-e).toNat, q.2 * Nat.pow 2 e.toNat)

/-- The least mantissa of 53 bits. -/
def fullMantissa : Nat := 0x10000000000000

/-- The exponent of the doubles next to zero. -/
def leastExponent : Int := -1074

/-- The greatest exponent of a double. -/
def greatestExponent : Int := 971

def zero : Double := ⟨0, leastExponent⟩

/-- The double nearest to a positive quotient, or none if the quotient is beyond all doubles. -/
def nearestQuotient? (num den : Nat) : Option Double :=
  let guess : Int := (num.log2 : Int) - den.log2 - 52
  let (a, b) := downBy guess (num, den)
  let exponent := max (if a < fullMantissa * b then guess - 1 else guess) leastExponent
  let (a, b) := downBy exponent (num, den)
  let mantissa := roundQuotient a b
  let d : Double :=
    if mantissa = 2 * fullMantissa then ⟨fullMantissa, exponent + 1⟩ else ⟨mantissa, exponent⟩
  if greatestExponent < d.exponent then none else some d

/-- The double nearest to a decimal whose digits are `size` many. Far beyond the range of doubles
the digits do not matter. -/
def nearest? (d : Decimal) (size : Nat) : Option Double :=
  if d.digits = 0 ∨ d.exponent + size < -400 then some zero
  else if 400 < d.exponent then none
  else nearestQuotient? (d.digits * Nat.pow 10 d.exponent.toNat) (Nat.pow 10 (-d.exponent).toNat)

/-- Compares `a * 10 ^ i` with `n * 2 ^ j`. -/
def compareScaled (a : Nat) (i : Int) (n : Nat) (j : Int) : Ordering :=
  compare (a * Nat.pow 10 i.toNat * Nat.pow 2 (-j).toNat)
    (n * Nat.pow 2 j.toNat * Nat.pow 10 (-i).toNat)

/-- Whether a decimal is read as this double: whether it lies between the middles to the two doubles
next to it. A middle itself belongs to the double with the even mantissa, and below a power of two
the doubles are closer together. -/
def readsBack (x : Double) (d : Decimal) : Bool :=
  let low :=
    if x.mantissa = fullMantissa ∧ leastExponent < x.exponent then 4 * x.mantissa - 1
    else 4 * x.mantissa - 2
  let high := 4 * x.mantissa + 2
  let even := x.mantissa % 2 == 0
  let atLow := compareScaled d.digits d.exponent low (x.exponent - 2)
  let atHigh := compareScaled d.digits d.exponent high (x.exponent - 2)
  (atLow == .gt || (even && atLow == .eq)) && (atHigh == .lt || (even && atHigh == .eq))

/-- The least power of ten that is greater than a positive double. The logarithm to the base of
two tells it almost. -/
def magnitude (x : Double) : Int :=
  let guess : Int := (((x.mantissa.log2 : Int) + x.exponent) * 30103).fdiv 100000
  let isBelow (p : Int) : Bool := compareScaled 1 p x.mantissa x.exponent == .gt
  if isBelow guess then guess else if isBelow (guess + 1) then guess + 1 else guess + 2

/-- The decimal with the given exponent that is nearest to a double, among the two around it that
are read as this double; of two that are equally near, the greater one. -/
def onGrid? (x : Double) (exponent : Int) : Option Decimal :=
  let below := (x.mantissa * Nat.pow 2 x.exponent.toNat * Nat.pow 10 (-exponent).toNat) /
    (Nat.pow 2 (-x.exponent).toNat * Nat.pow 10 exponent.toNat)
  let low : Decimal := ⟨below, exponent⟩
  let high : Decimal := ⟨below + 1, exponent⟩
  match x.readsBack low, x.readsBack high with
  | true, true =>
    some (if compareScaled (2 * below + 1) exponent (2 * x.mantissa) x.exponent ==
      .gt then low else high)
  | true, false => some low
  | false, true => some high
  | false, false => none

/-- The shortest decimal that is read as this double. Seventeen digits are always enough. -/
def shortest (x : Double) : Decimal :=
  if x.mantissa = 0 then ⟨0, 0⟩
  else
    let magnitude := x.magnitude
    ((List.range 17).findSome? fun (n : Nat) =>
      x.onGrid? (magnitude - (n + 1))).getD ⟨0, 0⟩ |>.reduce

end Double

/-- A decimal without an exponent: its digits, with a point and at least one digit after it. -/
def Decimal.positional (d : Decimal) : List Char :=
  let digits := Nat.toDigits 10 d.digits
  if 0 ≤ d.exponent then digits ++ List.replicate d.exponent.toNat '0' ++ ['.', '0']
  else
    let places := (-d.exponent).toNat
    let padded := List.replicate (places + 1 - digits.length) '0' ++ digits
    let whole := padded.length - places
    padded.take whole ++ '.' :: padded.drop whole

end MemoryBridge

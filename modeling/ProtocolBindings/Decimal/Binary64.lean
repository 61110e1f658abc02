/-!
# Binary64 numbers

The numbers with 53 significant bits in which fractions and powers of ten are
held.  `Binary64.ofDecimal` reads a decimal: the nearest number, and of two
equally near ones the one with an even significand.
-/

namespace ProtocolBindings.Decimal

/-- A binary64 number.  A finite one is `significand * 2 ^ exponent` with the
least exponent that leaves the significand below `2 ^ 53`, but never an exponent
below -1074; zero has the exponent -1074. -/
inductive Binary64 where
  | finite (negative : Bool) (significand : Nat) (exponent : Int)
  | infinite (negative : Bool)
  | notANumber
deriving DecidableEq, Repr

namespace Binary64

/-- The zero of a sign. -/
def zero (negative : Bool) : Binary64 := .finite negative 0 (-1074)

/-- Whether a number equals zero, whatever its sign. -/
def isZero : Binary64 → Bool
  | .finite _ significand _ => significand == 0
  | _ => false

/-- The quotient to the nearest natural number, a half to the even neighbour. -/
def roundedQuotient (numerator denominator : Nat) : Nat :=
  let quotient := numerator / denominator
  let twice := 2 * (numerator % denominator)
  if twice < denominator then quotient
  else if denominator < twice then quotient + 1
  else quotient + quotient % 2

/-- The fraction `numerator / denominator` in units of `2 ^ exponent`. -/
def inUnits (numerator denominator : Nat) : Int → Nat × Nat
  | .ofNat exponent => (numerator, denominator * Nat.pow 2 exponent)
  | .negSucc exponent => (numerator * Nat.pow 2 (exponent + 1), denominator)

/-- The exponent at which a positive fraction has 53 bits before the point, or
the least exponent. -/
def unitExponent (numerator denominator : Nat) : Int :=
  let guess := max ((numerator.log2 : Int) - denominator.log2 - 53) (-1074)
  let (scaled, unit) := inUnits numerator denominator guess
  if Nat.pow 2 53 ≤ scaled / unit then guess + 1 else guess

/-- The number nearest to a positive fraction. -/
def ofRatio (negative : Bool) (numerator denominator : Nat) : Binary64 :=
  let exponent := unitExponent numerator denominator
  let (scaled, unit) := inUnits numerator denominator exponent
  let rounded := roundedQuotient scaled unit
  let (significand, exponent) :=
    if rounded = Nat.pow 2 53 then (Nat.pow 2 52, exponent + 1) else (rounded, exponent)
  if significand = 0 then zero negative
  else if 971 < exponent then .infinite negative
  else .finite negative significand exponent

/-- The number of decimal digits of a natural number, zero having one. -/
def digitCount (value : Nat) : Nat := (Nat.toDigits 10 value).length

/-- The number nearest to `coefficient * 10 ^ scale`.  Decimals far outside the
range are decided by their magnitude alone. -/
def ofDecimal (negative : Bool) (coefficient : Nat) (scale : Int) : Binary64 :=
  let magnitude := (digitCount coefficient : Int) + scale
  if coefficient = 0 then zero negative
  else if 400 < magnitude then .infinite negative
  else if magnitude < -400 then zero negative
  else match scale with
    | .ofNat power => ofRatio negative (coefficient * Nat.pow 10 power) 1
    | .negSucc power => ofRatio negative coefficient (Nat.pow 10 (power + 1))

end Binary64

end ProtocolBindings.Decimal

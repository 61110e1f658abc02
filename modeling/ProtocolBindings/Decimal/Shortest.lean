import ProtocolBindings.Decimal.Binary64

/-!
# Shortest decimals

The decimal written for a binary64 number is the one with the fewest digits
among those that are read back as it, and of these the nearest.  It is found on
the grids of one, two and up to seventeen digits: if a point of a grid is read
back, so is one of the two grid points around the number.
-/

namespace ProtocolBindings.Decimal

/-- A positive decimal, `coefficient * 10 ^ scale`. -/
structure ShortDecimal where
  coefficient : Nat
  scale : Int
deriving DecidableEq, Repr

namespace Binary64

/-- The positive numbers `value / unit` strictly between or, when `closed`, at
the bounds `low / unit` and `high / unit`: the fractions that are read as
`value / unit`. -/
structure ReadingInterval where
  low : Nat
  value : Nat
  high : Nat
  unit : Nat
  closed : Bool

/-- The fractions nearest to a positive number of this significand and exponent.
Below a power of two the neighbour is only half as far away. -/
def readingInterval (significand : Nat) (exponent : Int) : ReadingInterval :=
  let below := if significand = Nat.pow 2 52 ∧ -1074 < exponent then 1 else 2
  let (factor, unit) := match exponent with
    | .ofNat power => (Nat.pow 2 power, 4)
    | .negSucc power => (1, 4 * Nat.pow 2 (power + 1))
  { low := (4 * significand - below) * factor
    value := 4 * significand * factor
    high := (4 * significand + 2) * factor
    unit := unit
    closed := significand % 2 = 0 }

/-- Whether the fraction `numerator / denominator` lies in the interval. -/
def ReadingInterval.holds (interval : ReadingInterval)
    (numerator denominator : Nat) : Bool :=
  let point := numerator * interval.unit
  let low := interval.low * denominator
  let high := interval.high * denominator
  (low < point && point < high) || (interval.closed && (point == low || point == high))

/-- The least power of ten above a positive fraction. -/
def pointAbove (numerator denominator : Nat) : Int :=
  if denominator ≤ numerator then digitCount (numerator / denominator)
  else
    let places := (List.range 400).takeWhile fun place =>
      numerator * Nat.pow 10 (place + 1) < denominator
    Int.negOfNat places.length

/-- The fraction `numerator / denominator` on the grid of the multiples of
`10 ^ scale`, as a numerator and a denominator. -/
def onGrid (numerator denominator : Nat) : Int → Nat × Nat
  | .ofNat power => (numerator, denominator * Nat.pow 10 power)
  | .negSucc power => (numerator * Nat.pow 10 (power + 1), denominator)

/-- Whether a grid point is read back. -/
def ReadingInterval.readsBack (interval : ReadingInterval)
    (candidate : Nat) : Int → Bool
  | .ofNat power => interval.holds (candidate * Nat.pow 10 power) 1
  | .negSucc power => interval.holds candidate (Nat.pow 10 (power + 1))

/-- The grid point of a scale that is read back and nearest, if any. -/
def ReadingInterval.onScale (interval : ReadingInterval) (scale : Int) :
    Option ShortDecimal :=
  let (numerator, denominator) := onGrid interval.value interval.unit scale
  let below := numerator / denominator
  let nearest := roundedQuotient numerator denominator
  let other := if nearest = below then below + 1 else below
  if 0 < nearest && interval.readsBack nearest scale then some ⟨nearest, scale⟩
  else if 0 < other && interval.readsBack other scale then some ⟨other, scale⟩
  else none

/-- A decimal without the zeros at the end of its coefficient. -/
def withoutEndZeros : Nat → ShortDecimal → ShortDecimal
  | 0, decimal => decimal
  | fuel + 1, decimal =>
      if decimal.coefficient % 10 = 0 then
        withoutEndZeros fuel ⟨decimal.coefficient / 10, decimal.scale + 1⟩
      else decimal

/-- The shortest decimal of a positive number of this significand and exponent. -/
def shortest (significand : Nat) (exponent : Int) : ShortDecimal :=
  let interval := readingInterval significand exponent
  let point := pointAbove interval.value interval.unit
  let found := (List.range 17).findSome? fun digits =>
    interval.onScale (point - (digits + 1 : Nat))
  match found with
  | some decimal => withoutEndZeros 20 decimal
  | none => ⟨significand, exponent⟩

end Binary64

end ProtocolBindings.Decimal

import WalletTopUp.Decimal.Power

/-!
# Shortest digits of a double

The fewest decimal digits that read back as a given double precision number.  A finite positive
double is `m * 2 ^ q`; the reals that round to it form an interval, whose ends belong to it exactly
when `m` is even.  `shortest` goes through the decimal grids from coarse to fine and stops at the
first one with a point in the interval; of two such points it takes the nearer.
-/

namespace WalletTopUp

namespace Double

/-- A positive decimal number `digits * 10 ^ exponent`. -/
structure DecimalDigits where
  digits : Nat
  exponent : Int
deriving DecidableEq, Inhabited

/-- The reals that round to a positive double, scaled by a common denominator. -/
structure Interval where
  /-- Four times the numerator of the double. -/
  centre : Nat
  /-- Four times the numerator of the lower end. -/
  low : Nat
  /-- Four times the numerator of the upper end. -/
  high : Nat
  /-- Four times the denominator. -/
  unit : Nat
  /-- Whether the ends round to the double as well. -/
  closed : Bool

/-- The interval of `m * 2 ^ q`.  Below a power of two the neighbour is only half as far away. -/
def Interval.of (m : Nat) (q : Int) (powerOfTwo : Bool) : Interval :=
  let up := twoPow q.toNat
  { centre := 4 * m * up
    low := (4 * m - if powerOfTwo then 1 else 2) * up
    high := (4 * m + 2) * up
    unit := 4 * twoPow (-q).toNat
    closed := m % 2 == 0 }

/-- Whether `numerator / unit` rounds to the double. -/
def Interval.contains (interval : Interval) (numerator : Nat) : Bool :=
  if interval.closed then interval.low ≤ numerator && numerator ≤ interval.high
  else interval.low < numerator && numerator < interval.high

/-- The point of the grid of multiples of `10 ^ exponent` that lies in the interval, if there is
one, and of two the nearer. -/
def gridPoint? (interval : Interval) (exponent : Int) : Option Nat :=
  let shrink := tenPow (-exponent).toNat
  let step := tenPow exponent.toNat * interval.unit
  let scaled : Interval :=
    { interval with
      centre := interval.centre * shrink
      low := interval.low * shrink
      high := interval.high * shrink }
  let below := scaled.centre / step
  let lowFits := scaled.contains (below * step)
  let highFits := scaled.contains ((below + 1) * step)
  if lowFits && highFits then
    let lowGap := scaled.centre - below * step
    let highGap := (below + 1) * step - scaled.centre
    if lowGap < highGap then some below
    else if highGap < lowGap then some (below + 1)
    else some (if below % 2 == 0 then below else below + 1)
  else if lowFits then some below
  else if highFits then some (below + 1)
  else none

/-- Try grids from `exponent` downwards. -/
def searchGrids (interval : Interval) : Nat → Int → DecimalDigits
  | 0, exponent => ⟨interval.centre * tenPow (-exponent).toNat / interval.unit, exponent⟩
  | grids + 1, exponent =>
    match gridPoint? interval exponent with
    | some digits => ⟨digits, exponent⟩
    | none => searchGrids interval grids (exponent - 1)

/-- The fewest digits that read back as `m * 2 ^ q`. -/
def shortestOf (m : Nat) (q : Int) (powerOfTwo : Bool) : DecimalDigits :=
  let interval := Interval.of m q powerOfTwo
  let places := (Nat.toDigits 10 (interval.centre / interval.unit)).length
  searchGrids interval (places + 330) places

/-- The fraction field of a double. -/
def fractionField (bits : UInt64) : Nat := bits.toNat % twoPow 52

/-- The exponent field of a double. -/
def exponentField (bits : UInt64) : Nat := bits.toNat / twoPow 52 % twoPow 11

/-- Whether the sign bit of a double is set. -/
def isNegative (bits : UInt64) : Bool := twoPow 63 ≤ bits.toNat

/-- The fewest digits that read back as the magnitude of a finite double, `none` for zero. -/
def shortest? (bits : UInt64) : Option DecimalDigits :=
  let fraction := fractionField bits
  match exponentField bits with
  | 0 => if fraction == 0 then none else some (shortestOf fraction (-1074) false)
  | exponent + 1 =>
    some (shortestOf (fraction + twoPow 52) ((exponent : Int) - 1074) (fraction == 0 && exponent != 0))

/-- The digits without trailing zeros. -/
def trimZeros : Nat → DecimalDigits → DecimalDigits
  | 0, value => value
  | places + 1, value =>
    if value.digits != 0 && value.digits % 10 == 0 then
      trimZeros places ⟨value.digits / 10, value.exponent + 1⟩
    else value

/-- The text of a magnitude without a power of ten. -/
def DecimalDigits.positional (value : DecimalDigits) : List Char :=
  let digits := Nat.toDigits 10 value.digits
  if 0 ≤ value.exponent then digits ++ List.replicate value.exponent.toNat '0'
  else
    let places := (-value.exponent).toNat
    let padded := List.replicate (places + 1 - digits.length) '0' ++ digits
    padded.take (padded.length - places) ++ '.' :: padded.drop (padded.length - places)

/-- The text of a finite double without a power of ten: `0.0000001`, `18446744073709552000`. -/
def positionalText (bits : UInt64) : List Char :=
  let magnitude := match shortest? bits with
    | none => ['0']
    | some value => (trimZeros 20 value).positional
  if isNegative bits then '-' :: magnitude else magnitude

end Double

end WalletTopUp

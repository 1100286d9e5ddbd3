import WalletTopUp.Json.Value

/-!
# Number literals

What a JSON number literal stands for.  An integer literal that fits 64 bits is exact.  Every other
literal is a double, computed from its leading digits as a 64 bit significand and a power of ten;
a literal beyond the range of a double stands for nothing.
-/

namespace WalletTopUp

namespace Json

/-- A number literal, split into its parts. -/
structure Literal where
  negative : Bool := false
  /-- Digits before the point. -/
  whole : List Char
  /-- Digits behind the point, `none` without a point. -/
  fraction : Option (List Char) := none
  /-- Sign (whether it is a minus) and digits of the power of ten. -/
  exponent : Option (Bool × List Char) := none
deriving DecidableEq, Inhabited

namespace Literal

/-- The value of a digit character. -/
def digit (c : Char) : Nat := c.toNat - '0'.toNat

/-- The leading digits as far as they fit 64 bits, and how many digits are left over. -/
def significand (start : Nat) : List Char → Nat × Nat
  | [] => (start, 0)
  | c :: rest =>
    let grown := start * 10 + digit c
    if grown < twoPow 64 then significand grown rest else (start, rest.length + 1)

/-- The value of a run of digits. -/
def digitsValue (digits : List Char) : Nat :=
  digits.foldl (fun sum c => sum * 10 + digit c) 0

/-- `significand * 10 ^ exponent` in double precision, `none` beyond the largest double.  Powers of
ten that are no doubles are taken in steps of 308. -/
def scaleByTen : Nat → Float → Int → Option Float
  | 0, value, _ => some value
  | steps + 1, value, exponent =>
    if exponent.natAbs ≤ 308 then
      let power := Float.ofScientific 1 false exponent.natAbs
      if 0 ≤ exponent then
        let product := value * power
        if product.isInf then none else some product
      else some (value / power)
    else if value == 0.0 then some value
    else if 0 ≤ exponent then none
    else scaleByTen steps (value / Float.ofScientific 1 false 308) (exponent + 308)

/-- The double of a significand below `2 ^ 64` and a power of ten. -/
def doubleOfParts (negative : Bool) (significand : Nat) (exponent : Int) : Option Number :=
  match scaleByTen 8 significand.toUInt64.toFloat exponent with
  | none => none
  | some magnitude => some (.double (if negative then -magnitude else magnitude).toBits)

/-- The double of a literal whose digits give a significand and a power of ten. -/
def applyExponent (literal : Literal) (significand : Nat) (start : Int) : Option Number :=
  match literal.exponent with
  | none => doubleOfParts literal.negative significand start
  | some (minus, digits) =>
    let size := digitsValue digits
    if twoPow 31 ≤ size then
      if significand != 0 && !minus then none
      else some (.double (if literal.negative then -0.0 else 0.0 : Float).toBits)
    else doubleOfParts literal.negative significand (if minus then start - size else start + size)

/-- What the literal stands for. -/
def value? (literal : Literal) : Option Number :=
  let (whole, left) := significand 0 literal.whole
  match literal.fraction with
  | some digits =>
    let (full, leftOut) := significand whole digits
    literal.applyExponent full ((left : Int) - (digits.length - leftOut : Nat))
  | none =>
    if literal.exponent.isSome || left != 0 then literal.applyExponent whole left
    else if !literal.negative then some (.integer whole)
    else if whole == 0 || twoPow 63 < whole then
      doubleOfParts true whole 0
    else some (.integer (-(whole : Int)))

end Literal

end Json

end WalletTopUp

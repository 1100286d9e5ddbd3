/-!
# Names in ASCII

The letters of a host name beyond ASCII are written with ASCII letters and digits: first the ASCII
characters of the label, then the places and distances of the others.
-/

namespace WalletTopUp

namespace Punycode

/-- A digit of base 36. -/
def digit (n : Nat) : Char :=
  if n < 26 then Char.ofNat (0x61 + n) else Char.ofNat (0x30 + n - 26)

/-- Divide by 35 as often as the number is above 455: what is left, and 36 for each division. -/
def shrink (delta count : Nat) : Nat × Nat :=
  if 455 < delta then shrink (delta / 35) (count + 36) else (delta, count)
termination_by delta
decreasing_by exact Nat.div_lt_self (by omega) (by omega)

/-- The bias after a distance. -/
def adapt (delta points : Nat) (first : Bool) : Nat :=
  let start := if first then delta / 700 else delta / 2
  let (left, count) := shrink (start + start / points) 0
  count + 36 * left / (left + 38)

/-- The threshold of a digit's place. -/
def threshold (place bias : Nat) : Nat := max 1 (min 26 (place - bias))

/-- A distance in digits of varying weight, from a place on. -/
def number (bias place value : Nat) : List Char :=
  let t := threshold place bias
  if value < t then [digit value]
  else digit (t + (value - t) % (36 - t)) :: number bias (place + 36) ((value - t) / (36 - t))
termination_by value
decreasing_by
  have ht : 1 ≤ threshold place bias := by unfold threshold; omega
  have hu : threshold place bias ≤ 26 := by unfold threshold; omega
  have : (value - threshold place bias) / (36 - threshold place bias)
      ≤ value - threshold place bias := Nat.div_le_self _ _
  omega

/-- How far the label has been written. -/
structure State where
  /-- The distance since the last character that was written. -/
  delta : Nat := 0
  bias : Nat := 72
  /-- How many characters have been written. -/
  written : Nat
  first : Bool := true
  output : List Char := []

/-- Go over the label once and write every occurrence of a code point. -/
def writeAll (code : Nat) (label : List Char) (state : State) : State :=
  label.foldl (fun state c =>
    if c.toNat < code then { state with delta := state.delta + 1 }
    else if c.toNat = code then
      { delta := 0
        bias := adapt state.delta (state.written + 1) state.first
        written := state.written + 1
        first := false
        output := state.output ++ number state.bias 36 state.delta }
    else state) state

/-- Go from one code point of the label to the next. -/
def writeCodes (label : List Char) : Nat → List Nat → State → State
  | _, [], state => state
  | reached, code :: codes, state =>
    let moved := { state with delta := state.delta + (code - reached) * (state.written + 1) }
    let later := writeAll code label moved
    writeCodes label (code + 1) codes { later with delta := later.delta + 1 }

/-- A label with characters beyond ASCII in ASCII. -/
def encode (label : List Char) : List Char :=
  let basic := label.filter fun c => c.toNat < 0x80
  let codes := ((label.map Char.toNat).filter fun code => 0x80 ≤ code).mergeSort.eraseDups
  let start := if basic.isEmpty then [] else basic ++ ['-']
  start ++ (writeCodes label 0x80 codes { written := basic.length }).output

end Punycode

end WalletTopUp

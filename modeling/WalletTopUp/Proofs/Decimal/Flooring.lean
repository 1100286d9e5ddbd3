import Mathlib.Data.Rat.Floor
import Mathlib.Order.Bounds.Basic
import WalletTopUp.Decimal.Rounding
import WalletTopUp.Proofs.Decimal.Number

/-!
# Rounding down is exact

A decimal that is rounded down to some places denotes the largest number with so many places that is
not above the decimal, also below zero, and is written with as many of these places as the mantissa
has room for (`Decimal.isFloor_floorToScale`).  There is one decimal only of which this is true
(`Decimal.IsFloor.unique`), so rounding down to fewer places can be done in two steps.
-/

namespace WalletTopUp

namespace Decimal

variable {value first second : Decimal}

/-! ## Dropping digits -/

/-- Digits are dropped from the signed mantissa by dividing it, with the quotient rounded down. -/
theorem signedMantissa_roundDown {scale : Nat} (fewer : scale < value.scale) :
    (value.roundDown scale).signedMantissa
      = value.signedMantissa / (tenPow (value.scale - scale) : Int) := by
  have unit : 0 < tenPow (value.scale - scale) := tenPow_pos _
  unfold roundDown
  rw [dif_pos fewer]
  refine (signedMantissa_ofParts _ _ _ _ _).trans ?_
  unfold signedMantissa
  cases value.negative with
  | false => simp
  | true =>
      simp only [Bool.true_and, bne_iff_ne, ne_eq, if_true, Int.neg_ediv, Int.natCast_dvd_natCast,
        Nat.dvd_iff_mod_eq_zero, Int.sign_natCast_of_ne_zero (Nat.ne_of_gt unit)]
      by_cases exact : value.mantissa % tenPow (value.scale - scale) = 0
      · simp [exact]
      · simp only [exact, not_false_eq_true, if_true, if_false]
        push_cast
        omega

theorem scale_roundDown (value : Decimal) (scale : Nat) :
    (value.roundDown scale).scale = min value.scale scale := by
  unfold roundDown
  split
  · next fewer => exact (Nat.min_eq_right (Nat.le_of_lt fewer)).symm
  · next enough => exact (Nat.min_eq_left (Nat.not_lt.mp enough)).symm

/-- **Rounding down is flooring at a decimal place.** -/
theorem toRat_roundDown (value : Decimal) (scale : Nat) :
    (value.roundDown scale).toRat = ⌊value.toRat * 10 ^ scale⌋ / 10 ^ scale := by
  by_cases fewer : scale < value.scale
  · have parts : (10 : ℚ) ^ value.scale
        = (tenPow (value.scale - scale) : Nat) * 10 ^ scale := by
      rw [cast_tenPow, ← pow_add, Nat.sub_add_cancel (Nat.le_of_lt fewer)]
    have shifted : value.toRat * 10 ^ scale
        = (value.signedMantissa : ℚ) / (tenPow (value.scale - scale) : Nat) := by
      rw [toRat, parts, ← div_div, div_mul_cancel₀ _ (by positivity)]
    rw [shifted, Rat.floor_intCast_div_natCast, toRat, signedMantissa_roundDown fewer,
      scale_roundDown, Nat.min_eq_right (Nat.le_of_lt fewer)]
  · have kept : value.roundDown scale = value := dif_neg fewer
    have whole : value.toRat * 10 ^ scale
        = (value.signedMantissa * (10 : Int) ^ (scale - value.scale) : Int) := by
      push_cast
      rw [toRat, ← Nat.sub_add_cancel (Nat.not_lt.mp fewer), pow_add, Nat.add_sub_cancel]
      field_simp
    rw [kept, whole, Int.floor_intCast, ← whole, mul_div_cancel_right₀ _ (by positivity)]

/-! ## Appending zeros -/

/-- Parts that make a decimal fit it, and the decimal has their scale, mantissa and sign. -/
theorem ofParts?_eq_some {negative : Bool} {mantissa scale : Nat}
    (made : ofParts? negative mantissa scale = some value) :
    mantissa < mantissaLimit ∧ scale ≤ maxScale ∧ value.scale = scale
      ∧ value.mantissa = mantissa
      ∧ value.signedMantissa = if negative then -(mantissa : Int) else mantissa := by
  unfold ofParts? at made
  split at made
  · next fits =>
      cases made
      exact ⟨fits.1, fits.2, rfl, rfl, signedMantissa_ofParts _ _ _ _ _⟩
  · cases made

/-- Padding with zeros keeps the number. -/
theorem toRat_padZeros (wanted : Nat) (value : Decimal) :
    (padZeros wanted value).toRat = value.toRat := by
  induction wanted generalizing value with
  | zero => rfl
  | succ wanted ih =>
      rw [padZeros]
      split
      · rfl
      · next longer made =>
          obtain ⟨_, _, places, _, digits⟩ := ofParts?_eq_some made
          have tenfold : longer.signedMantissa = value.signedMantissa * 10 := by
            rw [digits, signedMantissa]
            split <;> push_cast <;> ring
          rw [ih, toRat, toRat, tenfold, places, pow_succ]
          push_cast
          field_simp

/-- Padding adds places, and no more than were wanted. -/
theorem le_scale_padZeros (wanted : Nat) (value : Decimal) :
    value.scale ≤ (padZeros wanted value).scale
      ∧ (padZeros wanted value).scale ≤ value.scale + wanted := by
  induction wanted generalizing value with
  | zero => exact ⟨Nat.le_refl _, Nat.le_refl _⟩
  | succ wanted ih =>
      rw [padZeros]
      split
      · exact ⟨Nat.le_refl _, Nat.le_add_right _ _⟩
      · next longer made =>
          obtain ⟨_, _, places, _⟩ := ofParts?_eq_some made
          have := ih longer
          omega

/-- Zeros are missing only where the mantissa has no room for one more. -/
theorem limit_le_of_scale_padZeros {wanted : Nat} {value : Decimal}
    (within : value.scale + wanted ≤ maxScale)
    (missing : (padZeros wanted value).scale < value.scale + wanted) :
    mantissaLimit ≤ (padZeros wanted value).mantissa * 10 := by
  induction wanted generalizing value with
  | zero => exact absurd missing (Nat.lt_irrefl _)
  | succ wanted ih =>
      rw [padZeros] at missing ⊢
      split at missing
      · next full =>
          by_contra room
          have fits : value.mantissa * 10 < twoPow 96 ∧ value.scale + 1 ≤ 28 :=
            ⟨Nat.not_le.mp room, Nat.le_trans (Nat.add_le_add_left (Nat.le_add_left 1 wanted) _)
              within⟩
          rw [ofParts?, dif_pos fits] at full
          cases full
      · next longer made =>
          obtain ⟨_, _, places, _⟩ := ofParts?_eq_some made
          apply ih <;> omega

/-! ## Rounding down to a scale -/

/-- The mantissa has room for a number with so many digits behind the point. -/
def HasRoom (number : ℚ) (places : Nat) : Prop := |number| * 10 ^ places < 2 ^ 96

/-- A decimal is another one rounded toward negative infinity to some places, written with as many
of these places as there is room for. -/
structure IsFloor (value : Decimal) (places : Nat) (result : Decimal) : Prop where
  number : result.toRat = ⌊value.toRat * 10 ^ places⌋ / 10 ^ places
  scale : IsGreatest {count | count ≤ places ∧ HasRoom result.toRat count} result.scale

/-- A decimal has room for its own number at its own scale. -/
theorem hasRoom_scale (value : Decimal) : HasRoom value.toRat value.scale := by
  rw [HasRoom, abs_toRat_mul]
  exact_mod_cast value.mantissa_lt

/-- There is no room for one more place than a decimal has if its mantissa is full. -/
theorem scale_le_of_full {count : Nat} (full : mantissaLimit ≤ value.mantissa * 10)
    (room : HasRoom value.toRat count) : count ≤ value.scale := by
  by_contra more
  have larger : |value.toRat| * 10 ^ (value.scale + 1) ≤ |value.toRat| * 10 ^ count :=
    mul_le_mul_of_nonneg_left (pow_le_pow_right₀ (by norm_num) (Nat.not_le.mp more))
      (abs_nonneg _)
  have limit : ((2 ^ 96 : Nat) : ℚ) ≤ (value.mantissa * 10 : Nat) := Nat.cast_le.mpr full
  rw [pow_succ, ← mul_assoc, abs_toRat_mul] at larger
  push_cast at limit
  exact absurd (lt_of_le_of_lt (limit.trans larger) room) (lt_irrefl _)

/-- Flooring to a scale gives the floor, at twenty-eight places if more were asked for. -/
theorem isFloor_floorToScale (value : Decimal) (scale : Nat) :
    value.IsFloor (min scale maxScale) (value.floorToScale scale) := by
  have cap : min scale maxScale ≤ maxScale := Nat.min_le_right _ _
  have steps : value.floorToScale scale
      = padZeros (min scale maxScale - (value.roundDown (min scale maxScale)).scale)
          (value.roundDown (min scale maxScale)) := rfl
  rw [steps]
  generalize min scale maxScale = places at cap ⊢
  have low := scale_roundDown value places
  have number := toRat_roundDown value places
  generalize value.roundDown places = rounded at low number ⊢
  have between := le_scale_padZeros (places - rounded.scale) rounded
  have kept := toRat_padZeros (places - rounded.scale) rounded
  refine ⟨kept.trans number, ⟨?_, ?_⟩⟩
  · exact ⟨by omega, hasRoom_scale _⟩
  · intro count ⟨wanted, room⟩
    by_cases all : (padZeros (places - rounded.scale) rounded).scale = places
    · exact all.symm ▸ wanted
    · exact scale_le_of_full (limit_le_of_scale_padZeros (by omega) (by omega)) room

/-- **There is one way to round a decimal down.** -/
theorem IsFloor.unique {places : Nat} (left : value.IsFloor places first)
    (right : value.IsFloor places second) : first = second := by
  have same : first.toRat = second.toRat := left.number.trans right.number.symm
  have greatest := left.scale
  rw [same] at greatest
  exact eq_of_toRat_eq same (greatest.unique right.scale)

/-- A number that has been floored at a finer place is floored at a coarser one as before. -/
theorem floor_floor_div {number : ℚ} {coarse fine : Nat} (finer : coarse ≤ fine) :
    ⌊(⌊number * 10 ^ fine⌋ / 10 ^ fine : ℚ) * 10 ^ coarse⌋ = ⌊number * 10 ^ coarse⌋ := by
  have parts : (10 : ℚ) ^ fine = 10 ^ (fine - coarse) * 10 ^ coarse := by
    rw [← pow_add, Nat.sub_add_cancel finer]
  have shifted : (⌊number * 10 ^ fine⌋ / 10 ^ fine : ℚ) * 10 ^ coarse
      = ⌊number * 10 ^ fine⌋ / 10 ^ (fine - coarse) := by
    rw [parts, ← div_div, div_mul_cancel₀ _ (by positivity)]
  rw [shifted]
  apply eq_of_forall_le_iff
  intro bound
  have whole : (bound : ℚ) * 10 ^ (fine - coarse)
      = (bound * (10 : Int) ^ (fine - coarse) : Int) := by
    push_cast
    rfl
  rw [Int.le_floor, Int.le_floor, le_div_iff₀ (by positivity), whole, Int.cast_le, Int.le_floor,
    ← whole, parts, mul_comm (10 ^ (fine - coarse) : ℚ), ← mul_assoc,
    mul_le_mul_iff_left₀ (by positivity)]

/-- Rounding down in two steps is rounding down at once. -/
theorem IsFloor.of_finer {coarse fine : Nat} {rounded : Decimal} (finer : coarse ≤ fine)
    (left : value.IsFloor fine rounded) (right : rounded.IsFloor coarse second) :
    value.IsFloor coarse second where
  number := by rw [right.number, left.number, floor_floor_div finer]
  scale := right.scale

/-- A decimal that is rounded down after another rounding to at least as many places is the same. -/
theorem floorToScale_floorToScale (value : Decimal) {scale finer : Nat} (more : scale ≤ finer) :
    (value.floorToScale finer).floorToScale scale = value.floorToScale scale := by
  have cap : min scale maxScale ≤ min finer maxScale := min_le_min_right _ more
  exact (IsFloor.of_finer cap (isFloor_floorToScale value finer)
    (isFloor_floorToScale _ scale)).unique (isFloor_floorToScale value scale)

theorem IsFloor.le {places : Nat} (floor : value.IsFloor places first) :
    first.toRat ≤ value.toRat := by
  rw [floor.number, div_le_iff₀ (by positivity)]
  exact Int.floor_le _

/-- A floor is less than one unit of its last place below the number. -/
theorem IsFloor.lt_add {places : Nat} (floor : value.IsFloor places first) :
    value.toRat < first.toRat + 1 / 10 ^ places := by
  rw [floor.number, ← add_div, lt_div_iff₀ (by positivity)]
  exact Int.lt_floor_add_one _

/-- Of two numbers the lower has the lower floor. -/
theorem IsFloor.mono {places : Nat} {other result : Decimal} (below : value.toRat ≤ other.toRat)
    (left : value.IsFloor places first) (right : other.IsFloor places result) :
    first.toRat ≤ result.toRat := by
  rw [left.number, right.number]
  have shifted : value.toRat * 10 ^ places ≤ other.toRat * 10 ^ places :=
    mul_le_mul_of_nonneg_right below (by positivity)
  have floors : (⌊value.toRat * 10 ^ places⌋ : ℚ) ≤ ⌊other.toRat * 10 ^ places⌋ :=
    Int.cast_le.mpr (Int.floor_le_floor shifted)
  exact div_le_div_of_nonneg_right floors (by positivity)

/-- All places are there exactly if there is room for them. -/
theorem IsFloor.scale_eq_iff {places : Nat} (floor : value.IsFloor places first) :
    first.scale = places ↔ HasRoom first.toRat places := by
  constructor
  · intro all
    exact all ▸ floor.scale.1.2
  · intro room
    exact Nat.le_antisymm floor.scale.1.1 (floor.scale.2 ⟨Nat.le_refl _, room⟩)

/-- **Rounding down is exact.**  It gives the number floored at the last place, also below zero,
with as many of the places as the mantissa has room for; it never goes up and never down by a whole
unit of the last place; it keeps the order of numbers; and rounding down once more to fewer places
gives the same decimal as rounding down to these at once. -/
theorem floorToScale_exact (value : Decimal) (scale : Nat) :
    value.IsFloor (min scale maxScale) (value.floorToScale scale)
      ∧ ((value.floorToScale scale).scale = min scale maxScale
          ↔ HasRoom (value.floorToScale scale).toRat (min scale maxScale))
      ∧ (value.floorToScale scale).toRat ≤ value.toRat
      ∧ value.toRat < (value.floorToScale scale).toRat + 1 / 10 ^ min scale maxScale
      ∧ (∀ other : Decimal, value.toRat ≤ other.toRat →
          (value.floorToScale scale).toRat ≤ (other.floorToScale scale).toRat)
      ∧ ∀ coarse ≤ scale,
          (value.floorToScale scale).floorToScale coarse = value.floorToScale coarse := by
  have floor := isFloor_floorToScale value scale
  refine ⟨floor, floor.scale_eq_iff, floor.le, floor.lt_add, ?_, ?_⟩
  · intro other below
    exact floor.mono below (isFloor_floorToScale other scale)
  · intro coarse fewer
    exact floorToScale_floorToScale value fewer

/-- The lowest decimal with one place has no room for a third one; without places it is one unit
further down than its digits. -/
theorem floorToScale_exact_of_full :
    ∃ lowest, ofParts? true (mantissaLimit - 1) 1 = some lowest
      ∧ (lowest.floorToScale 3).scale = 1
      ∧ (lowest.floorToScale 0).signedMantissa = -7922816251426433759354395034
      ∧ (lowest.floorToScale 3).toRat ≤ (zero.floorToScale 3).toRat
      ∧ (lowest.floorToScale 3).floorToScale 0 = lowest.floorToScale 0 := by
  have shown : ∃ lowest, ofParts? true (mantissaLimit - 1) 1 = some lowest
      ∧ (lowest.floorToScale 3).scale = 1
      ∧ (lowest.floorToScale 0).signedMantissa = -7922816251426433759354395034
      ∧ lowest.le zero = true := by
    refine ⟨ofParts true (mantissaLimit - 1) 1 (by decide) (by decide), ?_⟩
    decide +kernel
  obtain ⟨lowest, made, places, digits, below⟩ := shown
  obtain ⟨_, _, _, _, monotone, steps⟩ := floorToScale_exact lowest 3
  exact ⟨lowest, made, places, digits, monotone zero (le_iff_toRat.mp below),
    steps 0 (Nat.zero_le 3)⟩

end Decimal

end WalletTopUp

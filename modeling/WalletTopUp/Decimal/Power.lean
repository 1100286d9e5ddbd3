/-!
# Powers of ten and of two
-/

namespace WalletTopUp

/-- What a digit counts that has so many places behind it: `10 ^ places`. -/
def tenPow (places : Nat) : Nat := Nat.pow 10 places

/-- How many numbers fit so many bits: `2 ^ bits`. -/
def twoPow (bits : Nat) : Nat := Nat.pow 2 bits

@[simp] theorem tenPow_zero : tenPow 0 = 1 := rfl

@[simp] theorem twoPow_zero : twoPow 0 = 1 := rfl

/-- One more place is ten times as much. -/
theorem tenPow_succ (places : Nat) : tenPow (places + 1) = tenPow places * 10 := rfl

/-- One more bit is twice as much. -/
theorem twoPow_succ (bits : Nat) : twoPow (bits + 1) = twoPow bits * 2 := rfl

theorem tenPow_pos (places : Nat) : 0 < tenPow places := by
  induction places with
  | zero => exact Nat.one_pos
  | succ places ih =>
    rw [tenPow_succ]
    omega

/-- A power of ten with a place is at least ten. -/
theorem ten_le_tenPow {places : Nat} (h : 0 < places) : 10 ≤ tenPow places := by
  cases places with
  | zero => exact absurd h (Nat.lt_irrefl 0)
  | succ places =>
    have := tenPow_pos places
    rw [tenPow_succ]
    omega

theorem twoPow_pos (bits : Nat) : 0 < twoPow bits := by
  induction bits with
  | zero => exact Nat.one_pos
  | succ bits ih =>
    rw [twoPow_succ]
    omega

end WalletTopUp

import Mathlib.Data.Int.Log
import Mathlib.Data.Rat.Floor
import Mathlib.Tactic.Positivity

/-!
# Numbers as 64-bit floating point numbers

A `float64` has 53 significant binary digits.  Numbers are rounded to the nearest one; there is no
limit to the exponent here.
-/

namespace Lib.Float64

/-- Binary digits of the number that the significand has no room for. -/
def excess (value : Nat) : Nat := value.log2 - 52

/-- `float64(value)`: the nearest number with 53 significant binary digits, of two equally
near ones the even one. -/
def ofNat (value : Nat) : Nat :=
  let unit := 2 ^ excess value
  let low := value / unit
  let rest := value % unit
  if unit < 2 * rest ∨ unit = 2 * rest ∧ low % 2 = 1 then (low + 1) * unit
  else low * unit

/-- The `float64` nearest to a number that is not negative, of two equally near ones the even
one. -/
def nearest (value : ℚ) : ℚ :=
  let unit : ℚ := 2 ^ (Int.log 2 value - 52)
  let low := ⌊value / unit⌋
  let rest := value / unit - low
  if 1 / 2 < rest ∨ rest = 1 / 2 ∧ low % 2 = 1 then (low + 1) * unit else low * unit

theorem ofNat_pos {value : Nat} (positive : 0 < value) : 0 < ofNat value := by
  have nonzero : value ≠ 0 := by omega
  have unit : 2 ^ excess value ≤ value := by
    calc 2 ^ excess value ≤ 2 ^ value.log2 := Nat.pow_le_pow_right Nat.two_pos (Nat.sub_le _ _)
      _ ≤ value := Nat.log2_self_le nonzero
  have low : 0 < value / 2 ^ excess value := Nat.div_pos unit (Nat.two_pow_pos _)
  simp only [ofNat]
  split <;> positivity

end Lib.Float64

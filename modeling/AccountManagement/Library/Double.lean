/-
**Natural numbers as doubles.**

The conversion of a natural number to a 64-bit floating-point number: the nearest one, and in a tie
the one with an even significand. A double of that size is a natural number again.

* `nearestDouble_of_le`: numbers up to `2 ^ 53` are kept.
* `nearestDouble_near`: below `2 ^ (53 + k)` the result is off by at most half of `2 ^ k`.
-/

import Mathlib.Tactic.Ring

namespace AccountManagement.Library

/-- The double nearest to a natural number, the one with an even significand in a tie. -/
def nearestDouble (value : Nat) : Nat :=
  if value ≤ 2 ^ 53 then value
  else
    let unit := 2 ^ (value.log2 - 52)
    let below := value / unit * unit
    if 2 * (value % unit) < unit ∨ (2 * (value % unit) = unit ∧ value / unit % 2 = 0) then below
    else below + unit

theorem nearestDouble_of_le {value : Nat} (small : value ≤ 2 ^ 53) : nearestDouble value = value :=
  if_pos small

example : nearestDouble (2 ^ 53 + 1) = 2 ^ 53 ∧ nearestDouble (2 ^ 53 + 3) = 2 ^ 53 + 4 := by decide

/-- The doubles around a number are not further apart than the power of two says. -/
theorem unit_le {value k : Nat} (small : value < 2 ^ (53 + k)) :
    2 ^ (value.log2 - 52) ≤ 2 ^ k := by
  refine Nat.pow_le_pow_right (by decide) ?_
  by_cases zero : value = 0
  · simp [zero]
  · have bits := (Nat.log2_lt zero).mpr small
    omega

/-- **The error of the conversion.** -/
theorem nearestDouble_near {value k : Nat} (small : value < 2 ^ (53 + k)) :
    2 * value ≤ 2 * nearestDouble value + 2 ^ k ∧
      2 * nearestDouble value ≤ 2 * value + 2 ^ k := by
  have apart := unit_le small
  have positive : 0 < 2 ^ (value.log2 - 52) := Nat.two_pow_pos _
  have parts := Nat.div_add_mod' value (2 ^ (value.log2 - 52))
  have rest := Nat.mod_lt value positive
  unfold nearestDouble
  split
  · omega
  · dsimp only
    split
    -- Rounding down loses the remainder, rounding up adds what the remainder leaves of the unit.
    · omega
    · omega

end AccountManagement.Library

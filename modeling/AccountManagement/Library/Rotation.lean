/-
**Rotation by a counter that wraps.**

A counter of a fixed width picks where a cyclic scan of `n` places begins: the `i`-th place of the
scan is `(start + i) mod modulus mod n`. Without the wrap this is a rotation of the places. With it,
the scan visits every place once exactly if the counter does not wrap within the scan, or the wrap is
invisible because `n` divides the modulus (`wrapped_bijective_iff`).
-/

import Mathlib.Data.Fintype.EquivFin
import Mathlib.Data.Nat.ModEq

namespace AccountManagement.Library.Rotation

variable {n modulus start : Nat}

/-- The `i`-th place of a scan that begins at `start`. -/
def wrapped (modulus start : Nat) (i : Fin n) : Fin n :=
  ⟨(start + i) % modulus % n, Nat.mod_lt _ i.pos⟩

theorem wrapped_val (i : Fin n) : (wrapped modulus start i).val = (start + i) % modulus % n := rfl

/-- Places that are as far apart as a scan is long differ. -/
theorem eq_of_add_mod_eq {i j : Fin n} (same : (start + i) % n = (start + j) % n) : i = j := by
  have congruent : (i : Nat) ≡ j [MOD n] := Nat.ModEq.add_left_cancel' start same
  exact Fin.ext (congruent.eq_of_lt_of_lt i.isLt j.isLt)

theorem wrapped_injective_of_le (fits : start + n ≤ modulus) :
    Function.Injective (wrapped modulus start : Fin n → Fin n) := by
  intro i j same
  have values := congrArg Fin.val same
  rw [wrapped_val, wrapped_val, Nat.mod_eq_of_lt (a := start + i) (by omega),
    Nat.mod_eq_of_lt (a := start + j) (by omega)] at values
  exact eq_of_add_mod_eq values

theorem wrapped_injective_of_dvd (divides : n ∣ modulus) :
    Function.Injective (wrapped modulus start : Fin n → Fin n) := by
  intro i j same
  have values := congrArg Fin.val same
  rw [wrapped_val, wrapped_val, Nat.mod_mod_of_dvd _ divides, Nat.mod_mod_of_dvd _ divides] at values
  exact eq_of_add_mod_eq values

/-- A counter that wraps within the scan comes to a place a second time: to the place of the wrap, if
the scan begins far enough before it, and otherwise to the place it began with. -/
theorem wrapped_collision (below : start < modulus) (wraps : modulus < start + n)
    (visible : ¬ n ∣ modulus) :
    ∃ i j : Fin n, i ≠ j ∧ wrapped modulus start i = wrapped modulus start j := by
  have rest : modulus % n ≠ 0 := fun whole => visible (Nat.dvd_of_mod_eq_zero whole)
  have small : modulus % n < n := Nat.mod_lt _ (by omega)
  have parts := Nat.div_add_mod modulus n
  obtain far | near := Nat.le_total (modulus % n) (modulus - start)
  · refine ⟨⟨modulus - start - modulus % n, by omega⟩, ⟨modulus - start, by omega⟩,
      fun same => ?_, Fin.ext ?_⟩
    · have := congrArg Fin.val same
      simp only at this
      omega
    · have first : start + (modulus - start - modulus % n) = n * (modulus / n) := by omega
      have second : start + (modulus - start) = modulus := by omega
      rw [wrapped_val, wrapped_val, first, second, Nat.mod_self, Nat.zero_mod,
        Nat.mod_eq_of_lt (a := n * (modulus / n)) (by omega), Nat.mul_mod_right]
  · refine ⟨⟨0, by omega⟩, ⟨modulus % n, small⟩, fun same => ?_, Fin.ext ?_⟩
    · exact rest (congrArg Fin.val same).symm
    · have back : start = modulus % n - (modulus - start) + n * (modulus / n) := by omega
      have again : (start + modulus % n) % modulus = modulus % n - (modulus - start) := by
        rw [Nat.mod_eq_sub_mod (by omega), Nat.mod_eq_of_lt (by omega)]
        omega
      rw [wrapped_val, wrapped_val, again, Nat.add_zero, Nat.mod_eq_of_lt below]
      conv_lhs => rw [back]
      rw [Nat.add_mul_mod_self_left]

/-- **Exact rotation.** A scan visits every place once exactly if the counter does not wrap within
it, or its modulus is a multiple of the number of places. -/
theorem wrapped_bijective_iff (below : start < modulus) :
    Function.Bijective (wrapped modulus start : Fin n → Fin n) ↔
      start + n ≤ modulus ∨ n ∣ modulus := by
  constructor
  · intro bijective
    by_contra neither
    rw [not_or, Nat.not_le] at neither
    obtain ⟨i, j, differ, same⟩ := wrapped_collision below neither.1 neither.2
    exact differ (bijective.injective same)
  · rintro (fits | divides)
    · exact Finite.injective_iff_bijective.mp (wrapped_injective_of_le fits)
    · exact Finite.injective_iff_bijective.mp (wrapped_injective_of_dvd divides)

end AccountManagement.Library.Rotation

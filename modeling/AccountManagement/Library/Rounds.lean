/-
**The rounds of a crew.**

Items wait in a line and the members of a crew take them one at a time. If fewer than `waiting` items
have been taken since some moment, then some member has taken fewer than its share, the waiting
items divided by the size of the crew and rounded up (`exists_lt_share`). `total_advance` is the
count after a member has taken more items, `total_congr` says that it depends on the keys only.
-/

import Mathlib.Algebra.Order.BigOperators.Group.List
import Mathlib.Algebra.Order.Ring.Nat
import AccountManagement.Library.Keyed

namespace AccountManagement.Library.Rounds

variable {α κ : Type*} {key : α → κ} {crew : List α}

/-- What the whole crew has taken, when `rounds` says what the member under a key has. -/
def total (key : α → κ) (rounds : κ → Nat) (crew : List α) : Nat :=
  (crew.map fun member => rounds (key member)).sum

theorem total_congr {other : List α} (same : other.map key = crew.map key) (rounds : κ → Nat) :
    total key rounds other = total key rounds crew := by
  have images := congrArg (List.map rounds) same
  rw [List.map_map, List.map_map] at images
  exact congrArg List.sum images

theorem total_zero (key : α → κ) (crew : List α) : total key (fun _ => 0) crew = 0 := by
  rw [total, List.map_const', List.sum_replicate, nsmul_zero]

/-- One member takes more. -/
theorem total_advance [DecidableEq κ] {member : α} {front back : List α}
    (split : Keyed.Split key crew member front back) (rounds : κ → Nat) (more : Nat) :
    total key (Function.update rounds (key member) (rounds (key member) + more)) crew
      = total key rounds crew + more := by
  have same : ∀ others : List α, (∀ other ∈ others, key other ≠ key member) →
      total key (Function.update rounds (key member) (rounds (key member) + more)) others
        = total key rounds others := by
    intro others away
    unfold total
    congr 1
    exact List.map_congr_left fun other found => Function.update_of_ne (away other found) _ _
  have front_ := same front split.front
  have back_ := same back split.back
  unfold total at front_ back_ ⊢
  rw [split.whole, List.map_append, List.map_cons, List.sum_append, List.sum_cons, front_, back_,
    Function.update_self, List.map_append, List.map_cons, List.sum_append, List.sum_cons]
  omega

/-- The shares of all members are enough for what waits. -/
theorem le_mul_share {size : Nat} (positive : size ≠ 0) (waiting : Nat) :
    waiting ≤ size * ((waiting + size - 1) / size) := by
  have whole := Nat.div_add_mod (waiting + size - 1) size
  have rest := Nat.mod_lt (waiting + size - 1) (Nat.pos_of_ne_zero positive)
  omega

/-- **Some member has not had its share** while less than everything was taken. -/
theorem exists_lt_share {rounds : κ → Nat} {waiting size : Nat} (size_ : crew.length = size)
    (positive : size ≠ 0) (taken : total key rounds crew < waiting) :
    ∃ member ∈ crew, rounds (key member) < (waiting + size - 1) / size := by
  by_contra all
  have enough : ∀ count ∈ crew.map fun member => rounds (key member),
      (waiting + size - 1) / size ≤ count := by
    intro count found
    obtain ⟨member, present, rfl⟩ := List.mem_map.mp found
    exact Nat.not_lt.mp fun few => all ⟨member, present, few⟩
  have least := List.card_nsmul_le_sum _ _ enough
  rw [List.length_map, size_, nsmul_eq_mul, Nat.cast_id] at least
  exact absurd ((le_mul_share positive waiting).trans least) (Nat.not_le.mpr taken)

end AccountManagement.Library.Rounds

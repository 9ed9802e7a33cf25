/-
**Arithmetic on machine words.**

A computation on machine words either answers, with a value or with the `None` of a checked
operation, or it leaves the exact arithmetic: it panics, or wraps where overflow checks are off. In
`OptionT Option` the inner `none` is the checked answer and the outer one the failure. `answer` is
the part that never fails, and it is closed under composition (`answer_bind`).

The operations of the standard library's `Duration` are written here as it writes them on words of
32, 64 and 128 bits, and they are the exact operations: `checkedAddWords_eq`, `checkedMulWords_eq`,
`asNanosWords_eq`, `leWords_iff`.
-/

import AccountManagement.Library.Time

namespace AccountManagement.Library

/-- A computation that may fail, with the answer of a checked operation. -/
abbrev Words (α : Type) := OptionT Option α

namespace Words

variable {α β : Type}

/-- A computation that does not fail. -/
def answer (value : Option α) : Words α := OptionT.mk (some value)

/-- A plain operation fails where its exact value does not fit. -/
def plain (width value : Nat) : Words Nat :=
  OptionT.mk (if value < 2 ^ width then some (some value) else none)

/-- A checked operation, and a conversion by `try_from`, answer `none` there. -/
def checked (width value : Nat) : Words Nat :=
  answer (if value < 2 ^ width then some value else none)

theorem answer_bind (value : Option α) (next : α → Option β) :
    (answer value >>= fun result => answer (next result)) = answer (value.bind next) := by
  cases value <;> rfl

theorem answer_some_bind (value : α) (next : α → Words β) :
    (answer (some value) >>= next) = next value := rfl

theorem answer_none_bind (next : α → Words β) : (answer none >>= next) = answer none := rfl

theorem plain_of_lt {width value : Nat} (fits : value < 2 ^ width) :
    plain width value = answer (some value) := by
  rw [plain, if_pos fits]
  rfl

theorem checked_of_lt {width value : Nat} (fits : value < 2 ^ width) :
    checked width value = answer (some value) := by
  rw [checked, if_pos fits]

theorem checked_of_le {width value : Nat} (overflows : 2 ^ width ≤ value) :
    checked width value = answer none := by
  rw [checked, if_neg (Nat.not_lt.mpr overflows)]

/-- `usize::div_ceil`. -/
def divCeil (dividend divisor : Nat) : Words Nat :=
  if divisor = 0 then OptionT.mk none
  else if dividend % divisor > 0 then plain 64 (dividend / divisor + 1)
  else answer (some (dividend / divisor))

theorem divCeil_eq {dividend divisor : Nat} (positive : divisor ≠ 0) (fits : dividend < 2 ^ 64) :
    divCeil dividend divisor = answer (some ((dividend + divisor - 1) / divisor)) := by
  have parts := Nat.div_add_mod dividend divisor
  have small := Nat.mod_lt dividend (Nat.pos_of_ne_zero positive)
  rw [divCeil, if_neg positive]
  split
  · rename_i rest
    have up : (dividend + divisor - 1) / divisor = dividend / divisor + 1 := by
      refine Nat.div_eq_of_lt_le ?_ ?_
      · rw [Nat.add_mul, Nat.mul_comm]
        omega
      · rw [Nat.add_mul, Nat.add_mul, Nat.mul_comm (dividend / divisor)]
        omega
    have below : dividend / divisor + 1 ≤ dividend := by
      have : dividend / divisor ≤ divisor * (dividend / divisor) :=
        Nat.le_mul_of_pos_left _ (Nat.pos_of_ne_zero positive)
      omega
    rw [up, plain_of_lt (below.trans_lt fits)]
  · rename_i exact_
    have even : (dividend + divisor - 1) / divisor = dividend / divisor := by
      refine Nat.div_eq_of_lt_le ?_ ?_
      · rw [Nat.mul_comm]
        omega
      · rw [Nat.add_mul, Nat.mul_comm (dividend / divisor)]
        omega
    rw [even]

end Words

namespace Duration

open Words

/-- `Duration::new`; it panics if the carry of the nanoseconds overflows the seconds. -/
def newWords (secs nanos : Nat) : Words Duration :=
  OptionT.mk ((ofParts (secs + nanos / 1000000000) (nanos % 1000000000)
    (subsec_lt nanos)).map some)

def checkedAddWords (first second : Duration) : Words Duration := do
  let secs ← checked 64 (first.secs + second.secs)
  let nanos ← plain 32 (first.subsecNanos + second.subsecNanos)
  if nanos ≥ 1000000000 then
    let secs ← checked 64 (secs + 1)
    newWords secs (nanos - 1000000000)
  else newWords secs nanos

def checkedMulWords (duration : Duration) (factor : Nat) : Words Duration := do
  let totalNanos ← plain 64 (duration.subsecNanos * factor)
  let nanos ← plain 32 (totalNanos % 1000000000)
  let secs ← checked 64 (duration.secs * factor)
  let secs ← checked 64 (secs + totalNanos / 1000000000)
  newWords secs nanos

def asNanosWords (duration : Duration) : Words Nat := do
  let whole ← plain 128 (duration.secs * 1000000000)
  plain 128 (whole + duration.subsecNanos)

/-- The derived order: by the seconds, and then by the nanoseconds. -/
def leWords (first second : Duration) : Bool :=
  first.secs < second.secs ||
    (first.secs == second.secs && first.subsecNanos ≤ second.subsecNanos)

theorem newWords_eq {secs nanos : Nat} (secsFit : secs < 2 ^ 64) (nanosFit : nanos < 1000000000) :
    newWords secs nanos = answer (some ⟨secs, nanos, secsFit, nanosFit⟩) := by
  have whole : nanos / 1000000000 = 0 := Nat.div_eq_of_lt nanosFit
  have rest : nanos % 1000000000 = nanos := Nat.mod_eq_of_lt nanosFit
  simp only [newWords, whole, rest, Nat.add_zero, ofParts, dif_pos secsFit]
  rfl

theorem checkedAddWords_eq (first second : Duration) :
    checkedAddWords first second = answer (first.checkedAdd second) := by
  have firstFit := first.nanosFit
  have secondFit := second.nanosFit
  have sum : plain 32 (first.subsecNanos + second.subsecNanos) = _ := plain_of_lt (by omega)
  rw [checkedAddWords, checkedAdd]
  by_cases fits : first.secs + second.secs < 2 ^ 64
  · rw [checked_of_lt fits, answer_some_bind, sum, answer_some_bind]
    by_cases carry : first.subsecNanos + second.subsecNanos ≥ 1000000000
    · rw [if_pos carry, dif_pos carry]
      by_cases again : first.secs + second.secs + 1 < 2 ^ 64
      · rw [checked_of_lt again, answer_some_bind, newWords_eq again (by omega), ofParts,
          dif_pos again]
      · rw [checked_of_le (Nat.not_lt.mp again), answer_none_bind, ofParts, dif_neg again]
    · rw [if_neg carry, dif_neg carry, newWords_eq fits (by omega), ofParts, dif_pos fits]
  · rw [checked_of_le (Nat.not_lt.mp fits), answer_none_bind]
    by_cases carry : first.subsecNanos + second.subsecNanos ≥ 1000000000
    · rw [dif_pos carry, ofParts, dif_neg (by omega)]
    · rw [dif_neg carry, ofParts, dif_neg fits]

theorem checkedMulWords_eq (duration : Duration) {factor : Nat} (fits : factor < 2 ^ 32) :
    checkedMulWords duration factor = answer (duration.checkedMul factor) := by
  have nanosFit := duration.nanosFit
  have total : duration.subsecNanos * factor < 2 ^ 64 :=
    lt_of_le_of_lt (Nat.mul_le_mul nanosFit.le fits.le) (by decide)
  have rest : duration.subsecNanos * factor % 1000000000 < 1000000000 := Nat.mod_lt _ (by norm_num)
  rw [checkedMulWords, checkedMul, plain_of_lt total, answer_some_bind,
    plain_of_lt (rest.trans (by decide)), answer_some_bind]
  by_cases secsFit : duration.secs * factor < 2 ^ 64
  · rw [checked_of_lt secsFit, answer_some_bind]
    by_cases allFit : duration.secs * factor + duration.subsecNanos * factor / 1000000000 < 2 ^ 64
    · rw [checked_of_lt allFit, answer_some_bind, newWords_eq allFit rest, ofParts, dif_pos allFit]
    · rw [checked_of_le (Nat.not_lt.mp allFit), answer_none_bind, ofParts, dif_neg allFit]
  · have neither : ¬ duration.secs * factor + duration.subsecNanos * factor / 1000000000 < 2 ^ 64 := by
      omega
    rw [checked_of_le (Nat.not_lt.mp secsFit), answer_none_bind, ofParts, dif_neg neither]

theorem asNanosWords_eq (duration : Duration) :
    asNanosWords duration = answer (some duration.asNanos) := by
  have all : duration.secs * 1000000000 + duration.subsecNanos < 2 ^ 128 :=
    duration.asNanos_lt.trans (by decide)
  have whole : duration.secs * 1000000000 < 2 ^ 128 := (Nat.le_add_right _ _).trans_lt all
  rw [asNanosWords, plain_of_lt whole, answer_some_bind, plain_of_lt all]
  rfl

theorem leWords_iff (first second : Duration) : leWords first second = true ↔ first ≤ second := by
  have firstFit := first.nanosFit
  have secondFit := second.nanosFit
  show _ ↔ first.asNanos ≤ second.asNanos
  simp only [leWords, asNanos, Bool.or_eq_true, Bool.and_eq_true, decide_eq_true_eq, beq_iff_eq]
  omega

end Duration

end AccountManagement.Library

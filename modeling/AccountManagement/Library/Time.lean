/-
**Timestamps and durations.**

Timestamps are unbounded integers of nanoseconds. A `Duration` is the standard library's: seconds
in 64 bits and nanoseconds below a second, with its carries and overflows. The checked operations
are exact on its number of nanoseconds: `checkedAdd_asNanos`, `checkedMul_asNanos`. They answer
whenever the result is a duration (`checkedAdd_of_lt`, `checkedMul_of_lt`).
-/

import Mathlib.Tactic.Ring

namespace AccountManagement.Library

/-- A UTC timestamp, in nanoseconds. -/
abbrev DateTime := Int

/-- A duration: whole seconds in 64 bits, and the nanoseconds of the last second. -/
structure Duration where
  secs : Nat
  subsecNanos : Nat
  secsFit : secs < 2 ^ 64
  nanosFit : subsecNanos < 1000000000
deriving DecidableEq

namespace Duration

/-- The whole duration in nanoseconds. -/
def asNanos (duration : Duration) : Nat := duration.secs * 1000000000 + duration.subsecNanos

/-- The whole milliseconds of a duration; the rest is dropped. -/
def asMillis (duration : Duration) : Nat := duration.secs * 1000 + duration.subsecNanos / 1000000

def isZero (duration : Duration) : Bool := duration.secs == 0 && duration.subsecNanos == 0

/-- Durations are ordered as (seconds, nanoseconds), which is the order of their nanoseconds. -/
instance : LE Duration := ⟨fun first second => first.asNanos ≤ second.asNanos⟩

instance : LT Duration := ⟨fun first second => first.asNanos < second.asNanos⟩

instance (first second : Duration) : Decidable (first ≤ second) :=
  inferInstanceAs (Decidable (first.asNanos ≤ second.asNanos))

instance (first second : Duration) : Decidable (first < second) :=
  inferInstanceAs (Decidable (first.asNanos < second.asNanos))

/-- Seconds and nanoseconds as a duration, when the seconds fit. -/
def ofParts (secs subsecNanos : Nat) (nanosFit : subsecNanos < 1000000000) : Option Duration :=
  if fits : secs < 2 ^ 64 then some ⟨secs, subsecNanos, fits, nanosFit⟩ else none

/-- Addition with a carry of at most one second; no value on overflow. -/
def checkedAdd (first second : Duration) : Option Duration :=
  if carry : first.subsecNanos + second.subsecNanos ≥ 1000000000 then
    ofParts (first.secs + second.secs + 1) (first.subsecNanos + second.subsecNanos - 1000000000)
      (by have := first.nanosFit; have := second.nanosFit; omega)
  else
    ofParts (first.secs + second.secs) (first.subsecNanos + second.subsecNanos) (by omega)

/-- Multiplication by a small number; no value on overflow. -/
def checkedMul (duration : Duration) (factor : Nat) : Option Duration :=
  let totalNanos := duration.subsecNanos * factor
  ofParts (duration.secs * factor + totalNanos / 1000000000) (totalNanos % 1000000000)
    (Nat.mod_lt _ (by norm_num))

/-- The nanoseconds below a second. -/
theorem subsec_lt (nanos : Nat) : nanos % 1000000000 < 1000000000 := Nat.mod_lt nanos (by norm_num)

/-! The constructors take 64-bit numbers of their units. -/

def fromNanos (nanos : UInt64) : Duration where
  secs := nanos.toNat / 1000000000
  subsecNanos := nanos.toNat % 1000000000
  secsFit := lt_of_le_of_lt (Nat.div_le_self _ _) nanos.toNat_lt
  nanosFit := subsec_lt nanos.toNat

def fromMillis (millis : UInt64) : Duration where
  secs := millis.toNat / 1000
  subsecNanos := millis.toNat % 1000 * 1000000
  secsFit := lt_of_le_of_lt (Nat.div_le_self _ _) millis.toNat_lt
  nanosFit := by omega

def fromSecs (secs : UInt64) : Duration := ⟨secs.toNat, 0, secs.toNat_lt, by norm_num⟩

theorem asNanos_pos {duration : Duration} (positive : duration.isZero = false) :
    0 < duration.asNanos := by
  by_contra zero
  obtain ⟨noSecs, noNanos⟩ : duration.secs = 0 ∧ duration.subsecNanos = 0 := by
    unfold asNanos at zero
    omega
  rw [isZero, noSecs, noNanos] at positive
  cases positive

/-- Milliseconds are nanoseconds rounded down. -/
theorem asMillis_eq (duration : Duration) : duration.asMillis = duration.asNanos / 1000000 := by
  unfold asMillis asNanos
  omega

theorem ofParts_asNanos {secs subsecNanos : Nat} {nanosFit : subsecNanos < 1000000000}
    {duration : Duration} (made : ofParts secs subsecNanos nanosFit = some duration) :
    duration.asNanos = secs * 1000000000 + subsecNanos := by
  unfold ofParts at made
  split at made
  · obtain rfl := Option.some.inj made
    rfl
  · cases made

/-- **A checked sum is the exact sum.** -/
theorem checkedAdd_asNanos {first second total : Duration}
    (added : first.checkedAdd second = some total) :
    total.asNanos = first.asNanos + second.asNanos := by
  unfold checkedAdd at added
  split at added
  · rw [ofParts_asNanos added]
    unfold asNanos
    omega
  · rw [ofParts_asNanos added]
    unfold asNanos
    omega

/-- **A checked product is the exact product.** -/
theorem checkedMul_asNanos {duration total : Duration} {factor : Nat}
    (multiplied : duration.checkedMul factor = some total) :
    total.asNanos = duration.asNanos * factor := by
  unfold checkedMul at multiplied
  rw [ofParts_asNanos multiplied]
  unfold asNanos
  have split := Nat.div_add_mod (duration.subsecNanos * factor) 1000000000
  have spread : (duration.secs * 1000000000 + duration.subsecNanos) * factor
      = duration.secs * factor * 1000000000 + duration.subsecNanos * factor := by ring
  rw [spread]
  omega

theorem asNanos_lt (duration : Duration) : duration.asNanos < 2 ^ 64 * 1000000000 := by
  have secsFit := duration.secsFit
  have nanosFit := duration.nanosFit
  unfold asNanos
  omega

theorem exists_ofParts {secs subsecNanos : Nat} (fits : secs < 2 ^ 64)
    (nanosFit : subsecNanos < 1000000000) :
    ∃ duration, ofParts secs subsecNanos nanosFit = some duration :=
  ⟨_, dif_pos fits⟩

theorem checkedAdd_of_lt {first second : Duration}
    (fits : first.asNanos + second.asNanos < 2 ^ 64 * 1000000000) :
    ∃ total, first.checkedAdd second = some total := by
  unfold asNanos at fits
  unfold checkedAdd
  split
  · exact exists_ofParts (by omega) _
  · exact exists_ofParts (by omega) _

theorem checkedMul_of_lt {duration : Duration} {factor : Nat}
    (fits : duration.asNanos * factor < 2 ^ 64 * 1000000000) :
    ∃ total, duration.checkedMul factor = some total := by
  have spread : duration.asNanos * factor
      = duration.secs * factor * 1000000000 + duration.subsecNanos * factor := by
    unfold asNanos
    ring
  rw [spread] at fits
  exact exists_ofParts (by omega) _

end Duration

/-! ### Instants of a monotonic clock -/

/-- A reading of a monotonic clock, in nanoseconds. -/
abbrev Instant := Int

namespace Instant

/-- The seconds of an instant are a signed 64-bit number. -/
def Representable (nanos : Int) : Prop :=
  -(2 ^ 63 * 1000000000) ≤ nanos ∧ nanos < 2 ^ 63 * 1000000000

instance (nanos : Int) : Decidable (Representable nanos) :=
  inferInstanceAs (Decidable (_ ∧ _))

def checkedAdd (instant : Instant) (duration : Duration) : Option Instant :=
  if Representable (instant + duration.asNanos) then some (instant + duration.asNanos) else none

def checkedSub (instant : Instant) (duration : Duration) : Option Instant :=
  if Representable (instant - duration.asNanos) then some (instant - duration.asNanos) else none

theorem checkedAdd_eq {instant later : Instant} {duration : Duration}
    (added : checkedAdd instant duration = some later) : later = instant + duration.asNanos := by
  unfold checkedAdd at added
  split at added
  · exact (Option.some.inj added).symm
  · cases added

theorem representable_zero : Representable 0 := by decide

theorem Representable.between {first last instant : Instant} (firstFits : Representable first)
    (lastFits : Representable last) (after : first ≤ instant) (before : instant ≤ last) :
    Representable instant :=
  ⟨firstFits.1.trans after, lt_of_le_of_lt before lastFits.2⟩

theorem checkedAdd_of_between {instant later : Instant} {duration : Duration}
    (fits : Representable instant) (laterFits : Representable later)
    (below : instant + duration.asNanos ≤ later) :
    checkedAdd instant duration = some (instant + duration.asNanos) := by
  have after : instant ≤ instant + duration.asNanos :=
    Int.le_add_of_nonneg_right (Int.natCast_nonneg _)
  exact if_pos (fits.between laterFits after below)

theorem checkedSub_eq {instant earlier : Instant} {duration : Duration}
    (subtracted : checkedSub instant duration = some earlier) :
    earlier = instant - duration.asNanos := by
  unfold checkedSub at subtracted
  split at subtracted
  · exact (Option.some.inj subtracted).symm
  · cases subtracted

theorem checkedSub_representable {instant earlier : Instant} {duration : Duration}
    (subtracted : checkedSub instant duration = some earlier) : Representable earlier := by
  unfold checkedSub at subtracted
  split at subtracted
  · rename_i fits
    obtain rfl := Option.some.inj subtracted
    exact fits
  · cases subtracted

end Instant

end AccountManagement.Library

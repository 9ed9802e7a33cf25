/-
**Lookups by a key, and calls for each item of a list.**

* `find?_of_keyed`: in a list of items with different keys, an item is found under its key.
* `mapM_returns`, `mapM_constant`: a call for each item returns if each of them does.
-/

import AccountManagement.Library.Keyed

namespace AccountManagement.Library

variable {α β κ ε : Type*}

/-- **An item is found under its key**, if the keys are different. -/
theorem find?_of_keyed [DecidableEq κ] {key : α → κ} {items : List α} {item : α}
    (distinct : (items.map key).Nodup) (member : item ∈ items) :
    items.find? (fun other => key other = key item) = some item := by
  obtain ⟨front, back, split⟩ := Keyed.split_of_mem distinct member
  have missing : front.find? (fun other => key other = key item) = none :=
    List.find?_eq_none.mpr fun other found => by simpa using split.front other found
  rw [split.whole, List.find?_append, missing, Option.none_or]
  exact List.find?_cons_of_pos (decide_eq_true rfl)

theorem mapM_returns {call : α → Except ε β} {items : List α}
    (every : ∀ item ∈ items, ∃ result, call item = .ok result) :
    ∃ results, items.mapM call = .ok results := by
  induction items with
  | nil => exact ⟨[], rfl⟩
  | cons item rest ih =>
    obtain ⟨here, later⟩ := List.forall_mem_cons.mp every
    obtain ⟨result, returned⟩ := here
    obtain ⟨results, returnedAll⟩ := ih later
    refine ⟨result :: results, ?_⟩
    rw [List.mapM_cons, returned, returnedAll]
    rfl

theorem mapM_constant (result : β) (items : List α) :
    (items.mapM fun _ => (.ok result : Except ε β)) = .ok (List.replicate items.length result) := by
  induction items with
  | nil => rfl
  | cons item rest ih =>
    rw [List.mapM_cons, ih]
    rfl

end AccountManagement.Library

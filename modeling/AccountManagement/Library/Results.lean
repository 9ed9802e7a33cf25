/-
**How calls end.**

`Outcome` is a returned value, a returned error, or a panic. For the error monad, `bind_ok` and
`bind_error` take a sequence of checked calls apart, and `mapM_ok` a checked call on every item of
a list.
-/

import Mathlib.Data.List.Forall2

namespace AccountManagement.Library

/-- How a call ends: with a value, with an error it returns, or with a panic. -/
inductive Outcome (ε α : Type) where
  | ok (value : α)
  | error (reason : ε)
  | panicked
deriving DecidableEq

variable {ε α β : Type}

theorem bind_ok {call : Except ε α} {next : α → Except ε β} {result : β}
    (returned : call >>= next = .ok result) :
    ∃ value, call = .ok value ∧ next value = .ok result := by
  cases call with
  | error reason => cases returned
  | ok value => exact ⟨value, rfl, returned⟩

theorem bind_error {call : Except ε α} {next : α → Except ε β} {reason : ε}
    (returned : call >>= next = .error reason) :
    call = .error reason ∨ ∃ value, call = .ok value ∧ next value = .error reason := by
  cases call with
  | error other => exact .inl (congrArg Except.error (Except.error.inj returned))
  | ok value => exact .inr ⟨value, rfl, returned⟩

/-- When a checked call is made on every item, all of them succeed or none is returned. -/
theorem mapM_ok {call : α → Except ε β} {items : List α} {results : List β}
    (returned : items.mapM call = .ok results) :
    List.Forall₂ (fun item result => call item = .ok result) items results := by
  induction items generalizing results with
  | nil =>
    obtain rfl := Except.ok.inj returned
    exact .nil
  | cons item rest ih =>
    rw [List.mapM_cons] at returned
    obtain ⟨first, called, returned⟩ := bind_ok returned
    obtain ⟨others, continued, returned⟩ := bind_ok returned
    obtain rfl := Except.ok.inj returned
    exact .cons called (ih continued)

/-- Every right-hand item of related lists has its left-hand item. -/
theorem exists_left_of_forall₂ {related : α → β → Prop} {items : List α} {results : List β}
    (pairs : List.Forall₂ related items results) {result : β} (member : result ∈ results) :
    ∃ item ∈ items, related item result := by
  induction pairs with
  | nil => cases member
  | @cons item first _ _ here _ ih =>
    rcases List.mem_cons.mp member with rfl | member
    · exact ⟨item, List.mem_cons_self, here⟩
    · obtain ⟨other, found, there⟩ := ih member
      exact ⟨other, List.mem_cons_of_mem _ found, there⟩

end AccountManagement.Library

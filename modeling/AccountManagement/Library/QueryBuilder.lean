/-
**Query builders.**

A statement that is put together from pieces of text and bound values. A bound value is appended to
the arguments and stands in the text as a placeholder with its number, so the placeholders of a
builder are the numbers of its arguments, in order: a builder carries that fact. `pushValues` is the
VALUES list of rows.

`pushSeparated_tokens`, `pushRows_tokens` say what lists of values add; `parameters_append` and
`rowParameters_append` that the numbers of a row of values lead to these values.
-/

import Mathlib.Data.List.Forall2

namespace AccountManagement.Library

/-- A piece of a statement: text, or the number of an argument. -/
inductive Token where
  | text (sql : String)
  | placeholder (number : Nat)
deriving DecidableEq

/-- The numbers of the placeholders, in their order. -/
def placeholders (tokens : List Token) : List Nat :=
  tokens.filterMap fun token =>
    match token with
    | .text _ => none
    | .placeholder number => some number

theorem placeholders_append (first second : List Token) :
    placeholders (first ++ second) = placeholders first ++ placeholders second :=
  List.filterMap_append

/-- The pieces and the arguments of a statement. -/
structure QueryBuilder (α : Type) where
  tokens : List Token
  arguments : List α
  numbered : placeholders tokens = List.range' 1 arguments.length

namespace QueryBuilder

variable {α : Type}

def new (sql : String) : QueryBuilder α := ⟨[.text sql], [], rfl⟩

def push (query : QueryBuilder α) (sql : String) : QueryBuilder α where
  tokens := query.tokens ++ [.text sql]
  arguments := query.arguments
  numbered := by
    rw [placeholders_append, query.numbered]
    exact List.append_nil _

def pushBind (query : QueryBuilder α) (value : α) : QueryBuilder α where
  tokens := query.tokens ++ [.placeholder (query.arguments.length + 1)]
  arguments := query.arguments ++ [value]
  numbered := by
    rw [placeholders_append, query.numbered, List.length_append, List.length_singleton,
      ← List.range'_append_1, Nat.add_comm]
    rfl

/-- Values with commas between them. -/
def pushSeparated : List α → QueryBuilder α → QueryBuilder α
  | [], query => query
  | [value], query => query.pushBind value
  | value :: rest, query => pushSeparated rest ((query.pushBind value).push ", ")

def pushRow (row : List α) (query : QueryBuilder α) : QueryBuilder α :=
  (pushSeparated row (query.push "(")).push ")"

/-- Rows with commas between them. -/
def pushRows : List (List α) → QueryBuilder α → QueryBuilder α
  | [], query => query
  | [row], query => pushRow row query
  | row :: rest, query => pushRows rest ((pushRow row query).push ", ")

def pushValues (rows : List (List α)) (query : QueryBuilder α) : QueryBuilder α :=
  pushRows rows (query.push "VALUES ")

end QueryBuilder

/-! ### The text of lists of parameters -/

def separatedTokens : List Nat → List Token
  | [] => []
  | [number] => [.placeholder number]
  | number :: rest => .placeholder number :: .text ", " :: separatedTokens rest

def rowTokens (row : List Nat) : List Token := .text "(" :: separatedTokens row ++ [.text ")"]

def rowsTokens : List (List Nat) → List Token
  | [] => []
  | [row] => rowTokens row
  | row :: rest => rowTokens row ++ .text ", " :: rowsTokens rest

def valuesTokens (rows : List (List Nat)) : List Token := .text "VALUES " :: rowsTokens rows

/-- The numbers of the values of rows, from a first one on. -/
def numberRows {α : Type} (first : Nat) : List (List α) → List (List Nat)
  | [] => []
  | row :: rest => List.range' first row.length :: numberRows (first + row.length) rest

namespace QueryBuilder

variable {α : Type}

@[simp] theorem push_tokens (query : QueryBuilder α) (sql : String) :
    (query.push sql).tokens = query.tokens ++ [.text sql] := rfl

@[simp] theorem push_arguments (query : QueryBuilder α) (sql : String) :
    (query.push sql).arguments = query.arguments := rfl

@[simp] theorem pushBind_tokens (query : QueryBuilder α) (value : α) :
    (query.pushBind value).tokens
      = query.tokens ++ [.placeholder (query.arguments.length + 1)] := rfl

@[simp] theorem pushBind_arguments (query : QueryBuilder α) (value : α) :
    (query.pushBind value).arguments = query.arguments ++ [value] := rfl

theorem placeholders_tokens (query : QueryBuilder α) :
    placeholders query.tokens = List.range' 1 query.arguments.length := query.numbered

@[simp] theorem pushSeparated_arguments (values : List α) (query : QueryBuilder α) :
    (pushSeparated values query).arguments = query.arguments ++ values := by
  induction values generalizing query with
  | nil => exact (List.append_nil _).symm
  | cons value rest ih =>
    cases rest with
    | nil => rfl
    | cons next others =>
      rw [pushSeparated, ih, push_arguments, pushBind_arguments, List.append_assoc]
      · rfl
      · exact nofun

theorem pushSeparated_tokens (values : List α) (query : QueryBuilder α) :
    (pushSeparated values query).tokens = query.tokens ++
      separatedTokens (List.range' (query.arguments.length + 1) values.length) := by
  induction values generalizing query with
  | nil => exact (List.append_nil _).symm
  | cons value rest ih =>
    cases rest with
    | nil => rfl
    | cons next others =>
      rw [pushSeparated, ih, push_tokens, push_arguments, pushBind_tokens, pushBind_arguments]
      · simp [List.range'_succ, separatedTokens]
      · exact nofun

@[simp] theorem pushRow_arguments (row : List α) (query : QueryBuilder α) :
    (pushRow row query).arguments = query.arguments ++ row :=
  pushSeparated_arguments row (query.push "(")

theorem pushRow_tokens (row : List α) (query : QueryBuilder α) :
    (pushRow row query).tokens = query.tokens ++
      rowTokens (List.range' (query.arguments.length + 1) row.length) := by
  rw [pushRow, push_tokens, pushSeparated_tokens, push_tokens, push_arguments, rowTokens]
  simp

@[simp] theorem pushRows_arguments (rows : List (List α)) (query : QueryBuilder α) :
    (pushRows rows query).arguments = query.arguments ++ rows.flatten := by
  induction rows generalizing query with
  | nil => exact (List.append_nil _).symm
  | cons row rest ih =>
    cases rest with
    | nil => simp [pushRows]
    | cons next others =>
      rw [pushRows, ih, push_arguments, pushRow_arguments, List.append_assoc]
      · rfl
      · exact nofun

theorem pushRows_tokens (rows : List (List α)) (query : QueryBuilder α) :
    (pushRows rows query).tokens = query.tokens ++
      rowsTokens (numberRows (query.arguments.length + 1) rows) := by
  induction rows generalizing query with
  | nil => exact (List.append_nil _).symm
  | cons row rest ih =>
    cases rest with
    | nil => exact pushRow_tokens row query
    | cons next others =>
      rw [pushRows, ih, push_tokens, push_arguments, pushRow_tokens, pushRow_arguments,
        List.length_append]
      · have shift : query.arguments.length + row.length + 1
            = query.arguments.length + 1 + row.length := by omega
        simp [numberRows, rowsTokens, shift]
      · exact nofun

@[simp] theorem pushValues_arguments (rows : List (List α)) (query : QueryBuilder α) :
    (pushValues rows query).arguments = query.arguments ++ rows.flatten :=
  pushRows_arguments rows (query.push "VALUES ")

theorem pushValues_tokens (rows : List (List α)) (query : QueryBuilder α) :
    (pushValues rows query).tokens = query.tokens ++
      valuesTokens (numberRows (query.arguments.length + 1) rows) := by
  rw [pushValues, pushRows_tokens, push_tokens, push_arguments, valuesTokens]
  simp

end QueryBuilder

/-! ### The values of parameters -/

section Parameters

variable {α : Type}

/-- The argument with a number. -/
def parameter (arguments : List α) (number : Nat) : Option α :=
  if number = 0 then none else arguments[number - 1]?

/-- The arguments with the given numbers. -/
def parameters (arguments : List α) (numbers : List Nat) : Option (List α) :=
  numbers.mapM (parameter arguments)

theorem parameter_append (front back : List α) (value : α) :
    parameter (front ++ value :: back) (front.length + 1) = some value := by
  rw [parameter, if_neg (Nat.succ_ne_zero _), Nat.add_sub_cancel,
    List.getElem?_append_right (Nat.le_refl _), Nat.sub_self]
  rfl

/-- The numbers of a row of values lead to these values. -/
theorem parameters_append (front row back : List α) :
    parameters (front ++ row ++ back) (List.range' (front.length + 1) row.length) = some row := by
  induction row generalizing front with
  | nil => rfl
  | cons value rest ih =>
    have first : parameter (front ++ value :: rest ++ back) (front.length + 1) = some value := by
      rw [List.append_assoc]
      exact parameter_append front (rest ++ back) value
    have others := ih (front ++ [value])
    rw [List.length_append, List.length_singleton, List.append_assoc, List.append_assoc,
      List.singleton_append, ← List.cons_append, ← List.append_assoc] at others
    rw [List.length_cons, List.range'_succ, parameters, List.mapM_cons, first]
    show (parameters _ _ >>= fun values => some (value :: values)) = _
    rw [others]
    rfl

/-- The numbers of rows of values lead to these rows. -/
theorem rowParameters_append (front : List α) (rows : List (List α)) (back : List α) :
    (numberRows (front.length + 1) rows).mapM (parameters (front ++ rows.flatten ++ back))
      = some rows := by
  induction rows generalizing front with
  | nil => rfl
  | cons row rest ih =>
    have first : parameters (front ++ (row :: rest).flatten ++ back)
        (List.range' (front.length + 1) row.length) = some row := by
      rw [List.flatten_cons, ← List.append_assoc, List.append_assoc]
      exact parameters_append front row (rest.flatten ++ back)
    have others := ih (front ++ row)
    have shift : (front ++ row).length + 1 = front.length + 1 + row.length := by
      rw [List.length_append]
      omega
    rw [shift, List.append_assoc front row, ← List.flatten_cons] at others
    rw [numberRows, List.mapM_cons, first]
    show (List.mapM _ _ >>= fun values => some (row :: values)) = _
    rw [others]
    rfl

/-- The items of a list and the values that were all found for them. -/
theorem forall₂_of_mapM {β : Type} {find : α → Option β} {items : List α} {values : List β}
    (found : items.mapM find = some values) :
    List.Forall₂ (fun item value => find item = some value) items values := by
  induction items generalizing values with
  | nil =>
    obtain rfl := Option.some.inj found
    exact .nil
  | cons item rest ih =>
    rw [List.mapM_cons] at found
    obtain ⟨first, here, found⟩ := Option.bind_eq_some_iff.mp found
    obtain ⟨others, there, found⟩ := Option.bind_eq_some_iff.mp found
    obtain rfl := Option.some.inj found
    exact .cons here (ih there)

end Parameters

end AccountManagement.Library

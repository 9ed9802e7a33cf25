/-
**Lists whose items have distinct keys.**

A table is a list of rows under a primary key. An item of such a list splits it into a front and a
back without its key (`split_of_mem`), and replacing or removing the item by its key changes just
the one place (`map_of_split`, `filter_of_split`); a change that spares a kind of items keeps the
items of that kind (`filter_map_spared`). `filterMap_cons_toList` and `eq_of_countP_le_one` are for
counting.
-/

import Mathlib.Data.List.Nodup

namespace AccountManagement.Library.Keyed

variable {α κ : Type*} [DecidableEq κ] {key : α → κ} {items : List α} {item : α}

/-- The items before and after an item of a keyed list have other keys. -/
structure Split (key : α → κ) (items : List α) (item : α) (front back : List α) : Prop where
  whole : items = front ++ item :: back
  front : ∀ other ∈ front, key other ≠ key item
  back : ∀ other ∈ back, key other ≠ key item

omit [DecidableEq κ] in
theorem split_of_mem (distinct : (items.map key).Nodup) (member : item ∈ items) :
    ∃ front back, Split key items item front back := by
  obtain ⟨front, back, rfl⟩ := List.append_of_mem member
  rw [List.map_append, List.map_cons, List.nodup_append, List.nodup_cons] at distinct
  obtain ⟨_, ⟨notBack, _⟩, apart⟩ := distinct
  refine ⟨front, back, rfl, fun other found same => ?_, fun other found same => ?_⟩
  · exact apart (key other) (List.mem_map_of_mem found) (key item) List.mem_cons_self same
  · exact notBack (same ▸ List.mem_map_of_mem found)

/-- Replacing the item under a key. -/
theorem map_of_split {front back : List α} (split : Split key items item front back)
    (change : α → α) :
    items.map (fun other => if key other = key item then change other else other)
      = front ++ change item :: back := by
  have same : ∀ others : List α, (∀ other ∈ others, key other ≠ key item) →
      others.map (fun other => if key other = key item then change other else other) = others := by
    intro others away
    conv_rhs => rw [← List.map_id others]
    exact List.map_congr_left fun other found => if_neg (away other found)
  rw [split.whole, List.map_append, List.map_cons, same front split.front, same back split.back,
    if_pos rfl]

/-- Removing the item under a key. -/
theorem filter_of_split {front back : List α} (split : Split key items item front back) :
    items.filter (fun other => key other ≠ key item) = front ++ back := by
  have same : ∀ others : List α, (∀ other ∈ others, key other ≠ key item) →
      others.filter (fun other => key other ≠ key item) = others := fun others away =>
    List.filter_eq_self.mpr fun other found => decide_eq_true (away other found)
  rw [split.whole, List.filter_append, List.filter_cons, same front split.front,
    same back split.back, if_neg (by simp)]

/-- A change that spares the items of a kind and makes none leaves the items of that kind. -/
theorem filter_map_spared {kind : α → Bool} {change : α → α}
    (spared : ∀ item, kind item = true → change item = item)
    (away : ∀ item, kind (change item) = kind item) (items : List α) :
    (items.map change).filter kind = items.filter kind := by
  have same : kind ∘ change = kind := funext away
  rw [List.filter_map, same]
  conv_rhs => rw [← List.map_id (items.filter kind)]
  exact List.map_congr_left fun item member => spared item (List.mem_filter.mp member).2

/-- The value of the first item comes first, if it has one. -/
theorem filterMap_cons_toList {β : Type*} (value : α → Option β) (item : α) (items : List α) :
    (item :: items).filterMap value = (value item).toList ++ items.filterMap value := by
  cases found : value item with
  | none => rw [List.filterMap_cons_none found, Option.toList_none, List.nil_append]
  | some result => rw [List.filterMap_cons_some found, Option.toList_some, List.singleton_append]

/-- Of a kind of which there is at most one, any two items are the same. -/
theorem eq_of_countP_le_one {kind : α → Bool} {first second : α}
    (one : items.countP kind ≤ 1) (firstIn : first ∈ items) (secondIn : second ∈ items)
    (firstKind : kind first = true) (secondKind : kind second = true) : first = second := by
  rw [List.countP_eq_length_filter] at one
  have firstFound := List.mem_filter.mpr ⟨firstIn, firstKind⟩
  have secondFound := List.mem_filter.mpr ⟨secondIn, secondKind⟩
  match items.filter kind, one, firstFound, secondFound with
  | [only], _, firstFound, secondFound =>
    exact (List.mem_singleton.mp firstFound).trans (List.mem_singleton.mp secondFound).symm

/-- In a list whose images do not repeat, an image has one origin. -/
theorem eq_of_nodup_filterMap {α β : Type*} {image : α → Option β} {items : List α}
    (distinct : (items.filterMap image).Nodup) {first second : α} {value : β}
    (left : first ∈ items) (right : second ∈ items) (leftImage : image first = some value)
    (rightImage : image second = some value) : first = second := by
  induction items with
  | nil => cases left
  | cons item rest ih =>
    have later : ∀ {other : α}, other ∈ rest → image other = some value →
        image item ≠ some value := by
      intro other member imageOther imageItem
      rw [List.filterMap_cons_some imageItem] at distinct
      exact (List.nodup_cons.mp distinct).1 (List.mem_filterMap.mpr ⟨other, member, imageOther⟩)
    have fewer : (rest.filterMap image).Nodup :=
      distinct.sublist (List.Sublist.filterMap _ (List.sublist_cons_self item rest))
    rcases List.mem_cons.mp left with rfl | leftRest
    · rcases List.mem_cons.mp right with rfl | rightRest
      · rfl
      · exact absurd leftImage (later rightRest rightImage)
    · rcases List.mem_cons.mp right with rfl | rightRest
      · exact absurd rightImage (later leftRest leftImage)
      · exact ih fewer leftRest rightRest

/-- In a list whose images do not repeat, an image occurs at one place. -/
theorem split_unique {α β : Type*} {image : α → Option β} {value : β} {first second : α}
    {before after before' after' : List α}
    (same : before ++ first :: after = before' ++ second :: after')
    (distinct : ((before ++ first :: after).filterMap image).Nodup)
    (firstImage : image first = some value) (secondImage : image second = some value) :
    before = before' ∧ after = after' := by
  induction before generalizing before' with
  | nil =>
    cases before' with
    | nil => exact ⟨rfl, (List.cons.inj same).2⟩
    | cons item rest =>
      obtain ⟨rfl, rfl⟩ := List.cons.inj same
      rw [List.nil_append, List.filterMap_cons_some firstImage] at distinct
      exact absurd (List.mem_filterMap.mpr ⟨second, by simp, secondImage⟩)
        (List.nodup_cons.mp distinct).1
  | cons item rest ih =>
    cases before' with
    | nil =>
      obtain ⟨rfl, rfl⟩ := List.cons.inj same
      rw [List.cons_append, List.filterMap_cons_some secondImage] at distinct
      exact absurd (List.mem_filterMap.mpr ⟨first, by simp, firstImage⟩)
        (List.nodup_cons.mp distinct).1
    | cons item' rest' =>
      obtain ⟨rfl, tails⟩ := List.cons.inj same
      have fewer : ((rest ++ first :: after).filterMap image).Nodup :=
        distinct.sublist (List.Sublist.filterMap _ (List.sublist_cons_self item _))
      obtain ⟨rfl, rfl⟩ := ih tails fewer
      exact ⟨rfl, rfl⟩

/-- What the items yield together, after one that yielded nothing was replaced. -/
theorem flatMap_set {α β : Type*} {image : α → List β} {items : List α} {place : Nat}
    {old new : α} (present : items[place]? = some old) (none : image old = []) :
    ((items.set place new).flatMap image).Perm (items.flatMap image ++ image new) := by
  induction items generalizing place with
  | nil => cases present
  | cons first rest ih =>
    cases place with
    | zero =>
      obtain rfl := Option.some.inj present
      rw [List.set_cons_zero, List.flatMap_cons, List.flatMap_cons, none, List.nil_append]
      exact List.perm_append_comm
    | succ place =>
      rw [List.set_cons_succ, List.flatMap_cons, List.flatMap_cons, List.append_assoc]
      exact (ih present).append_left _

end AccountManagement.Library.Keyed

/-!
Lists in which one item is changed, seen through a view of the items, through a search and through a
count.
-/

namespace Retrofit

variable {change : α → α}

/-- A view of the items is the view of the items before, with that one changed in it. -/
theorem map_modify (items : List α) (index : Nat) {view : α → β} {other : β → β}
    (same : ∀ item, items[index]? = some item → view (change item) = other (view item)) :
    (items.modify index change).map view = (items.map view).modify index other := by
  apply List.ext_getElem?
  intro place
  rw [List.getElem?_map, List.getElem?_modify, List.getElem?_modify, List.getElem?_map]
  by_cases here : index = place
  · subst here
    cases found : items[index]? with
    | none => rfl
    | some item => simp [same item found]
  · simp [here]

theorem map_modify_of_same (items : List α) (index : Nat) {view : α → β}
    (same : ∀ item, items[index]? = some item → view (change item) = view item) :
    (items.modify index change).map view = items.map view := by
  have unchanged : (items.modify index change).map view = (items.map view).modify index id :=
    map_modify items index same
  rw [unchanged, List.modify_id]

theorem modify_of_same (items : List α) (index : Nat)
    (same : ∀ item, items[index]? = some item → change item = item) :
    items.modify index change = items := by
  have unseen : (items.modify index change).map id = items.map id :=
    map_modify_of_same items index same
  rwa [List.map_id, List.map_id] at unseen

/-- Changes of different items come to the same in any order. -/
theorem modify_comm (items : List α) {index place : Nat} (apart : index ≠ place)
    (change other : α → α) :
    (items.modify index change).modify place other =
      (items.modify place other).modify index change := by
  apply List.ext_getElem?
  intro spot
  simp only [List.getElem?_modify]
  by_cases here : index = spot
  · subst here
    simp [apart.symm]
  · simp [here]

theorem modify_mapIdx (items : List α) (index : Nat) (change : β → β) (f : Nat → α → β) :
    (items.mapIdx f).modify index change =
      items.mapIdx fun place item => if place = index then change (f place item) else f place item := by
  apply List.ext_getElem?
  intro place
  rw [List.getElem?_modify, List.getElem?_mapIdx, List.getElem?_mapIdx]
  by_cases here : index = place
  · subst here
    simp [Function.comp_def]
  · simp [here, Ne.symm here]

theorem mapIdx_congr {items : List α} {f g : Nat → α → β}
    (same : ∀ index item, items[index]? = some item → f index item = g index item) :
    items.mapIdx f = items.mapIdx g := by
  apply List.ext_getElem?
  intro place
  rw [List.getElem?_mapIdx, List.getElem?_mapIdx]
  cases found : items[place]? with
  | none => rfl
  | some item => exact congrArg some (same place item found)

theorem map_mapIdx_congr {items : List α} {f g : Nat → α → β} {view : β → γ}
    (same : ∀ index item, view (f index item) = view (g index item)) :
    (items.mapIdx f).map view = (items.mapIdx g).map view := by
  apply List.ext_getElem?
  intro place
  simp only [List.getElem?_map, List.getElem?_mapIdx, Option.map_map]
  exact congrArg (Option.map · _) (funext (same place))

theorem mapIdx_same (items : List α) : items.mapIdx (fun _ item => item) = items := by
  apply List.ext_getElem?
  simp

theorem filterMap_modify (items : List α) (index : Nat) {view : α → Option β}
    (same : ∀ item, items[index]? = some item → view (change item) = view item) :
    (items.modify index change).filterMap view = items.filterMap view := by
  induction items generalizing index with
  | nil => simp
  | cons first rest ih =>
    cases index with
    | zero => simp [List.filterMap_cons, same first rfl]
    | succ index => simp [List.filterMap_cons, ih index same]

/-- A search passes over an item that it accepts neither before nor after. -/
theorem find?_modify (items : List α) (index : Nat) {accepts : α → Bool}
    (others : ∀ item, items[index]? = some item →
      accepts item = false ∧ accepts (change item) = false) :
    (items.modify index change).find? accepts = items.find? accepts := by
  induction items generalizing index with
  | nil => cases index <;> rfl
  | cons first rest ih =>
    cases index with
    | zero =>
      obtain ⟨was, becomes⟩ := others first rfl
      simp [was, becomes]
    | succ index =>
      rw [List.modify_succ_cons, List.find?_cons, List.find?_cons, ih index others]

theorem countP_modify {items : List α} {index : Nat} {accepts : α → Bool} {item : α}
    (here : items[index]? = some item) (was : accepts item = true)
    (becomes : accepts (change item) = false) :
    (items.modify index change).countP accepts + 1 = items.countP accepts := by
  induction items generalizing index with
  | nil => cases here
  | cons first rest ih =>
    cases index with
    | zero =>
      cases here
      simp [was, becomes]
    | succ index =>
      rw [List.modify_succ_cons, List.countP_cons, List.countP_cons, ← ih here]
      omega

end Retrofit

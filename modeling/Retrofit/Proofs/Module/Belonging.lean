import Retrofit.Proofs.Module.Nesting

/-!
Where types and members belong. In a module that its builders have made, what a type holds and what
its members say of their owner is the same, and a type comes behind the one that encloses it
(`Assembled.anchored`).
-/

namespace Retrofit

/-- What a type says of where it and its members belong. -/
def TypeDef.places (type : TypeDef) : Option TypeId × List FieldId × List MethodId :=
  (type.enclosing, type.fields, type.methods)

namespace Module

/-- A module made from an empty one by its builders. Between their calls all data may be set that does
not say where types and members belong. -/
inductive Assembled : Module → Prop where
  | empty (name : String) : Assembled { name }
  | type (assembled : Assembled module) (space name : String) :
      Assembled ((addType space name).apply module).2
  | nestedType (assembled : Assembled module) (enclosing : TypeId) (name : String) :
      Assembled ((addNestedType enclosing name).apply module).2
  | method (assembled : Assembled module) (owner : TypeId) (method : MethodDef) :
      Assembled ((addMethod owner method).apply module).2
  | field (assembled : Assembled module) (owner : TypeId) (field : FieldDef) :
      Assembled ((addField owner field).apply module).2
  | dressed (assembled : Assembled module) (dressed : Module)
      (places : dressed.types.map TypeDef.places = module.types.map TypeDef.places)
      (methods : dressed.methods.map MethodDef.declaringType =
        module.methods.map MethodDef.declaringType)
      (fields : dressed.fields.map FieldDef.declaringType =
        module.fields.map FieldDef.declaringType) : Assembled dressed

section Columns

variable {enclosing : List (Option TypeId)} {ids : Nat → ι} {held : List (List ι)}
  {owners : List TypeId} {owner : TypeId}

/-- Every type comes behind the one that encloses it. -/
def Enclosed (enclosing : List (Option TypeId)) : Prop :=
  ∀ (index : Nat) (outer : TypeId), enclosing[index]? = some (some outer) → outer.index < index

/-- Each type holds the members that say that they belong to it, and no others. -/
def Holds (ids : Nat → ι) (held : List (List ι)) (owners : List TypeId) : Prop :=
  ∀ (index : Nat) (owner : TypeId),
    ids index ∈ (held[owner.index]?).getD [] ↔ owners[index]? = some owner

private theorem getElem?_concat_eq_some {items : List α} {last item : α} {index : Nat} :
    (items ++ [last])[index]? = some item ↔
      items[index]? = some item ∨ index = items.length ∧ last = item := by
  rw [List.getElem?_append]
  split
  case isTrue inside => simp [Nat.ne_of_lt inside]
  case isFalse outside =>
    rw [List.getElem?_eq_none (Nat.le_of_not_lt outside), List.getElem?_singleton]
    have atEnd : index - items.length = 0 ↔ index = items.length := by omega
    simp [atEnd]

theorem Enclosed.added (enclosed : Enclosed enclosing) (outer? : Option TypeId)
    (before : ∀ outer, outer? = some outer → outer.index < enclosing.length) :
    Enclosed (enclosing ++ [outer?]) := by
  intro index outer found
  rcases getElem?_concat_eq_some.1 found with old | ⟨rfl, new⟩
  · exact enclosed index outer old
  · exact before outer new

theorem Holds.typeAdded (holds : Holds ids held owners) : Holds ids (held ++ [[]]) owners := by
  intro index owner
  rw [← holds index owner, List.getElem?_append]
  split
  case isTrue => rfl
  case isFalse outside =>
    rw [List.getElem?_eq_none (Nat.le_of_not_lt outside), List.getElem?_singleton]
    split <;> rfl

theorem Holds.memberAdded (holds : Holds ids held owners) (distinct : Function.Injective ids)
    (known : owner.index < held.length) :
    Holds ids (held.modify owner.index (· ++ [ids owners.length])) (owners ++ [owner]) := by
  intro index other
  rw [getElem?_concat_eq_some, ← holds index other, List.getElem?_modify]
  by_cases same : owner.index = other.index
  · obtain rfl : owner = other := congrArg TypeId.mk same
    simp [List.getElem?_eq_getElem known, distinct.eq_iff]
  · have apart : owner ≠ other := fun equal => same (congrArg TypeId.index equal)
    simp [same, apart]

end Columns

/-- Types come behind the ones that enclose them, and they hold the members that belong to them. -/
structure Anchored (module : Module) : Prop where
  enclosed : Enclosed (module.types.map TypeDef.enclosing)
  fields : Holds FieldId.mk (module.types.map TypeDef.fields)
    (module.fields.map FieldDef.declaringType)
  methods : Holds MethodId.mk (module.types.map TypeDef.methods)
    (module.methods.map MethodDef.declaringType)

namespace Anchored

variable {module : Module}

theorem empty (name : String) : Anchored { name } := by
  refine ⟨nofun, fun index owner => ?_, fun index owner => ?_⟩ <;> simp

theorem of_places (anchored : module.Anchored) {dressed : Module}
    (places : dressed.types.map TypeDef.places = module.types.map TypeDef.places)
    (methods : dressed.methods.map MethodDef.declaringType =
      module.methods.map MethodDef.declaringType)
    (fields : dressed.fields.map FieldDef.declaringType =
      module.fields.map FieldDef.declaringType) : dressed.Anchored := by
  have enclosed := congrArg (List.map fun places => places.1) places
  have heldFields := congrArg (List.map fun places => places.2.1) places
  have heldMethods := congrArg (List.map fun places => places.2.2) places
  rw [List.map_map, List.map_map] at enclosed heldFields heldMethods
  refine ⟨?_, ?_, ?_⟩
  · exact enclosed ▸ anchored.enclosed
  · exact fields ▸ heldFields ▸ anchored.fields
  · exact methods ▸ heldMethods ▸ anchored.methods

theorem typeAdded (anchored : module.Anchored) {added : TypeDef} (topLevel : List TypeId)
    (noFields : added.fields = []) (noMethods : added.methods = [])
    (before : ∀ outer, added.enclosing = some outer → outer.index < module.types.length) :
    Anchored { module with types := module.types ++ [added], topLevel } := by
  refine ⟨?_, ?_, ?_⟩ <;> rw [List.map_append, List.map_singleton]
  · refine anchored.enclosed.added added.enclosing ?_
    rwa [List.length_map]
  · rw [noFields]
    exact anchored.fields.typeAdded
  · rw [noMethods]
    exact anchored.methods.typeAdded

theorem type (anchored : module.Anchored) (space name : String) :
    ((addType space name).apply module).2.Anchored :=
  anchored.typeAdded _ rfl rfl nofun

theorem nestedType (anchored : module.Anchored) (enclosing : TypeId) (name : String) :
    ((addNestedType enclosing name).apply module).2.Anchored := by
  rw [addNestedType, Edit.apply_bind]
  simp only [Edit.apply_get]
  rw [after_changeType_bind, Edit.apply_bind]
  simp only [Edit.apply_modify, Edit.apply_pure]
  split
  case isFalse => exact anchored
  case isTrue known =>
    have inside : (module.withType enclosing fun type =>
        { type with nested := type.nested ++ [⟨module.types.length⟩] }).Anchored :=
      anchored.of_places (map_modify_of_same _ _ fun _ _ => rfl) rfl rfl
    refine inside.typeAdded _ rfl rfl ?_
    rintro outer ⟨⟩
    rwa [withType, List.length_modify]

theorem method (anchored : module.Anchored) (owner : TypeId) (method : MethodDef) :
    ((addMethod owner method).apply module).2.Anchored := by
  rw [addMethod, Edit.apply_bind]
  simp only [Edit.apply_get]
  rw [after_changeType_bind, Edit.apply_bind]
  simp only [Edit.apply_modify, Edit.apply_pure]
  split
  case isFalse => exact anchored
  case isTrue known =>
    have grown : (module.withType owner fun type =>
          { type with methods := type.methods ++ [⟨module.methods.length⟩] }).types.map
            TypeDef.methods =
        (module.types.map TypeDef.methods).modify owner.index (· ++ [⟨module.methods.length⟩]) :=
      map_modify _ _ fun _ _ => rfl
    refine ⟨?_, ?_, ?_⟩
    · rw [withType, map_modify_of_same]
      exacts [anchored.enclosed, fun _ _ => rfl]
    · rw [withType, map_modify_of_same]
      exacts [anchored.fields, fun _ _ => rfl]
    · have added := anchored.methods.memberAdded (fun _ _ => MethodId.mk.inj)
        ((List.length_map _).symm ▸ known)
      rw [List.length_map] at added
      rw [grown, List.map_append]
      exact added

theorem field (anchored : module.Anchored) (owner : TypeId) (field : FieldDef) :
    ((addField owner field).apply module).2.Anchored := by
  rw [addField, Edit.apply_bind]
  simp only [Edit.apply_get]
  rw [after_changeType_bind, Edit.apply_bind]
  simp only [Edit.apply_modify, Edit.apply_pure]
  split
  case isFalse => exact anchored
  case isTrue known =>
    have grown : (module.withType owner fun type =>
          { type with fields := type.fields ++ [⟨module.fields.length⟩] }).types.map
            TypeDef.fields =
        (module.types.map TypeDef.fields).modify owner.index (· ++ [⟨module.fields.length⟩]) :=
      map_modify _ _ fun _ _ => rfl
    refine ⟨?_, ?_, ?_⟩
    · rw [withType, map_modify_of_same]
      exacts [anchored.enclosed, fun _ _ => rfl]
    · have added := anchored.fields.memberAdded (fun _ _ => FieldId.mk.inj)
        ((List.length_map _).symm ▸ known)
      rw [List.length_map] at added
      rw [grown, List.map_append]
      exact added
    · rw [withType, map_modify_of_same]
      exacts [anchored.methods, fun _ _ => rfl]

end Anchored

theorem Assembled.anchored {module : Module} (assembled : module.Assembled) : module.Anchored := by
  induction assembled with
  | empty name => exact .empty name
  | type _ space name ih => exact ih.type space name
  | nestedType _ enclosing name ih => exact ih.nestedType enclosing name
  | method _ owner method ih => exact ih.method owner method
  | field _ owner field ih => exact ih.field owner field
  | dressed _ dressed places methods fields ih => exact ih.of_places places methods fields

end Module
end Retrofit

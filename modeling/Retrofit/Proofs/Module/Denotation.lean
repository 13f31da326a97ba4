import Mathlib.Data.List.Pairwise
import Retrofit.Proofs.Module.Meeting
import Retrofit.Proofs.Module.Tree

/-!
Which member of a module a reference in an instruction denotes. This is read off the names of the
members and where they are declared (`denoted?_naming`), which little of what happens to a module
touches.
-/

namespace Retrofit

/-- A type as references see it. -/
def TypeDef.naming (type : TypeDef) : TypeDef where
  name := type.name
  space := type.space
  flags := 0
  enclosing := type.enclosing
  fields := type.fields
  methods := type.methods

/-- A method as references see it. -/
def MethodDef.naming (method : MethodDef) : MethodDef where
  name := method.name
  returnType := method.returnType
  params := method.params
  declaringType := method.declaringType

/-- A field as references see it. -/
def FieldDef.naming (field : FieldDef) : FieldDef where
  name := field.name
  type := ""
  flags := 0
  declaringType := field.declaringType

namespace Module

/-- The module with nothing but what tells which member a reference denotes. -/
def naming (module : Module) : Module where
  name := ""
  types := module.types.map TypeDef.naming
  methods := module.methods.map MethodDef.naming
  fields := module.fields.map FieldDef.naming

/-- Whether a reference is for the simple name of the member, and for its signature if it is a
method. -/
def answers (module : Module) (ref : MemberRef) : MemberId → Bool
  | .type _ => false
  | .method id =>
    ref.kind = .method && (module.methods[id.index]?).any fun method =>
      method.name = ref.name && method.signature = ref.signature
  | .field id =>
    ref.kind = .field && (module.fields[id.index]?).any fun field => field.name = ref.name

/-- The member that a reference denotes: in the first type of the name, the first member to which it
is. -/
def denoted? (module : Module) (ref : MemberRef) : Option MemberId :=
  (module.findType? ref.declaringType).bind fun owner =>
    (module.membersOf owner).find? (module.answers ref)

variable {module after : Module} {ref : MemberRef} {owner : TypeId} {member : MemberId}

theorem findType?_eq_some_iff {name : String} :
    module.findType? name = some owner ↔
      owner.index < module.types.length ∧ module.typeName owner = name ∧
        ∀ other : TypeId, other.index < owner.index → module.typeName other ≠ name := by
  obtain ⟨index⟩ := owner
  rw [findType?, List.find?_map, Option.map_eq_some_iff]
  simp only [TypeId.mk.injEq, exists_eq_right, List.find?_range_eq_some, Function.comp_apply,
    decide_eq_true_eq, Bool.not_eq_true', decide_eq_false_iff_not, List.mem_range]
  constructor
  · rintro ⟨named, known, first⟩
    exact ⟨known, named, fun other before => first other.index before⟩
  · rintro ⟨known, named, first⟩
    exact ⟨named, known, fun other before => first ⟨other⟩ before⟩

theorem nameWithin_naming (module : Module) (depth : Nat) (id : TypeId) :
    module.naming.nameWithin depth id = module.nameWithin depth id := by
  induction depth generalizing id with
  | zero => rfl
  | succ depth ih =>
    have same : module.naming.nameWithin depth = module.nameWithin depth := funext ih
    rw [nameWithin, nameWithin, same, naming, List.getElem?_map]
    cases module.types[id.index]? <;> rfl

theorem typeName_naming (module : Module) (id : TypeId) :
    module.naming.typeName id = module.typeName id := by
  rw [typeName, nameWithin_naming, naming, List.length_map, typeName]

theorem findType?_naming (module : Module) (name : String) :
    module.naming.findType? name = module.findType? name := by
  have count : module.naming.types.length = module.types.length := List.length_map _
  simp only [findType?, typeName_naming, count]

theorem membersOf_naming (module : Module) (id : TypeId) :
    module.naming.membersOf id = module.membersOf id := by
  rw [membersOf, membersOf, fieldsOf, fieldsOf, methodsOf, methodsOf, naming, List.getElem?_map]
  cases module.types[id.index]? <;> rfl

theorem answers_naming (module : Module) (ref : MemberRef) :
    module.naming.answers ref = module.answers ref := by
  funext member
  cases member with
  | type id => rfl
  | method id =>
    rw [answers, answers, naming, List.getElem?_map, Option.any_map]
    rfl
  | field id =>
    rw [answers, answers, naming, List.getElem?_map, Option.any_map]
    rfl

theorem denoted?_naming (module : Module) (ref : MemberRef) :
    module.naming.denoted? ref = module.denoted? ref := by
  simp only [denoted?, findType?_naming, membersOf_naming, answers_naming]

theorem naming_withMethod (module : Module) (id : MethodId) {change : MethodDef → MethodDef}
    (kept : ∀ method, (change method).naming = method.naming) :
    (module.withMethod id change).naming = module.naming := by
  rw [naming, withMethod, map_modify_of_same _ _ fun method _ => kept method]
  rfl

theorem naming_editBody (module : Module) (id : MethodId) (edit : Edit Body Nat) :
    ((editBody id edit).apply module).2.naming = module.naming := by
  rw [apply_editBody]
  cases module.bodyOf? id with
  | none => rfl
  | some body => exact naming_withMethod module id fun _ => rfl

theorem naming_changeInfo (module : Module) (member : MemberId) {change : MemberInfo → MemberInfo}
    (kept : ∀ info, (change info).name = info.name) :
    ((changeInfo member change).apply module).2.naming = module.naming := by
  cases member with
  | type id =>
    rw [changeInfo, apply_changeType, naming, withType,
      map_modify_of_same _ _ fun type _ => by simp [TypeDef.naming, kept]]
    rfl
  | method id =>
    rw [changeInfo, apply_changeMethod]
    exact naming_withMethod module id fun method => by simp [MethodDef.naming, kept]
  | field id =>
    rw [changeInfo, apply_changeField, naming, withField,
      map_modify_of_same _ _ fun field _ => by simp [FieldDef.naming, kept]]
    rfl

/-- Another name is seen, and nothing else of a renaming. -/
theorem naming_rename (module : Module) (member : MemberId) (name : String) :
    ((rename member name).apply module).2.naming =
      ((rename member name).apply module.naming).2 := by
  cases member with
  | type id =>
    have renamed : (module.types.modify id.index fun type => { type with name }).map TypeDef.naming =
        (module.types.map TypeDef.naming).modify id.index fun type => { type with name } :=
      map_modify _ _ fun _ _ => rfl
    rw [rename, changeInfo, apply_changeType, apply_changeType]
    exact congrArg (fun types => { module.naming with types }) renamed
  | method id =>
    have renamed : (module.methods.modify id.index fun method => { method with name }).map
          MethodDef.naming =
        (module.methods.map MethodDef.naming).modify id.index fun method => { method with name } :=
      map_modify _ _ fun _ _ => rfl
    rw [rename, changeInfo, apply_changeMethod, apply_changeMethod]
    exact congrArg (fun methods => { module.naming with methods }) renamed
  | field id =>
    have renamed : (module.fields.modify id.index fun field => { field with name }).map
          FieldDef.naming =
        (module.fields.map FieldDef.naming).modify id.index fun field => { field with name } :=
      map_modify _ _ fun _ _ => rfl
    rw [rename, changeInfo, apply_changeField, apply_changeField]
    exact congrArg (fun fields => { module.naming with fields }) renamed

theorem naming_rename_congr (same : after.naming = module.naming) (member : MemberId)
    (name : String) :
    ((rename member name).apply after).2.naming = ((rename member name).apply module).2.naming := by
  rw [naming_rename, same, ← naming_rename]

/-- Of the wishes that are met only those for names are seen. -/
theorem naming_meeting_congr {wishes others : Wishes} (same : wishes.newName? = others.newName?)
    (emptied gone : List MemberId) :
    (module.meeting wishes emptied).naming = (module.meeting others gone).naming := by
  simp only [naming, meeting, withMembers, same]
  congr 1 <;> exact map_mapIdx_congr fun _ _ => rfl

theorem find?_eq_some_iff_takeWhile [DecidableEq α] {items : List α} {accepts : α → Bool}
    {found : α} :
    items.find? accepts = some found ↔ found ∈ items ∧ accepts found = true ∧
      ∀ other ∈ items.takeWhile (· ≠ found), accepts other = false := by
  induction items with
  | nil => simp
  | cons first rest ih =>
    rw [List.find?_cons, List.takeWhile_cons]
    by_cases same : first = found
    · subst same
      cases accepted : accepts first with
      | true => simp
      | false => simpa using fun finds => by simpa [accepted] using List.find?_some finds
    · have apart : found ≠ first := Ne.symm same
      cases accepted : accepts first <;> simp [same, apart, accepted, ih]

/-- No member belongs to two types. -/
theorem Forest.owner_unique (forest : module.Forest) {other : TypeId}
    (known : owner.index < module.types.length) (otherKnown : other.index < module.types.length)
    (held : member ∈ module.membersOf owner) (heldToo : member ∈ module.membersOf other) :
    other = owner := by
  have once : (module.typeIds.flatMap module.membersOf).Nodup :=
    (forest.perm_membersAlong (.refl _)).nodup_iff.2 module.nodup_members
  by_contra apart
  have symmetric : Std.Symm (Function.onFun List.Disjoint module.membersOf) :=
    ⟨fun _ _ disjoint => List.disjoint_symm disjoint⟩
  have disjoint := (List.nodup_flatMap.1 once).2.forall (mem_typeIds.2 known)
    (mem_typeIds.2 otherKnown) (Ne.symm apart)
  exact disjoint held heldToo

/-- Where each type holds what it held, a reference denotes the same member as before if and only if
the type of the member and the member still go by its names, and nothing in front of them does. -/
theorem Forest.denoted?_eq_some_iff (forest : module.Forest)
    (parts : after.types.map TypeDef.parts = module.types.map TypeDef.parts)
    (found : module.findType? ref.declaringType = some owner)
    (held : member ∈ module.membersOf owner) :
    after.denoted? ref = some member ↔
      after.typeName owner = ref.declaringType ∧
      (∀ other : TypeId, other.index < owner.index → after.typeName other ≠ ref.declaringType) ∧
      after.answers ref member = true ∧
      ∀ other ∈ (module.membersOf owner).takeWhile (· ≠ member), after.answers ref other = false := by
  have known := (findType?_eq_some_iff.1 found).1
  have count : after.types.length = module.types.length := by simpa using congrArg List.length parts
  rw [denoted?, Option.bind_eq_some_iff]
  constructor
  · rintro ⟨other, foundToo, first⟩
    obtain ⟨otherKnown, named, before⟩ := findType?_eq_some_iff.1 foundToo
    rw [membersOf_of_parts parts] at first
    obtain ⟨heldToo, answers, front⟩ := find?_eq_some_iff_takeWhile.1 first
    obtain rfl := forest.owner_unique known (count ▸ otherKnown) held heldToo
    exact ⟨named, before, answers, front⟩
  · rintro ⟨named, before, answers, front⟩
    refine ⟨owner, findType?_eq_some_iff.2 ⟨count ▸ known, named, before⟩, ?_⟩
    rw [membersOf_of_parts parts]
    exact find?_eq_some_iff_takeWhile.2 ⟨held, answers, front⟩

end Module
end Retrofit

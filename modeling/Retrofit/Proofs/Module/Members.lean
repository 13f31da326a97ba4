import Retrofit.Proofs.Edit
import Retrofit.Proofs.Module.Bodies
import Retrofit.Proofs.Modification

/-!
The members of a module: what each holds and which requests it carries, and which edits leave that
alone.
-/

namespace Retrofit

/-- What a type holds: its fields, its methods and the types nested in it. -/
def TypeDef.parts (type : TypeDef) : List FieldId × List MethodId × List TypeId :=
  (type.fields, type.methods, type.nested)

namespace Module

/-- Two modules whose types hold the same members, each with the same requests. -/
structure SameMembers (module after : Module) : Prop where
  parts : after.types.map TypeDef.parts = module.types.map TypeDef.parts
  requests : ∀ member, after.requests member = module.requests member

variable {module after later : Module}

theorem SameMembers.refl (module : Module) : module.SameMembers module := ⟨rfl, fun _ => rfl⟩

theorem SameMembers.trans (first : module.SameMembers after) (second : after.SameMembers later) :
    module.SameMembers later where
  parts := second.parts.trans first.parts
  requests member := (second.requests member).trans (first.requests member)

theorem typeAt_withType (module : Module) (changed id : TypeId) (change : TypeDef → TypeDef) :
    (module.withType changed change).typeAt id =
      (module.typeAt id).map fun type => if id = changed then change type else type := by
  have same : changed.index = id.index ↔ id = changed :=
    ⟨fun equal => congrArg TypeId.mk equal.symm, fun equal => congrArg TypeId.index equal.symm⟩
  rw [typeAt, typeAt, withType, List.getElem?_modify]
  simp only [same]
  cases module.types[id.index]? <;> rfl

theorem methodAt_withMethod (module : Module) (changed id : MethodId)
    (change : MethodDef → MethodDef) :
    (module.withMethod changed change).methodAt id =
      (module.methodAt id).map fun method => if id = changed then change method else method := by
  have same : changed.index = id.index ↔ id = changed :=
    ⟨fun equal => congrArg MethodId.mk equal.symm, fun equal => congrArg MethodId.index equal.symm⟩
  rw [methodAt, methodAt, withMethod, List.getElem?_modify]
  simp only [same]
  cases module.methods[id.index]? <;> rfl

theorem fieldAt_withField (module : Module) (changed id : FieldId) (change : FieldDef → FieldDef) :
    (module.withField changed change).fieldAt id =
      (module.fieldAt id).map fun field => if id = changed then change field else field := by
  have same : changed.index = id.index ↔ id = changed :=
    ⟨fun equal => congrArg FieldId.mk equal.symm, fun equal => congrArg FieldId.index equal.symm⟩
  rw [fieldAt, fieldAt, withField, List.getElem?_modify]
  simp only [same]
  cases module.fields[id.index]? <;> rfl

theorem apply_changeType (module : Module) (id : TypeId) (change : TypeDef → TypeDef) :
    (changeType id change).apply module =
      ((module.typeAt id).map fun _ => (), module.withType id change) := by
  rw [changeType, Edit.apply_bind]
  simp only [Edit.apply_get]
  rw [Edit.apply_bind]
  simp only [Edit.apply_demand]
  cases found : module.types[id.index]? with
  | some type => simp only [typeAt, found]; rfl
  | none =>
    rw [List.getElem?_eq_none_iff] at found
    simp only [typeAt, List.getElem?_eq_none found, withType, List.modify_eq_self found]
    rfl

theorem apply_changeMethod (module : Module) (id : MethodId) (change : MethodDef → MethodDef) :
    (changeMethod id change).apply module =
      ((module.methodAt id).map fun _ => (), module.withMethod id change) := by
  rw [changeMethod, Edit.apply_bind]
  simp only [Edit.apply_get]
  rw [Edit.apply_bind]
  simp only [Edit.apply_demand]
  cases found : module.methods[id.index]? with
  | some method => simp only [methodAt, found]; rfl
  | none =>
    rw [List.getElem?_eq_none_iff] at found
    simp only [methodAt, List.getElem?_eq_none found, withMethod, List.modify_eq_self found]
    rfl

theorem apply_changeField (module : Module) (id : FieldId) (change : FieldDef → FieldDef) :
    (changeField id change).apply module =
      ((module.fieldAt id).map fun _ => (), module.withField id change) := by
  rw [changeField, Edit.apply_bind]
  simp only [Edit.apply_get]
  rw [Edit.apply_bind]
  simp only [Edit.apply_demand]
  cases found : module.fields[id.index]? with
  | some field => simp only [fieldAt, found]; rfl
  | none =>
    rw [List.getElem?_eq_none_iff] at found
    simp only [fieldAt, List.getElem?_eq_none found, withField, List.modify_eq_self found]
    rfl

private theorem map_of_same (outcome : Except PatchError α) {f : α → α} (same : ∀ item, f item = item) :
    outcome.map f = outcome := by
  cases outcome with
  | error fault => rfl
  | ok item => exact congrArg Except.ok (same item)

theorem info_changeInfo (module : Module) (changed : MemberId) (change : MemberInfo → MemberInfo)
    (member : MemberId) :
    ((changeInfo changed change).apply module).2.info member =
      (module.info member).map fun info => if member = changed then change info else info := by
  cases changed with
  | type id =>
    rw [changeInfo, apply_changeType]
    cases member with
    | type other =>
      simp only [info, typeAt_withType]
      cases module.typeAt other with
      | error fault => rfl
      | ok type => by_cases same : other = id <;> simp [Except.map, same]
    | method other => exact (map_of_same _ (by simp)).symm
    | field other => exact (map_of_same _ (by simp)).symm
  | method id =>
    rw [changeInfo, apply_changeMethod]
    cases member with
    | method other =>
      simp only [info, methodAt_withMethod]
      cases module.methodAt other with
      | error fault => rfl
      | ok method => by_cases same : other = id <;> simp [Except.map, same]
    | type other => exact (map_of_same _ (by simp)).symm
    | field other => exact (map_of_same _ (by simp)).symm
  | field id =>
    rw [changeInfo, apply_changeField]
    cases member with
    | field other =>
      simp only [info, fieldAt_withField]
      cases module.fieldAt other with
      | error fault => rfl
      | ok field => by_cases same : other = id <;> simp [Except.map, same]
    | type other => exact (map_of_same _ (by simp)).symm
    | method other => exact (map_of_same _ (by simp)).symm

theorem changeInfo_eq_ok {module after : Module} {changed : MemberId}
    {change : MemberInfo → MemberInfo} :
    (changeInfo changed change).apply module = (.ok (), after) ↔
      (∃ info, module.info changed = .ok info) ∧
        after = ((changeInfo changed change).apply module).2 := by
  have outcome : ((changeInfo changed change).apply module).1 =
      (module.info changed).map fun _ => () := by
    cases changed with
    | type id => rw [changeInfo, apply_changeType, info]; cases module.typeAt id <;> rfl
    | method id => rw [changeInfo, apply_changeMethod, info]; cases module.methodAt id <;> rfl
    | field id => rw [changeInfo, apply_changeField, info]; cases module.fieldAt id <;> rfl
  rw [Prod.ext_iff, outcome]
  cases module.info changed with
  | error fault => simp [Except.map]
  | ok info => simp [Except.map, eq_comm]

/-- What members have in common does not touch what types hold. -/
theorem parts_changeInfo (module : Module) (changed : MemberId) (change : MemberInfo → MemberInfo) :
    ((changeInfo changed change).apply module).2.types.map TypeDef.parts =
      module.types.map TypeDef.parts := by
  cases changed with
  | type id =>
    rw [changeInfo, apply_changeType, withType]
    exact map_modify_of_same _ _ fun _ _ => rfl
  | method id => rw [changeInfo, apply_changeMethod]; rfl
  | field id => rw [changeInfo, apply_changeField]; rfl

theorem sameMembers_changeInfo (module : Module) (changed : MemberId)
    {change : MemberInfo → MemberInfo} (kept : ∀ info, (change info).requests = info.requests) :
    module.SameMembers ((changeInfo changed change).apply module).2 where
  parts := parts_changeInfo module changed change
  requests member := by
    rw [requests, requests, info_changeInfo]
    cases module.info member with
    | error fault => rfl
    | ok info => by_cases same : member = changed <;> simp [Except.map, same, kept]

/-- Dropping the requests of one member leaves the others. -/
theorem requests_dropRequests (module : Module) (dropped member : MemberId) :
    ((dropRequests dropped).apply module).2.requests member =
      (module.requests member).map fun requests => if member = dropped then [] else requests := by
  rw [dropRequests, requests, requests, info_changeInfo]
  cases module.info member with
  | error fault => rfl
  | ok info => by_cases same : member = dropped <;> simp [Except.map, same]

theorem sameMembers_withMethod (module : Module) (changed : MethodId)
    {change : MethodDef → MethodDef}
    (kept : ∀ method, (change method).requests = method.requests) :
    module.SameMembers (module.withMethod changed change) where
  parts := rfl
  requests member := by
    cases member with
    | type id => rfl
    | field id => rfl
    | method id =>
      simp only [requests, info, methodAt_withMethod]
      cases module.methodAt id with
      | error fault => rfl
      | ok method => by_cases same : id = changed <;> simp [Except.map, same, kept]

theorem sameMembers_editBody (module : Module) (id : MethodId) (edit : Edit Body Nat) :
    module.SameMembers ((editBody id edit).apply module).2 := by
  rw [apply_editBody]
  cases module.bodyOf? id with
  | none => exact .refl module
  | some body => exact sameMembers_withMethod module id fun _ => rfl

theorem sameMembers_of_same (types : after.types = module.types)
    (methods : after.methods = module.methods) (fields : after.fields = module.fields) :
    module.SameMembers after where
  parts := by rw [types]
  requests member := by
    cases member <;> simp only [requests, info, typeAt, methodAt, fieldAt, types, methods, fields]

/-- The edit neither reads nor changes the members. -/
def IgnoresMembers (edit : Edit Module α) : Prop :=
  ∀ (module : Module) (types : List TypeDef) (methods : List MethodDef) (fields : List FieldDef),
    edit.apply { module with types, methods, fields } =
      ((edit.apply module).1, { (edit.apply module).2 with types, methods, fields })

theorem IgnoresMembers.after_eq {edit : Edit Module α} (ignores : IgnoresMembers edit)
    (module : Module) : (edit.apply module).2 =
      { (edit.apply module).2 with
        types := module.types, methods := module.methods, fields := module.fields } :=
  congrArg Prod.snd (ignores module module.types module.methods module.fields)

end Module
end Retrofit

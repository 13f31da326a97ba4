import Retrofit.Proofs.Module.Wishes
import Retrofit.Proofs.Rule.Declaration

/-!
The module to which wishes lead: the one with the entry point, the names and the flags for which they
ask. What the rules for declarations do to it is to meet one more wish.
-/

namespace Retrofit.Module

/-- The module with other data of its members: what all members have in common, and flags of methods.
-/
def withMembers (module : Module) (infos : MemberId → MemberInfo → MemberInfo)
    (flags : MethodId → MethodFlags → MethodFlags) : Module :=
  { module with
    types := module.types.mapIdx fun index type =>
      { type with toMemberInfo := infos (.type ⟨index⟩) type.toMemberInfo }
    methods := module.methods.mapIdx fun index method =>
      { method with
        toMemberInfo := infos (.method ⟨index⟩) method.toMemberInfo
        flags := flags ⟨index⟩ method.flags }
    fields := module.fields.mapIdx fun index field =>
      { field with toMemberInfo := infos (.field ⟨index⟩) field.toMemberInfo } }

variable {infos others : MemberId → MemberInfo → MemberInfo}
  {flags otherFlags : MethodId → MethodFlags → MethodFlags}

theorem info_withMembers (module : Module) (infos : MemberId → MemberInfo → MemberInfo)
    (flags : MethodId → MethodFlags → MethodFlags) (member : MemberId) :
    (module.withMembers infos flags).info member = (module.info member).map (infos member) := by
  cases member with
  | type id =>
    rw [info, info, typeAt, typeAt, withMembers, List.getElem?_mapIdx]
    cases module.types[id.index]? <;> rfl
  | method id =>
    rw [info, info, methodAt, methodAt, withMembers, List.getElem?_mapIdx]
    cases module.methods[id.index]? <;> rfl
  | field id =>
    rw [info, info, fieldAt, fieldAt, withMembers, List.getElem?_mapIdx]
    cases module.fields[id.index]? <;> rfl

theorem parts_withMembers (module : Module) (infos : MemberId → MemberInfo → MemberInfo)
    (flags : MethodId → MethodFlags → MethodFlags) :
    (module.withMembers infos flags).types.map TypeDef.parts = module.types.map TypeDef.parts := by
  apply List.ext_getElem?
  intro place
  rw [withMembers, List.getElem?_map, List.getElem?_map, List.getElem?_mapIdx, Option.map_map]
  rfl

theorem changeInfo_withMembers (module : Module) (infos : MemberId → MemberInfo → MemberInfo)
    (flags : MethodId → MethodFlags → MethodFlags) (changed : MemberId)
    (change : MemberInfo → MemberInfo) :
    ((changeInfo changed change).apply (module.withMembers infos flags)).2 =
      module.withMembers
        (fun member info => if member = changed then change (infos member info) else infos member info)
        flags := by
  cases changed with
  | type id =>
    obtain ⟨index⟩ := id
    rw [changeInfo, apply_changeType]
    simp only [withMembers, withType, modify_mapIdx, MemberId.type.injEq, TypeId.mk.injEq,
      reduceCtorEq, if_false]
    congr
    funext place type
    split <;> rfl
  | method id =>
    obtain ⟨index⟩ := id
    rw [changeInfo, apply_changeMethod]
    simp only [withMembers, withMethod, modify_mapIdx, MemberId.method.injEq, MethodId.mk.injEq,
      reduceCtorEq, if_false]
    congr
    funext place method
    split <;> rfl
  | field id =>
    obtain ⟨index⟩ := id
    rw [changeInfo, apply_changeField]
    simp only [withMembers, withField, modify_mapIdx, MemberId.field.injEq, FieldId.mk.injEq,
      reduceCtorEq, if_false]
    congr
    funext place field
    split <;> rfl

theorem withMembers_congr {module : Module}
    (same : ∀ member info, module.info member = .ok info → infos member info = others member info) :
    module.withMembers infos flags = module.withMembers others flags := by
  have types := mapIdx_congr fun index type (found : module.types[index]? = some type) =>
    congrArg (fun info => { type with toMemberInfo := info })
      (same (.type ⟨index⟩) type.toMemberInfo (by rw [info, typeAt, found]; rfl))
  have methods := mapIdx_congr fun index method (found : module.methods[index]? = some method) =>
    congrArg
      (fun info => { method with toMemberInfo := info, flags := flags ⟨index⟩ method.flags })
      (same (.method ⟨index⟩) method.toMemberInfo (by rw [info, methodAt, found]; rfl))
  have fields := mapIdx_congr fun index field (found : module.fields[index]? = some field) =>
    congrArg (fun info => { field with toMemberInfo := info })
      (same (.field ⟨index⟩) field.toMemberInfo (by rw [info, fieldAt, found]; rfl))
  simp only [withMembers, types, methods, fields]

theorem withMembers_same (module : Module) :
    module.withMembers (fun _ info => info) (fun _ flags => flags) = module := by
  simp only [withMembers, mapIdx_same]

theorem info_withEntryPoint (module : Module) (entryPoint : Option MethodId) (member : MemberId) :
    { module with entryPoint }.info member = module.info member := by
  cases member <;> rfl

/-- The member is one of the module. -/
def Has (module : Module) (member : MemberId) : Prop := ∃ info, module.info member = .ok info

private theorem ok_of_map_ok {outcome : Except PatchError α} {f : α → β} {value : β}
    (mapped : outcome.map f = .ok value) : ∃ item, outcome = .ok item := by
  cases outcome with
  | error error => cases mapped
  | ok item => exact ⟨item, rfl⟩

theorem Has.method {module : Module} {id : MethodId} (has : module.Has (.method id)) :
    ∃ method, module.methodAt id = .ok method :=
  has.elim fun _ found => ok_of_map_ok found

theorem Has.type {module : Module} {id : TypeId} (has : module.Has (.type id)) :
    ∃ type, module.typeAt id = .ok type :=
  has.elim fun _ found => ok_of_map_ok found

/-- The module of which some wishes have been met, while some members carry no requests any more. -/
def meeting (module : Module) (wishes : Wishes) (emptied : List MemberId) : Module :=
  { module with entryPoint := wishes.entryPoint?.or module.entryPoint }.withMembers
    (fun member info =>
      { info with
        name := (wishes.newName? member).getD info.name
        requests := if member ∈ emptied then [] else info.requests })
    (fun id flags => if wishes.implements id then flags.asImplementation else flags)

variable {module : Module} {wishes : Wishes} {emptied : List MemberId} {member : MemberId}
  {request : Request} {id : MethodId} {name : String}

theorem info_meeting (module : Module) (wishes : Wishes) (emptied : List MemberId)
    (member : MemberId) : (module.meeting wishes emptied).info member =
      (module.info member).map fun info =>
        { info with
          name := (wishes.newName? member).getD info.name
          requests := if member ∈ emptied then [] else info.requests } := by
  rw [meeting, info_withMembers, info_withEntryPoint]

theorem Has.meeting (has : module.Has member) (wishes : Wishes) (emptied : List MemberId) :
    (module.meeting wishes emptied).Has member := by
  obtain ⟨info, found⟩ := has
  exact ⟨_, by rw [info_meeting, found]; rfl⟩

theorem meeting_nil (module : Module) : module.meeting [] [] = module := by
  have named : Wishes.newName? [] = fun _ => none := rfl
  have entered : Wishes.entryPoint? [] = none := rfl
  have implementing : Wishes.implements [] = fun _ => false := rfl
  simp only [meeting, named, entered, implementing]
  exact module.withMembers_same

theorem meeting_name (asks : request.newName? = some name)
    (agrees : ∀ old, wishes.newName? member = some old → old = name) :
    ((rename member name).apply (module.meeting wishes emptied)).2 =
      module.meeting (wishes ++ [(member, request)]) emptied := by
  have renames := (Request.newName?_eq_some_iff.1 asks).1
  have notEntry : request.rule ≠ "MakeEntryPoint" := by simp [renames]
  have notInterface : request.rule ≠ "PatchInterface" := by simp [renames]
  have entered := wishes.entryPoint?_concat_of_ne member notEntry
  have implementing := wishes.implements_concat_of_ne member notInterface
  rw [rename, meeting, changeInfo_withMembers, meeting, entered, implementing]
  congr
  funext other info
  rw [Wishes.newName?_concat, asks]
  by_cases same : other = member
  · subst same
    cases held : wishes.newName? other with
    | none => simp
    | some old => simp [agrees old held]
  · simp [same, Ne.symm same]

end Retrofit.Module

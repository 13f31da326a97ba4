import Retrofit.Module.Names
import Retrofit.Proofs.Module.Members

/-!
Outlines: what a module is apart from the bodies of its methods. Names, members and requests are all
read off the outline.
-/

namespace Retrofit

/-- The method without its body. -/
def MethodDef.declared (method : MethodDef) : MethodDef := { method with body := none }

namespace Module

/-- The module without bodies. -/
def outline (module : Module) : Module :=
  { module with methods := module.methods.map MethodDef.declared }

variable {module after : Module}

theorem methodAt_outline (module : Module) (id : MethodId) :
    module.outline.methodAt id = (module.methodAt id).map MethodDef.declared := by
  rw [methodAt, methodAt, outline, List.getElem?_map]
  cases module.methods[id.index]? <;> rfl

theorem info_outline (module : Module) (member : MemberId) :
    module.outline.info member = module.info member := by
  cases member with
  | type id => rfl
  | field id => rfl
  | method id =>
    rw [info, info, methodAt_outline]
    cases module.methodAt id <;> rfl

theorem requests_outline (module : Module) (member : MemberId) :
    module.outline.requests member = module.requests member := by
  rw [requests, requests, info_outline]

theorem subtree_outline (module : Module) (depth : Nat) (id : TypeId) :
    module.outline.subtree depth id = module.subtree depth id := by
  induction depth generalizing id with
  | zero => rfl
  | succ depth ih =>
    have same : module.outline.subtree depth = module.subtree depth := funext ih
    rw [subtree, subtree, same]
    rfl

theorem typesInOrder_outline (module : Module) :
    module.outline.typesInOrder = module.typesInOrder := by
  have same : module.outline.subtree = module.subtree :=
    funext fun depth => funext (subtree_outline module depth)
  rw [typesInOrder, same]
  rfl

theorem nameWithin_of_types (types : after.types = module.types) (depth : Nat) (id : TypeId) :
    after.nameWithin depth id = module.nameWithin depth id := by
  induction depth generalizing id with
  | zero => rfl
  | succ depth ih =>
    have same : after.nameWithin depth = module.nameWithin depth := funext ih
    rw [nameWithin, nameWithin, same, types]

theorem typeName_of_types (types : after.types = module.types) (id : TypeId) :
    after.typeName id = module.typeName id := by
  rw [typeName, typeName, types, nameWithin_of_types types]

theorem findType?_of_types (types : after.types = module.types) (name : String) :
    after.findType? name = module.findType? name := by
  simp only [findType?, types, typeName_of_types types]

theorem typeName_outline (module : Module) (id : TypeId) :
    module.outline.typeName id = module.typeName id := by
  have types : module.outline.types = module.types := rfl
  exact typeName_of_types types id

theorem methodName_outline (module : Module) (id : MethodId) :
    module.outline.methodName id = module.methodName id := by
  have named := typeName_outline module
  have listed : module.outline.methods[id.index]? =
      (module.methods[id.index]?).map MethodDef.declared := List.getElem?_map
  rw [methodName, methodName, listed]
  cases module.methods[id.index]? with
  | none => rfl
  | some method => exact congrArg (· ++ "::" ++ method.name) (named method.declaringType)

theorem nameOf_outline (module : Module) (member : MemberId) :
    module.outline.nameOf member = module.nameOf member := by
  cases member with
  | type id => exact typeName_outline module id
  | method id => exact methodName_outline module id
  | field id => simp only [nameOf, fieldName, typeName_outline]; rfl

theorem findType?_outline (module : Module) (name : String) :
    module.outline.findType? name = module.findType? name := by
  have types : module.outline.types = module.types := rfl
  exact findType?_of_types types name

theorem findMethod?_outline (module : Module) (owner : TypeId) (text : String) :
    module.outline.findMethod? owner text = module.findMethod? owner text := by
  have named (id : MethodId) :
      (module.outline.methods[id.index]?).any (fun method => method.isNamed text) =
        (module.methods[id.index]?).any fun method => method.isNamed text := by
    rw [outline, List.getElem?_map, Option.any_map]
    rfl
  simp only [findMethod?, named]
  rfl

theorem methodNamed_outline (module : Module) (qualified : String) :
    module.outline.methodNamed qualified = module.methodNamed qualified := by
  have finds : module.outline.findMethod? = module.findMethod? :=
    funext fun owner => funext (findMethod?_outline module owner)
  simp only [methodNamed, resolve, finds, findType?_outline]

theorem refToMethod_outline (module : Module) (id : MethodId) :
    module.outline.refToMethod id = module.refToMethod id := by
  rw [refToMethod, methodAt_outline, refToMethod]
  simp only [typeName_outline]
  cases module.methodAt id <;> rfl

theorem refToField_outline (module : Module) (id : FieldId) :
    module.outline.refToField id = module.refToField id := by
  simp only [refToField, typeName_outline]
  rfl

theorem outline_withMethod (module : Module) (changed : MethodId) {change : MethodDef → MethodDef}
    (kept : ∀ method, (change method).declared = method.declared) :
    (module.withMethod changed change).outline = module.outline := by
  have same : (module.methods.modify changed.index change).map MethodDef.declared =
      module.methods.map MethodDef.declared :=
    map_modify_of_same _ _ fun method _ => kept method
  rw [outline, withMethod, same]
  rfl

end Module
end Retrofit

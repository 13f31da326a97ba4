import Retrofit.Proofs.Module.Nesting
import Retrofit.Proofs.Pass.BuiltIn
import Retrofit.Proofs.Rule.Declaration

/-!
The tree of members that a run walks: it depends on what types hold and on which types are at the
top, and neither a rule nor a pass changes any of that.
-/

namespace Retrofit

namespace Module

/-- Two modules with the same members in the same places, each with the same requests. -/
structure SameTree (module after : Module) : Prop extends SameMembers module after where
  topLevel : after.topLevel = module.topLevel

variable {module after later : Module}

theorem SameTree.refl (module : Module) : module.SameTree module := ⟨.refl module, rfl⟩

theorem SameTree.trans (first : module.SameTree after) (second : after.SameTree later) :
    module.SameTree later :=
  ⟨first.toSameMembers.trans second.toSameMembers, second.topLevel.trans first.topLevel⟩

section Parts

variable (parts : after.types.map TypeDef.parts = module.types.map TypeDef.parts)

include parts

theorem parts_getElem? (id : TypeId) :
    after.types[id.index]?.map TypeDef.parts = module.types[id.index]?.map TypeDef.parts := by
  rw [← List.getElem?_map, ← List.getElem?_map, parts]

theorem nestedIn_of_parts (id : TypeId) : after.nestedIn id = module.nestedIn id := by
  have whole (module : Module) : module.nestedIn id =
      ((module.types[id.index]?.map TypeDef.parts).map fun parts => parts.2.2).getD [] := by
    rw [Option.map_map]
    rfl
  rw [whole, whole, parts_getElem? parts]

theorem subtree_of_parts (depth : Nat) (id : TypeId) :
    after.subtree depth id = module.subtree depth id := by
  induction depth generalizing id with
  | zero => rfl
  | succ depth ih =>
    have same : after.subtree depth = module.subtree depth := funext ih
    rw [subtree, subtree, same, nestedIn_of_parts parts]

theorem typesInOrder_of_parts (topLevel : after.topLevel = module.topLevel) :
    after.typesInOrder = module.typesInOrder := by
  have count : after.types.length = module.types.length := by
    simpa using congrArg List.length parts
  have same : after.subtree = module.subtree :=
    funext fun depth => funext (subtree_of_parts parts depth)
  rw [typesInOrder, typesInOrder, topLevel, count, same]

theorem membersOf_of_parts (id : TypeId) : after.membersOf id = module.membersOf id := by
  have fields (module : Module) : module.fieldsOf id =
      ((module.types[id.index]?.map TypeDef.parts).map fun parts => parts.1).getD [] := by
    rw [Option.map_map]
    rfl
  have methods (module : Module) : module.methodsOf id =
      ((module.types[id.index]?.map TypeDef.parts).map fun parts => parts.2.1).getD [] := by
    rw [Option.map_map]
    rfl
  rw [membersOf, membersOf, fields, fields, methods, methods, parts_getElem? parts]

end Parts

theorem SameTree.membersAlong_eq (same : module.SameTree after) :
    after.membersAlong after.typesInOrder = module.membersAlong module.typesInOrder := by
  rw [typesInOrder_of_parts same.parts same.topLevel]
  exact List.flatMap_congr fun id _ => membersOf_of_parts same.parts id

theorem topLevel_changeInfo (module : Module) (member : MemberId)
    (change : MemberInfo → MemberInfo) :
    ((changeInfo member change).apply module).2.topLevel = module.topLevel := by
  cases member with
  | type id => rw [changeInfo, apply_changeType]; rfl
  | method id => rw [changeInfo, apply_changeMethod]; rfl
  | field id => rw [changeInfo, apply_changeField]; rfl

theorem sameTree_withMethod (module : Module) (id : MethodId) {change : MethodDef → MethodDef}
    (kept : ∀ method, (change method).requests = method.requests) :
    module.SameTree (module.withMethod id change) :=
  ⟨sameMembers_withMethod module id kept, rfl⟩

theorem sameTree_editBody (module : Module) (id : MethodId) (edit : Edit Body Nat) :
    module.SameTree ((editBody id edit).apply module).2 := by
  rw [apply_editBody]
  cases module.bodyOf? id with
  | none => exact .refl module
  | some body => exact sameTree_withMethod module id fun _ => rfl

end Module

namespace Rule

theorem indifferent_sameTree (origin : Module) : Indifferent origin.SameTree where
  entryPoint _ held := held.trans ⟨Module.sameMembers_of_same rfl rfl rfl, rfl⟩
  flags {module} id held := by
    refine held.trans (Module.sameTree_withMethod module id ?_)
    exact fun _ => rfl
  name {module} member _ held := by
    refine held.trans ⟨Module.sameMembers_changeInfo module member ?_, ?_⟩
    · exact fun _ => rfl
    · exact Module.topLevel_changeInfo module member _

end Rule

namespace Pass

/-- Every pass leaves the tree of members as it is. -/
theorem IsBuiltIn.keepsTree {pass : Pass} (builtIn : pass.IsBuiltIn) (config : Config)
    (origin : Module) : (pass.apply config).Keeps origin.SameTree := by
  refine builtIn.preserves config (fun _ _ _ held => ?beside) (fun id _ module held _ _ => ?calls)
    fun id _ _ module held _ _ => ?forms
  case beside => exact held.trans ⟨Module.sameMembers_of_same rfl rfl rfl, rfl⟩
  case calls => exact held.trans (module.sameTree_editBody id _)
  case forms => exact held.trans (module.sameTree_editBody id _)

end Pass
end Retrofit

import Retrofit.Pass.Basic
import Retrofit.Proofs.Edit
import Retrofit.Proofs.Modification

/-!
The bodies of a module, and which edits leave them alone.
-/

namespace Retrofit.Module

/-- The body of a method. -/
def bodyOf? (module : Module) (id : MethodId) : Option Body :=
  (module.methods[id.index]?).bind MethodDef.body

/-- The method has a body with the property. -/
def HoldsAt (property : Body → Prop) (id : MethodId) (module : Module) : Prop :=
  ∃ body, module.bodyOf? id = some body ∧ property body

/-- Two modules with the same bodies. -/
def SameBodies (module after : Module) : Prop := ∀ id, after.bodyOf? id = module.bodyOf? id

variable {module after : Module} {property : Body → Prop} {id : MethodId}

theorem withMethod_of_same {module : Module} {id : MethodId} {change : MethodDef → MethodDef}
    (same : ∀ method, module.methods[id.index]? = some method → change method = method) :
    module.withMethod id change = module := by
  rw [withMethod, modify_of_same module.methods id.index same]

theorem withMethod_withMethod (module : Module) (id : MethodId)
    (change other : MethodDef → MethodDef) :
    (module.withMethod id change).withMethod id other =
      module.withMethod id fun method => other (change method) := by
  rw [withMethod, withMethod, withMethod]
  dsimp only
  rw [List.modify_modify_eq]
  rfl

theorem methodAt_eq_ok {method : MethodDef} (found : module.methodAt id = .ok method) :
    module.methods[id.index]? = some method := by
  unfold methodAt at found
  split at found
  · cases found
    assumption
  · cases found

theorem sameBodies_of_methods (same : after.methods = module.methods) :
    module.SameBodies after := by
  intro id
  rw [bodyOf?, bodyOf?, same]

theorem SameBodies.holdsAt (same : module.SameBodies after) (held : HoldsAt property id module) :
    HoldsAt property id after := by
  obtain ⟨body, found, holds⟩ := held
  exact ⟨body, (same id).trans found, holds⟩

/-- A changed method is the only one whose body can be another. -/
theorem bodyOf?_withMethod (module : Module) (changed : MethodId) (change : MethodDef → MethodDef)
    (id : MethodId) :
    (module.withMethod changed change).bodyOf? id =
      (module.methods[id.index]?).bind fun method =>
        if changed = id then (change method).body else method.body := by
  have same : changed.index = id.index ↔ changed = id :=
    ⟨fun equal => congrArg MethodId.mk equal, fun equal => congrArg MethodId.index equal⟩
  rw [bodyOf?, withMethod, List.getElem?_modify]
  cases module.methods[id.index]? with
  | none => rfl
  | some method => by_cases equal : changed = id <;> simp [same, equal]

theorem sameBodies_withMethod (module : Module) (changed : MethodId)
    {change : MethodDef → MethodDef} (kept : ∀ method, (change method).body = method.body) :
    module.SameBodies (module.withMethod changed change) := by
  intro id
  rw [bodyOf?_withMethod]
  simp only [kept, ite_self]
  rfl

theorem sameBodies_changeMethod (module : Module) (changed : MethodId)
    {change : MethodDef → MethodDef} (kept : ∀ method, (change method).body = method.body) :
    module.SameBodies ((changeMethod changed change).apply module).2 := by
  rw [changeMethod, Edit.apply_bind]
  simp only [Edit.apply_get]
  rw [Edit.apply_bind]
  simp only [Edit.apply_demand]
  cases module.methodAt changed with
  | error => exact fun _ => rfl
  | ok => exact sameBodies_withMethod module changed kept

/-- What members have in common does not touch bodies. -/
theorem sameBodies_changeInfo (module : Module) (member : MemberId)
    (change : MemberInfo → MemberInfo) :
    module.SameBodies ((changeInfo member change).apply module).2 := by
  cases member with
  | type id =>
    rw [changeInfo, changeType, Edit.apply_bind]
    simp only [Edit.apply_get]
    rw [Edit.apply_bind]
    simp only [Edit.apply_demand]
    cases module.typeAt id <;> exact fun _ => rfl
  | method id => exact sameBodies_changeMethod module id fun _ => rfl
  | field id =>
    rw [changeInfo, changeField, Edit.apply_bind]
    simp only [Edit.apply_get]
    rw [Edit.apply_bind]
    simp only [Edit.apply_demand]
    cases module.fieldAt id <;> exact fun _ => rfl

/-- An edit of a body changes just this body, and does nothing where there is none. -/
theorem apply_editBody (module : Module) (id : MethodId) (edit : Edit Body Nat) :
    (editBody id edit).apply module =
      match module.bodyOf? id with
      | none => (.ok 0, module)
      | some body =>
        ((edit.apply body).1,
          module.withMethod id fun method => { method with body := some (edit.apply body).2 }) := by
  rw [editBody, Edit.apply_bind]
  simp only [Edit.apply_get]
  rw [← bodyOf?]
  cases module.bodyOf? id <;> rfl

theorem holdsAt_withBody {old body : Body} (found : module.bodyOf? id = some old)
    (holds : property body) :
    HoldsAt property id (module.withMethod id fun method => { method with body := some body }) := by
  obtain ⟨method, listed, _⟩ := Option.bind_eq_some_iff.1 found
  exact ⟨body, by simp [bodyOf?_withMethod, listed], holds⟩

/-- Another body in some method. If it is the same method, the new body has to have the property. -/
theorem HoldsAt.withBody {edited : MethodId} {body : Body} (held : HoldsAt property id module)
    (holds : edited = id → property body) :
    HoldsAt property id
      (module.withMethod edited fun method => { method with body := some body }) := by
  obtain ⟨old, found, was⟩ := held
  by_cases same : edited = id
  · subst same
    exact holdsAt_withBody found (holds rfl)
  · obtain ⟨method, listed, has⟩ := Option.bind_eq_some_iff.1 found
    exact ⟨old, by simp [bodyOf?_withMethod, listed, same, has], was⟩

/-- An edit that keeps a property of bodies keeps it wherever it holds. -/
theorem keeps_editBody {edit : Edit Body Nat} (kept : edit.Keeps property) (edited : MethodId) :
    (editBody edited edit).Keeps (HoldsAt property id) := by
  intro module held value done
  rw [apply_editBody] at done ⊢
  cases had : module.bodyOf? edited with
  | none => exact held
  | some old =>
    rw [had] at done
    refine held.withBody fun same => ?_
    subst same
    obtain ⟨_, found, holds⟩ := held
    cases had.symm.trans found
    exact kept old holds value done

end Retrofit.Module

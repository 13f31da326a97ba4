import Retrofit.Module.StateMachine
import Retrofit.Proofs.Body.Width
import Retrofit.Proofs.Module.Outline

/-!
Modules up to the width of branches: which bodies have their short branches in the long form makes
no difference to members, and none to where the code of a method is.
-/

namespace Retrofit

/-- The method with every short branch of its body in the long form. -/
def MethodDef.lengthened (method : MethodDef) : MethodDef :=
  { method with body := method.body.map Body.lengthened }

namespace Module

/-- The module with every short branch in its long form. -/
def lengthened (module : Module) : Module :=
  { module with methods := module.methods.map MethodDef.lengthened }

/-- The module with the short branches of the chosen methods in their long form. -/
def lengthenedAt (chosen : MethodId → Bool) (module : Module) : Module :=
  { module with
    methods := module.methods.mapIdx fun index method =>
      if chosen ⟨index⟩ then method.lengthened else method }

variable {chosen later : MethodId → Bool}

theorem eq_of_methods {module after : Module}
    (methods : ∀ id : MethodId, after.methods[id.index]? = module.methods[id.index]?)
    (rest : { after with methods := module.methods } = module) : after = module := by
  have same : after.methods = module.methods := List.ext_getElem? fun index => methods ⟨index⟩
  rw [← rest, ← same]

theorem getElem?_lengthenedAt (chosen : MethodId → Bool) (module : Module) (id : MethodId) :
    (module.lengthenedAt chosen).methods[id.index]? =
      (module.methods[id.index]?).map fun method =>
        if chosen id then method.lengthened else method :=
  List.getElem?_mapIdx

theorem methodAt_lengthenedAt (chosen : MethodId → Bool) (module : Module) (id : MethodId) :
    (module.lengthenedAt chosen).methodAt id =
      (module.methodAt id).map fun method =>
        if chosen id then method.lengthened else method := by
  rw [methodAt, getElem?_lengthenedAt, methodAt]
  cases module.methods[id.index]? <;> rfl

theorem bodyOf?_lengthenedAt (chosen : MethodId → Bool) (module : Module) (id : MethodId) :
    (module.lengthenedAt chosen).bodyOf? id =
      (module.bodyOf? id).map fun body => if chosen id then body.lengthened else body := by
  rw [bodyOf?, getElem?_lengthenedAt, bodyOf?]
  cases module.methods[id.index]? with
  | none => rfl
  | some method => cases chosen id <;> simp [MethodDef.lengthened]

theorem lengthenedAt_none (module : Module) : module.lengthenedAt (fun _ => false) = module := by
  refine eq_of_methods (fun id => ?_) rfl
  simp [getElem?_lengthenedAt]

theorem lengthenedAt_all (module : Module) :
    module.lengthenedAt (fun _ => true) = module.lengthened := by
  refine eq_of_methods (fun id => ?_) rfl
  rw [getElem?_lengthenedAt, lengthened, List.getElem?_map]
  rfl

theorem outline_lengthenedAt (chosen : MethodId → Bool) (module : Module) :
    (module.lengthenedAt chosen).outline = module.outline := by
  refine eq_of_methods (fun id => ?_) rfl
  rw [outline, List.getElem?_map, getElem?_lengthenedAt, Option.map_map, outline, List.getElem?_map]
  congr 1
  funext method
  cases chosen id <;> rfl

theorem nameOf_lengthenedAt (chosen : MethodId → Bool) (module : Module) (member : MemberId) :
    (module.lengthenedAt chosen).nameOf member = module.nameOf member := by
  rw [← nameOf_outline, outline_lengthenedAt, nameOf_outline]

theorem lengthened_lengthenedAt (chosen : MethodId → Bool) (module : Module) :
    (module.lengthenedAt chosen).lengthened = module.lengthened := by
  refine eq_of_methods (fun id => ?_) rfl
  rw [lengthened, List.getElem?_map, getElem?_lengthenedAt, Option.map_map, lengthened,
    List.getElem?_map]
  congr 1
  funext method
  cases chosen id <;> simp [MethodDef.lengthened, Function.comp_def]

theorem lengthenedAt_withMethod {id : MethodId} {change other : MethodDef → MethodDef}
    (elsewhere : ∀ method, method ≠ id → later method = chosen method)
    (here : ∀ method : MethodDef, (if later id then (change method).lengthened else change method) =
      other (if chosen id then method.lengthened else method)) (module : Module) :
    (module.withMethod id change).lengthenedAt later =
      (module.lengthenedAt chosen).withMethod id other := by
  refine eq_of_methods (fun method => ?_) rfl
  rw [getElem?_lengthenedAt, withMethod, withMethod, List.getElem?_modify, List.getElem?_modify,
    getElem?_lengthenedAt]
  cases module.methods[method.index]? with
  | none => rfl
  | some found =>
    by_cases same : method = id
    · subst same
      simp [here]
    · have apart : id.index ≠ method.index := fun equal => same (congrArg MethodId.mk equal.symm)
      simp [apart, elsewhere method same]

theorem lengthenedAt_withBody (chosen : MethodId → Bool) (module : Module) (id : MethodId)
    (long : Bool) (body : Body) :
    (module.withMethod id fun method => { method with body := some body }).lengthenedAt
        (fun method => if method = id then long else chosen method) =
      (module.lengthenedAt chosen).withMethod id fun method =>
        { method with body := some (if long then body.lengthened else body) } := by
  refine lengthenedAt_withMethod (fun method other => if_neg other) (fun method => ?_) module
  rw [if_pos rfl]
  cases long <;> cases chosen id <;> rfl

/-- The edit does the same whichever bodies are in the long form. -/
def IgnoresWidths (edit : Edit Module α) : Prop :=
  ∀ (chosen : MethodId → Bool) (module : Module), edit.apply (module.lengthenedAt chosen) =
    ((edit.apply module).1, (edit.apply module).2.lengthenedAt chosen)

theorem IgnoresMembers.ignoresWidths {edit : Edit Module α} (ignores : IgnoresMembers edit) :
    IgnoresWidths edit := by
  intro chosen module
  have again := ignores module module.types (module.lengthenedAt chosen).methods module.fields
  have after := congrArg (lengthenedAt chosen) (ignores.after_eq module)
  exact again.trans (Prod.ext rfl after.symm)

theorem ignoresWidths_changeMethod (id : MethodId) {change : MethodDef → MethodDef}
    (same : ∀ method, (change method).lengthened = change method.lengthened) :
    IgnoresWidths (changeMethod id change) := by
  intro chosen module
  have changed : (module.withMethod id change).lengthenedAt chosen =
      (module.lengthenedAt chosen).withMethod id change :=
    lengthenedAt_withMethod (fun _ _ => rfl) (fun _ => by cases chosen id <;> simp [same]) module
  rw [apply_changeMethod, apply_changeMethod, methodAt_lengthenedAt, changed]
  cases module.methodAt id <;> rfl

theorem ignoresWidths_changeInfo (member : MemberId) (change : MemberInfo → MemberInfo) :
    IgnoresWidths (changeInfo member change) := by
  cases member with
  | type id =>
    intro chosen module
    rw [changeInfo, apply_changeType, apply_changeType]
    rfl
  | field id =>
    intro chosen module
    rw [changeInfo, apply_changeField, apply_changeField]
    rfl
  | method id => exact ignoresWidths_changeMethod id fun _ => rfl

theorem outline_lengthened (module : Module) : module.lengthened.outline = module.outline := by
  rw [← lengthenedAt_all, outline_lengthenedAt]

theorem findType?_lengthened (module : Module) :
    module.lengthened.findType? = module.findType? := by
  funext name
  rw [← findType?_outline, outline_lengthened, findType?_outline]

theorem constructedMachine?_lengthened (module : Module) (method : MethodDef) :
    module.lengthened.constructedMachine? method.lengthened =
      module.constructedMachine? method := by
  have opening : machineOpening method.lengthened = machineOpening method := rfl
  rw [constructedMachine?, constructedMachine?, findType?_lengthened, opening, MethodDef.lengthened]
  cases method.body with
  | none => rfl
  | some body =>
    dsimp only [Option.map_some, Option.bind_eq_bind, Option.bind_some]
    rw [Body.instrs_lengthened, List.findSome?_map]
    congr 1
    funext instr
    -- Only one operation makes an object, and it has one width.
    by_cases makes : instr.opcode = .newobj
    · have long : instr.opcode.isShortJump = false := by rw [makes]; rfl
      rw [Function.comp_apply, Instr.widened_of_not_short long]
    · have other : instr.widened.opcode ≠ .newobj := by
        have same := Instr.widened_mem_iff [.newobj] (by decide) instr
        simpa [makes] using same
      dsimp only [Function.comp_apply]
      split
      · exact absurd ‹_› other
      · split
        · exact absurd ‹_› makes
        · rfl

theorem stateMachine?_lengthened (module : Module) (id : MethodId) :
    module.lengthened.stateMachine? id = module.stateMachine? id := by
  have finds := findType?_lengthened module
  have calls (owner : TypeId) (text : String) :
      module.lengthened.findMethod? owner text = module.findMethod? owner text := by
    rw [← findMethod?_outline, outline_lengthened, findMethod?_outline]
  have attributed (method : MethodDef) :
      module.lengthened.attributedMachine? method.lengthened =
        module.attributedMachine? method := by
    simp only [attributedMachine?, finds]
    rfl
  have nested (method : MethodDef) :
      module.lengthened.nestedMachine? method.lengthened = module.nestedMachine? method := rfl
  have listed : module.lengthened.methods[id.index]? =
      (module.methods[id.index]?).map MethodDef.lengthened := List.getElem?_map
  rw [stateMachine?, stateMachine?, listed]
  cases module.methods[id.index]? with
  | none => rfl
  | some method =>
    simp only [Option.map_some, Option.bind_eq_bind, Option.bind_some, attributed, nested,
      constructedMachine?_lengthened, calls]

theorem stateMachine?_lengthenedAt (chosen : MethodId → Bool) (module : Module) (id : MethodId) :
    (module.lengthenedAt chosen).stateMachine? id = module.stateMachine? id := by
  rw [← stateMachine?_lengthened, lengthened_lengthenedAt, stateMachine?_lengthened]

end Module
end Retrofit

import Mathlib.Data.List.Pairwise
import Retrofit.Module.StateMachine
import Retrofit.Proofs.Body.Making
import Retrofit.Proofs.Module.Nesting
import Retrofit.Proofs.Module.Outline

/-!
Which state machine a method gets (`stateMachine?_eq`). The types that the method names itself count
most. A method that names none still gets one by its own name, if what it returns allows for that,
and this one may be the state machine of another method (`Built.machine_of_plain_iff`).
-/

namespace Retrofit

namespace MethodDef

/-- The types that the body of the method makes objects of. -/
def made (method : MethodDef) : List String := (method.body.map Body.made).getD []

/-- Whether a type has, behind the types it is nested in, a name that compilers give to the state
machine of the method. -/
def hasMachineName (method : MethodDef) (type : String) : Bool :=
  Text.beginsWith (Text.behindLast '/' type) (Module.machineOpening method)

/-- The state machines that the method names: in its attributes, then in its body. -/
def machineNames (method : MethodDef) : List String :=
  (method.attributes.filter fun held => held.type ∈ Module.stateMachineAttributes).filterMap
      (fun held => match held.args with
        | .type name :: _ => some name
        | _ => none) ++
    method.made.filter method.hasMachineName

/-- The method without its requests and its code, and the types that this makes objects of. -/
def sketch (method : MethodDef) : MethodDef × List String :=
  ({ method with requests := [], body := none }, method.made)

theorem machineOpening_eq {method other : MethodDef} (same : other.sketch = method.sketch) :
    Module.machineOpening other = Module.machineOpening method := by
  have name : other.name = method.name := congrArg (fun sketch => sketch.1.name) same
  rw [Module.machineOpening, name, Module.machineOpening]

theorem machineNames_eq {method other : MethodDef} (same : other.sketch = method.sketch) :
    other.machineNames = method.machineNames := by
  have attributes : other.attributes = method.attributes :=
    congrArg (fun sketch => sketch.1.attributes) same
  have made : other.made = method.made := congrArg Prod.snd same
  have opens : other.hasMachineName = method.hasMachineName := by
    funext type
    rw [hasMachineName, machineOpening_eq same, hasMachineName]
  rw [machineNames, machineNames, attributes, made, opens]

/-- A method that says nothing of a state machine: it carries no attribute for one, and makes no
object of a type that has the name of one. -/
structure Plain (method : MethodDef) : Prop where
  unmarked : ∀ held ∈ method.attributes, held.type ∉ Module.stateMachineAttributes
  makesNone : ∀ type ∈ method.made, method.hasMachineName type = false

theorem Plain.machineNames_eq {method : MethodDef} (plain : method.Plain) :
    method.machineNames = [] := by
  have unmarked : (method.attributes.filter
      fun held => held.type ∈ Module.stateMachineAttributes) = [] := by
    rw [List.filter_eq_nil_iff]
    intro held carried
    simpa using plain.unmarked held carried
  have makesNone : method.made.filter method.hasMachineName = [] := by
    rw [List.filter_eq_nil_iff]
    intro type made
    simp [plain.makesNone type made]
  rw [machineNames, unmarked, makesNone]
  rfl

end MethodDef

namespace Module

/-- The method names a state machine that is there: in an attribute, or by making an object of it. -/
def NamesMachine (module : Module) (id : MethodId) (machine : TypeId) : Prop :=
  ∃ method, module.methods[id.index]? = some method ∧
    ∃ type ∈ method.machineNames, module.findType? type = some machine

variable {module : Module} {id code : MethodId} {machine : TypeId} {method : MethodDef}

private theorem findSome?_filterMap (items : List α) (f : α → Option β) (g : β → Option γ) :
    (items.filterMap f).findSome? g = items.findSome? fun item => (f item).bind g := by
  rw [← List.head?_filterMap, ← List.head?_filterMap, List.filterMap_filterMap]

theorem attributedMachine?_eq (module : Module) (method : MethodDef) :
    module.attributedMachine? method =
      ((method.attributes.filter fun held => held.type ∈ stateMachineAttributes).filterMap
        fun held => match held.args with
          | .type name :: _ => some name
          | _ => none).findSome? module.findType? := by
  rw [attributedMachine?, findSome?_filterMap]
  congr 1
  funext held
  rcases held.args with _ | ⟨first, rest⟩
  · rfl
  · cases first <;> rfl

theorem constructedMachine?_eq (module : Module) (method : MethodDef) :
    module.constructedMachine? method =
      (method.made.filter method.hasMachineName).findSome? module.findType? := by
  rw [constructedMachine?, MethodDef.made]
  cases method.body with
  | none => rfl
  | some body =>
    simp only [Option.bind_eq_bind, Option.bind_some, Option.map_some, Option.getD_some, Body.made]
    rw [List.filter_filterMap, findSome?_filterMap]
    congr 1
    funext instr
    split
    · next constructor opcode operand =>
      have made : instr.made? =
          if constructor.name = ".ctor" then some constructor.declaringType else none := by
        rw [Instr.made?, opcode, operand]
      by_cases constructs : constructor.name = ".ctor"
      · rw [made, if_pos constructs, Option.filter_some, MethodDef.hasMachineName]
        simp only [constructs, decide_true, Bool.true_and]
        split <;> rfl
      · simp [made, constructs]
    · next other =>
      have made : instr.made? = none := by
        rw [Instr.made?]
        split
        · next constructor opcode operand => exact absurd operand (other constructor opcode)
        · rfl
      rw [made]
      rfl

/-- The first of the named types that is there counts. Without any, the type beside the method
does. -/
theorem stateMachine?_eq (found : module.methods[id.index]? = some method) :
    module.stateMachine? id =
      ((method.machineNames.findSome? module.findType?).or (module.nestedMachine? method)).bind
        fun machine => module.findMethod? machine moveNext := by
  rw [stateMachine?, found, MethodDef.machineNames, List.findSome?_append, ← attributedMachine?_eq,
    ← constructedMachine?_eq, Option.or_assoc]
  rfl

/-- Two modules that do not differ in where the code of methods is looked for: in their types, in what
their methods declare, and in the types of which these make objects. -/
structure SameMachines (module after : Module) : Prop where
  types : after.types = module.types
  methods : after.methods.map MethodDef.sketch = module.methods.map MethodDef.sketch

variable {after later : Module}

theorem SameMachines.refl (module : Module) : module.SameMachines module := ⟨rfl, rfl⟩

theorem SameMachines.trans (first : module.SameMachines after) (second : after.SameMachines later) :
    module.SameMachines later where
  types := second.types.trans first.types
  methods := second.methods.trans first.methods

theorem SameMachines.getElem?_eq (same : module.SameMachines after) (index : Nat) :
    after.methods[index]?.map MethodDef.sketch = module.methods[index]?.map MethodDef.sketch := by
  rw [← List.getElem?_map, ← List.getElem?_map, same.methods]

theorem SameMachines.findMethod?_eq (same : module.SameMachines after) (owner : TypeId)
    (text : String) : after.findMethod? owner text = module.findMethod? owner text := by
  have fits (id : MethodId) :
      (after.methods[id.index]?).any (fun method => method.isNamed text) =
        (module.methods[id.index]?).any fun method => method.isNamed text := by
    have alike := congrArg (Option.any fun sketch => sketch.1.isNamed text)
      (same.getElem?_eq id.index)
    rw [Option.any_map, Option.any_map] at alike
    exact alike
  simp only [findMethod?, same.types, fits]

theorem SameMachines.stateMachine?_eq (same : module.SameMachines after) (id : MethodId) :
    after.stateMachine? id = module.stateMachine? id := by
  have alike := same.getElem?_eq id.index
  cases found : module.methods[id.index]? with
  | none =>
    rw [found, Option.map_none, Option.map_eq_none_iff] at alike
    rw [stateMachine?, stateMachine?, found, alike]
    rfl
  | some method =>
    rw [found, Option.map_some] at alike
    obtain ⟨other, listed, sketch⟩ := Option.map_eq_some_iff.1 alike
    have nested : after.nestedMachine? other = module.nestedMachine? method := by
      have returns : other.returnType = method.returnType :=
        congrArg (fun sketch => sketch.1.returnType) sketch
      have owner : other.declaringType = method.declaringType :=
        congrArg (fun sketch => sketch.1.declaringType) sketch
      rw [nestedMachine?, nestedMachine?, returns, owner, MethodDef.machineOpening_eq sketch, nestedIn,
        nestedIn, same.types]
    have finds : after.findType? = module.findType? := funext (findType?_of_types same.types)
    rw [Module.stateMachine?_eq found, Module.stateMachine?_eq listed,
      MethodDef.machineNames_eq sketch, nested, finds]
    simp only [same.findMethod?_eq]

theorem sameMachines_withMethod (module : Module) (id : MethodId) {change : MethodDef → MethodDef}
    (kept : ∀ method, module.methods[id.index]? = some method →
      (change method).sketch = method.sketch) :
    module.SameMachines (module.withMethod id change) where
  types := rfl
  methods := map_modify_of_same module.methods id.index kept

/-- The method gets a name. -/
def withName (module : Module) (id : MethodId) (name : String) : Module :=
  module.withMethod id fun method => { method with name }

theorem SameMachines.withName (same : module.SameMachines after) (id : MethodId) (name : String) :
    (module.withName id name).SameMachines (after.withName id name) where
  types := same.types
  methods := by
    have renamed (module : Module) : (module.withName id name).methods.map MethodDef.sketch =
        (module.methods.map MethodDef.sketch).modify id.index fun sketch =>
          ({ sketch.1 with name }, sketch.2) :=
      map_modify module.methods id.index fun method _ => rfl
    rw [renamed, renamed, same.methods]

theorem withName_withName (module : Module) (id : MethodId) (old name : String) :
    (module.withName id old).withName id name = module.withName id name :=
  module.withMethod_withMethod id _ _

theorem mem_methodsOf_of_findMethod? {text : String}
    (found : module.findMethod? machine text = some code) : code ∈ module.methodsOf machine := by
  rw [findMethod?] at found
  obtain ⟨type, listed, first⟩ := Option.bind_eq_some_iff.1 found
  rw [methodsOf, listed]
  exact List.mem_of_find?_eq_some first

theorem Forest.eq_of_mem_methodsOf (forest : module.Forest) {first second : TypeId}
    (inFirst : code ∈ module.methodsOf first) (inSecond : code ∈ module.methodsOf second) :
    first = second := by
  have known {type : TypeId} (holds : code ∈ module.methodsOf type) : type ∈ module.typeIds := by
    rw [mem_typeIds]
    by_contra beyond
    rw [methodsOf, List.getElem?_eq_none (Nat.le_of_not_lt beyond)] at holds
    cases holds
  have once : (module.typeIds.flatMap module.methodsOf).Nodup :=
    (forest.perm_methodsAlong (.refl _)).nodup_iff.2 module.nodup_methodIds
  have apart := (List.nodup_flatMap.1 once).2
  by_contra different
  have symmetric : Std.Symm (Function.onFun List.Disjoint module.methodsOf) :=
    ⟨fun _ _ apart _ inSecond inFirst => apart inFirst inSecond⟩
  have disjoint := apart.forall (known inFirst) (known inSecond) different
  exact disjoint inFirst inSecond

theorem Forest.eq_of_findMethod? (forest : module.Forest) {first second : TypeId}
    {text other : String} (inFirst : module.findMethod? first text = some code)
    (inSecond : module.findMethod? second other = some code) : first = second :=
  forest.eq_of_mem_methodsOf (mem_methodsOf_of_findMethod? inFirst)
    (mem_methodsOf_of_findMethod? inSecond)

/-- A method that says nothing of a state machine has its code in the state machine of a type just if
it returns what iterators and asynchronous methods return, and the type is the first one beside it
that has the right name. Whether another method names the type does not matter. -/
theorem Built.machine_of_plain_iff (built : module.Built)
    (found : module.methods[id.index]? = some method) (plain : method.Plain)
    (holds : module.findMethod? machine moveNext = some code) :
    module.stateMachine? id = some code ↔
      returnsMachine method.returnType = true ∧
        (module.nestedIn method.declaringType).find? (fun nested =>
          (module.types[nested.index]?).any fun type =>
            Text.beginsWith type.name (machineOpening method)) = some machine := by
  have beside : module.stateMachine? id = (module.nestedMachine? method).bind
      fun nested => module.findMethod? nested moveNext := by
    rw [stateMachine?_eq found, plain.machineNames_eq, List.findSome?_nil, Option.none_or]
  have owner : module.stateMachine? id = some code ↔
      module.nestedMachine? method = some machine := by
    rw [beside, Option.bind_eq_some_iff]
    constructor
    · rintro ⟨nested, first, inNested⟩
      rw [first, built.forest.eq_of_findMethod? inNested holds]
    · intro first
      exact ⟨machine, first, holds⟩
  rw [owner, nestedMachine?]
  split
  · next returns => simp [returns]
  · next other => simp [other]

/-- A method with a body of its own that makes nothing. -/
def overload (returnType : String) : MethodDef where
  name := "Update"
  returnType := returnType
  params := ["System.Int32"]
  declaringType := ⟨0⟩
  body := some (.ofInstrs [⟨.ldnull, .none⟩, ⟨.ret, .none⟩])

theorem plain_overload (returnType : String) : (overload returnType).Plain where
  unmarked := by simp [overload]
  makesNone := by simp [MethodDef.made, overload, Body.made, Body.instrs_ofInstrs, Instr.made?]

/-- An iterator that makes its state machine, and beside it the overload. -/
def overloaded (returnType : String) : Module :=
  let module : Module := ((addType "Game" "Menu").apply { name := "Game" }).2
  let module := ((addNestedType ⟨0⟩ "<Update>d__12").apply module).2
  let module := ((addMethod ⟨0⟩
    { name := "Update", returnType := "System.Collections.IEnumerator", declaringType := ⟨0⟩,
      body := some (.ofInstrs
        [⟨.newobj, .member (.method "Game.Menu/<Update>d__12" ".ctor" "System.Void ()")⟩,
          ⟨.ret, .none⟩]) }).apply module).2
  let module := ((addMethod ⟨0⟩ (overload returnType)).apply module).2
  ((addMethod ⟨1⟩
    { name := moveNext, returnType := "System.Boolean", declaringType := ⟨1⟩,
      body := some (.ofInstrs [⟨.ldcI40, .none⟩, ⟨.ret, .none⟩]) }).apply module).2

theorem built_overloaded (returnType : String) : (overloaded returnType).Built :=
  .method (.method (.method (.nestedType (.type (.empty "Game") _ _) _ _) _ _) _ _) _ _

theorem findMethod?_overloaded (returnType : String) :
    (overloaded returnType).findMethod? ⟨1⟩ moveNext = some ⟨2⟩ := rfl

/-- The code of the iterator is that of its overload just where what the overload returns allows
for it. -/
theorem machine_of_plain_overload :
    (overloaded "System.Void").stateMachine? ⟨1⟩ ≠ some ⟨2⟩ ∧
      (overloaded "System.Threading.Tasks.Task").stateMachine? ⟨1⟩ = some ⟨2⟩ := by
  constructor
  · intro taken
    have plain := plain_overload "System.Void"
    have returns := ((built_overloaded _).machine_of_plain_iff rfl plain
      (findMethod?_overloaded _)).1 taken
    exact absurd returns.1 (by decide)
  · have plain := plain_overload "System.Threading.Tasks.Task"
    refine ((built_overloaded _).machine_of_plain_iff rfl plain
      (findMethod?_overloaded _)).2 ⟨?_, ?_⟩
    · decide
    · decide

/-- An overload that itself returns an enumerator gets the code of the iterator, although it says
nothing of a state machine and the iterator names its own. -/
theorem machine_of_enumerator_overload :
    (overloaded "System.Collections.IEnumerator").NamesMachine ⟨0⟩ ⟨1⟩ ∧
      (overloaded "System.Collections.IEnumerator").methods[1]? =
        some (overload "System.Collections.IEnumerator") ∧
      (overload "System.Collections.IEnumerator").Plain ∧
      (overloaded "System.Collections.IEnumerator").findMethod? ⟨1⟩ moveNext = some ⟨2⟩ ∧
      (overloaded "System.Collections.IEnumerator").stateMachine? ⟨1⟩ = some ⟨2⟩ := by
  refine ⟨⟨_, rfl, "Game.Menu/<Update>d__12", ?_, ?_⟩, rfl, plain_overload _,
    findMethod?_overloaded _, ?_⟩
  · decide +kernel
  · decide
  · decide +kernel

end Module
end Retrofit

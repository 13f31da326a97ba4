import Retrofit.Proofs.Module.StateMachine
import Retrofit.Proofs.Rule.Making
import Retrofit.Proofs.Rule.Width
import Retrofit.Proofs.Run.Order
import Retrofit.Proofs.Run.Upkeep

/-!
Requests on different bodies do not see each other. Serving a request on one body, or failing to,
leaves alone all that decides what becomes of a request on another one: to which method it goes, what
it finds there, and what its rule reads of the module (`service_elsewhere`). So it does not matter
which of the two is served first (`serve_in_either_order`).
-/

namespace Retrofit

namespace Rule

/-- A rule for bodies that reads of the module only what its outline says, and leaves alone the types
that code makes objects of, whether it succeeds or fails. -/
structure Secluded (serve : BodyTask → Edit Cursor Unit) : Prop where
  outlined : ∀ task : BodyTask, serve task.outlined = serve task
  makes : ∀ task types, Edit.Maintains (Cursor.Makes types) (serve task)

theorem secluded_builtIn {rule : Rule ν} (listed : rule ∈ builtIn)
    (edits : rule.editsBodies = true) :
    ∃ name description serve, rule = onBody name description serve ∧ Secluded serve := by
  simp only [builtIn, forDeclarations, forSubstitution, forTypeTests, forThresholds, forFieldReads,
    forGuardedCalls, List.cons_append, List.nil_append, List.mem_cons, List.not_mem_nil,
    or_false] at listed
  rcases listed with rfl | rfl | rfl | rfl | rfl | rfl | rfl | rfl | rfl
  · cases edits
  · cases edits
  · cases edits
  · exact ⟨_, _, _, rfl, fun _ => rfl,
      fun _ types => ((upheld_made types).substituteAll _ _).discard⟩
  · exact ⟨_, _, _, rfl, blind_substituteNamed.outlined,
      fun task types => ((upheld_made types).substituteNamed task).discard⟩
  · exact ⟨_, _, _, rfl, fun _ => rfl, fun task types => (upheld_made types).extendTypeTests task⟩
  · exact ⟨_, _, _, rfl, blind_widenCondition.outlined,
      fun task types => (upheld_made types).widenCondition task⟩
  · exact ⟨_, _, _, rfl, blind_loadFieldDirectly.outlined,
      fun task types => (upheld_made types).loadFieldDirectly task⟩
  · exact ⟨_, _, _, rfl, blind_guardCall.outlined,
      fun task types => (upheld_made types).guardCall task⟩

end Rule

namespace Module

/-- The module with another body in a method, if one is given. -/
def withCode (module : Module) (id : MethodId) : Option Body → Module
  | none => module
  | some body => module.withMethod id fun method => { method with body := some body }

variable {module : Module} {id other : MethodId} {code : Option Body}

@[simp] theorem outline_withCode (module : Module) (id : MethodId) (code : Option Body) :
    (module.withCode id code).outline = module.outline := by
  cases code with
  | none => rfl
  | some body => exact module.outline_withMethod id fun _ => rfl

theorem bodyOf?_withCode (apart : id ≠ other) :
    (module.withCode id code).bodyOf? other = module.bodyOf? other := by
  cases code with
  | none => rfl
  | some body =>
    rw [withCode, bodyOf?_withMethod]
    simp only [if_neg apart]
    rfl

/-- Code that makes objects of the same types does not change which method holds the code of
another. -/
theorem sameMachines_withCode (same : ∀ body ∈ code, ∃ old, module.bodyOf? id = some old ∧
    body.made = old.made) : module.SameMachines (module.withCode id code) := by
  cases code with
  | none => exact .refl module
  | some body =>
    obtain ⟨old, found, made⟩ := same body rfl
    refine sameMachines_withMethod module id fun method listed => ?_
    rw [bodyOf?, listed] at found
    have had : method.body = some old := found
    simp only [MethodDef.sketch, MethodDef.made, had, Option.map_some, made]

theorem withCode_comm (module : Module) (apart : id ≠ other) (code yet : Option Body) :
    (module.withCode id code).withCode other yet = (module.withCode other yet).withCode id code := by
  cases code with
  | none => rfl
  | some body =>
    cases yet with
    | none => rfl
    | some more =>
      have indices : id.index ≠ other.index := fun same => apart (congrArg MethodId.mk same)
      simp only [withCode, withMethod]
      rw [modify_comm _ indices]

end Module

theorem Report.settled_comm (report : Report) (widened more : Option Nat) :
    (report.settled widened).settled more = (report.settled more).settled widened := by
  cases widened with
  | none => rfl
  | some count =>
    cases more with
    | none => rfl
    | some further => simp only [settled, Nat.add_right_comm _ count further]

namespace Patcher

variable {config : Config} {serve : BodyTask → Edit Cursor Unit} {module after : Module}
  {target : MethodId} {request : Request} {ledger : Ledger} {report : Report} {notes : List ν}

/-- What comes of a request on a body: the outcome, the body that is put back, and how many of its
branches became long if it was settled. -/
structure BodyService where
  outcome : Except PatchError (Option String)
  code : Option Body := none
  widened : Option Nat := none

/-- How a request fails when the edited method is missing or has no body. -/
def lackOfBody (config : Config) (module : Module) (target : MethodId) (request : Request) :
    PatchError :=
  let method := editedMethod config module target
  match module.methodAt method with
  | .error error => error
  | .ok _ => .invalidTarget request.rule (module.methodName method) "method with a body"

/-- What comes of a request on a method, read off the module. -/
def service (config : Config) (serve : BodyTask → Edit Cursor Unit) (module : Module)
    (target : MethodId) (request : Request) : BodyService :=
  match module.bodyOf? (editedMethod config module target) with
  | none => ⟨.error (lackOfBody config module target request), none, none⟩
  | some body =>
    match workOn config serve module target request body with
    | (.ok widened, cursor) =>
      ⟨.ok (nameElsewhere config module target), some cursor.body, widened⟩
    | (.error error, cursor) => ⟨.error error, some cursor.body, none⟩

theorem apply_serveOnBody_quietly (config : Config) (serve : BodyTask → Edit Cursor Unit)
    (module : Module) (target : MethodId) (request : Request) (ledger : Ledger) (report : Report)
    (notes : List ν) :
    (serveOnBody config (fun task => Noted.quietly (serve task)) (.method target) request).apply
        ⟨⟨⟨module, ledger⟩, report⟩, notes⟩ =
      ((service config serve module target request).outcome,
        ⟨⟨⟨module.withCode (editedMethod config module target)
            (service config serve module target request).code, ledger⟩,
          report.settled (service config serve module target request).widened⟩, notes⟩) := by
  cases found : module.bodyOf? (editedMethod config module target) with
  | some body =>
    rw [apply_serveOnBody (fun task => Noted.performs_quietly (serve task)) found, service, found]
    dsimp only
    rcases workOn config serve module target request body with ⟨error | widened, cursor⟩
    · simp only [List.append_nil]
      rfl
    · simp only [List.append_nil]
      rfl
  | none =>
    rw [service, found, serveOnBody, Edit.apply_bind, Step.apply_module]
    dsimp only
    rw [Edit.apply_bind, Edit.apply_demand, lackOfBody]
    cases listed : module.methodAt (editedMethod config module target) with
    | error error => rfl
    | ok method =>
      rw [Module.bodyOf?, Module.methodAt_eq_ok listed] at found
      have bodiless : method.body = none := found
      dsimp only
      rw [bodiless]
      rfl

theorem made_workOn (secluded : Rule.Secluded serve) (config : Config) (module : Module)
    (target : MethodId) (request : Request) (body : Body) :
    (workOn config serve module target request body).2.body.made = body.made :=
  holds_workOn (fun later => later.made = body.made)
    (fun task => secluded.makes task body.made)
    (fun later _ _ _ same => (later.made_finish _ _ _).trans same) config module target request rfl

theorem made_code (secluded : Rule.Secluded serve) (config : Config) (module : Module)
    (target : MethodId) (request : Request) :
    ∀ body ∈ (service config serve module target request).code,
      ∃ old, module.bodyOf? (editedMethod config module target) = some old ∧
        body.made = old.made := by
  intro body put
  cases found : module.bodyOf? (editedMethod config module target) with
  | none =>
    rw [service, found] at put
    cases put
  | some old =>
    have made := made_workOn secluded config module target request old
    rw [service, found] at put
    dsimp only at put
    rcases worked : workOn config serve module target request old with ⟨error | widened, cursor⟩ <;>
      rw [worked] at put made <;> cases put <;> exact ⟨old, rfl, made⟩

theorem editedMethod_of_sameMachines (same : module.SameMachines after) :
    editedMethod config after target = editedMethod config module target := by
  rw [editedMethod, editedMethod, same.stateMachine?_eq]

theorem methodName_of_outline (same : after.outline = module.outline) (id : MethodId) :
    after.methodName id = module.methodName id := by
  rw [← Module.methodName_outline, same, Module.methodName_outline]

theorem lackOfBody_of_outline (outline : after.outline = module.outline)
    (edited : editedMethod config after target = editedMethod config module target) :
    lackOfBody config after target request = lackOfBody config module target request := by
  have listed := congrArg (·.methodAt (editedMethod config module target)) outline
  simp only [Module.methodAt_outline] at listed
  simp only [lackOfBody, edited, methodName_of_outline outline]
  cases before : module.methodAt (editedMethod config module target) with
  | error error =>
    rw [before] at listed
    cases behind : after.methodAt (editedMethod config module target) with
    | error => rw [behind] at listed; exact Except.error.inj listed
    | ok => rw [behind] at listed; cases listed
  | ok method =>
    rw [before] at listed
    cases behind : after.methodAt (editedMethod config module target) with
    | error => rw [behind] at listed; cases listed
    | ok => rfl

theorem workOn_of_outline (secluded : Rule.Secluded serve) (outline : after.outline = module.outline)
    (edited : editedMethod config after target = editedMethod config module target) (body : Body) :
    workOn config serve after target request body =
      workOn config serve module target request body := by
  have bare (module : Module) (id : MethodId) :
      (module.withMethod id fun method => { method with body := none }).outline = module.outline :=
    Module.outline_withMethod module id fun _ => rfl
  have task : (taskFor config after target request).outlined =
      (taskFor config module target request).outlined := by
    simp only [taskFor, BodyTask.outlined, bare, outline, edited]
  rw [workOn, workOn, ← secluded.outlined (taskFor config after target request), task,
    secluded.outlined, edited, methodName_of_outline outline]

/-- What comes of a request is decided by the outline of the module, the method it goes to, and the
body of this. -/
theorem service_of_outline (secluded : Rule.Secluded serve)
    (outline : after.outline = module.outline)
    (edited : editedMethod config after target = editedMethod config module target)
    (body : after.bodyOf? (editedMethod config module target) =
      module.bodyOf? (editedMethod config module target)) :
    service config serve after target request = service config serve module target request := by
  have name : nameElsewhere config after target = nameElsewhere config module target := by
    rw [nameElsewhere, nameElsewhere, edited, methodName_of_outline outline]
  simp only [service, edited, body, name, lackOfBody_of_outline outline edited,
    workOn_of_outline secluded outline edited]

variable {yet : BodyTask → Edit Cursor Unit} {other : MethodId} {later : Request}

/-- A request on one body, served or not, decides nothing about one on another body. -/
theorem service_elsewhere (first : Rule.Secluded serve) (second : Rule.Secluded yet)
    (request later : Request)
    (apart : editedMethod config module target ≠ editedMethod config module other) :
    let after := module.withCode (editedMethod config module target)
      (service config serve module target request).code
    editedMethod config after other = editedMethod config module other ∧
      service config yet after other later = service config yet module other later := by
  have edited : editedMethod config (module.withCode _ _) other = editedMethod config module other :=
    editedMethod_of_sameMachines
      (Module.sameMachines_withCode (made_code first config module target request))
  exact ⟨edited, service_of_outline second (Module.outline_withCode ..) edited
    (Module.bodyOf?_withCode apart)⟩

/-- Two requests on different bodies can be served in either order. Each comes to the same outcome
first and second, whatever comes of the other one, and both orders leave the same module and report.
A run goes through both of them in one order exactly if it does in the other. -/
theorem serve_in_either_order {first second : Rule ν} (firstListed : first ∈ Rule.builtIn)
    (firstEdits : first.editsBodies = true) (secondListed : second ∈ Rule.builtIn)
    (secondEdits : second.editsBodies = true) {config : Config} {noted : Noted ν Progress}
    {target other : MethodId}
    (apart : editedMethod config noted.state.workspace.module target ≠
      editedMethod config noted.state.workspace.module other) (request later : Request) :
    let one := Patcher.serve config first (.method target) request
    let two := Patcher.serve config second (.method other) later
    (one.apply (two.apply noted).2).1 = (one.apply noted).1 ∧
    (two.apply (one.apply noted).2).1 = (two.apply noted).1 ∧
    (two.apply (one.apply noted).2).2 = (one.apply (two.apply noted).2).2 ∧
    ∀ outcomes final,
      (do let outcome ← one
          let another ← two
          return (outcome, another)).apply noted = (.ok outcomes, final) ↔
      (do let another ← two
          let outcome ← one
          return (outcome, another)).apply noted = (.ok outcomes, final) := by
  obtain ⟨_, _, serve, rfl, secluded⟩ := Rule.secluded_builtIn firstListed firstEdits
  obtain ⟨_, _, yet, rfl, secludedToo⟩ := Rule.secluded_builtIn secondListed secondEdits
  obtain ⟨⟨⟨module, ledger⟩, report⟩, notes⟩ := noted
  dsimp only at apart
  intro one two
  obtain ⟨editedSecond, secondSame⟩ := service_elsewhere secluded secludedToo request later apart
  obtain ⟨editedFirst, firstSame⟩ := service_elsewhere secludedToo secluded later request apart.symm
  have runOne (module : Module) (report : Report) :
      one.apply ⟨⟨⟨module, ledger⟩, report⟩, notes⟩ = _ :=
    apply_serveOnBody_quietly config serve module target request ledger report notes
  have runTwo (module : Module) (report : Report) :
      two.apply ⟨⟨⟨module, ledger⟩, report⟩, notes⟩ = _ :=
    apply_serveOnBody_quietly config yet module other later ledger report notes
  have oneSecond : (one.apply (two.apply ⟨⟨⟨module, ledger⟩, report⟩, notes⟩).2).1 =
      (one.apply ⟨⟨⟨module, ledger⟩, report⟩, notes⟩).1 := by
    rw [runTwo, runOne, runOne, firstSame]
  have twoSecond : (two.apply (one.apply ⟨⟨⟨module, ledger⟩, report⟩, notes⟩).2).1 =
      (two.apply ⟨⟨⟨module, ledger⟩, report⟩, notes⟩).1 := by
    rw [runOne, runTwo, runTwo, secondSame]
  have joined : (two.apply (one.apply ⟨⟨⟨module, ledger⟩, report⟩, notes⟩).2).2 =
      (one.apply (two.apply ⟨⟨⟨module, ledger⟩, report⟩, notes⟩).2).2 := by
    rw [runOne, runTwo, runTwo, runOne, editedSecond, secondSame, editedFirst, firstSame,
      Module.withCode_comm module apart, Report.settled_comm]
  refine ⟨oneSecond, twoSecond, joined, fun outcomes final => ?_⟩
  rw [Edit.both_eq_ok, Edit.both_eq_ok, oneSecond, twoSecond, joined]
  constructor
  · rintro ⟨outcome, another, first, second, paired, ended⟩
    exact ⟨another, outcome, second, first, paired, ended⟩
  · rintro ⟨another, outcome, second, first, paired, ended⟩
    exact ⟨outcome, another, first, second, paired, ended⟩

/-- A module with two methods that call the same placeholder. -/
def twoCalls : Module where
  name := "Lib"
  types := [{ name := "T", space := "", flags := TypeDef.publicFlag, methods := [⟨0⟩, ⟨1⟩] }]
  topLevel := [⟨0⟩]
  methods := ["M", "N"].map fun name =>
    { name
      returnType := "void"
      declaringType := ⟨0⟩
      body := some (Body.ofInstrs
        [⟨.call, .member (.method "T" "_initblk" "void _initblk()")⟩, ⟨.ret, .none⟩]) }

/-- The run before any request. -/
def beforeCalls : Noted Unit Progress := ⟨⟨⟨twoCalls, {}⟩, {}⟩, []⟩

/-- Serving a request for the operation on one of the methods. -/
def replaceCall (target : MethodId) (request : Request) : Step Unit (Option String) :=
  Patcher.serve {} (Rule.onBody "PatchInitblk" "Replaces calls to _initblk with the initblk opcode"
    fun _ => discard (Rule.substituteAll "_initblk" .initblk)) (.method target) request

/-- The two calls are replaced in either order. -/
theorem serve_in_either_order_twoCalls :
    ((replaceCall ⟨0⟩ { rule := "PatchInitblk" }).apply
      ((replaceCall ⟨1⟩ { rule := "PatchInitblk" }).apply beforeCalls).2).1.toOption = some none ∧
    ((replaceCall ⟨1⟩ { rule := "PatchInitblk" }).apply
      ((replaceCall ⟨0⟩ { rule := "PatchInitblk" }).apply beforeCalls).2).2 =
    ((replaceCall ⟨0⟩ { rule := "PatchInitblk" }).apply
      ((replaceCall ⟨1⟩ { rule := "PatchInitblk" }).apply beforeCalls).2).2 := by
  have listed : Rule.onBody "PatchInitblk" "Replaces calls to _initblk with the initblk opcode"
      (fun _ => discard (Rule.substituteAll "_initblk" .initblk)) ∈
        (Rule.builtIn : List (Rule Unit)) := by
    simp [Rule.builtIn, Rule.forSubstitution]
  have apart : editedMethod {} beforeCalls.state.workspace.module ⟨0⟩ ≠
      editedMethod {} beforeCalls.state.workspace.module ⟨1⟩ := by decide +kernel
  obtain ⟨first, _, joined, _⟩ := serve_in_either_order listed rfl listed rfl apart
    { rule := "PatchInitblk" } { rule := "PatchInitblk" }
  have served : ((replaceCall ⟨0⟩ { rule := "PatchInitblk" }).apply beforeCalls).1.toOption =
      some none := by decide +kernel
  exact ⟨(congrArg Except.toOption first).trans served, joined⟩

end Patcher
end Retrofit

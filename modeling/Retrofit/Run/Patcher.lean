import Retrofit.Body.Finish
import Retrofit.Module.StateMachine
import Retrofit.Pass.Basic
import Retrofit.Rule.BuiltIn
import Retrofit.Run.Report

/-!
Runs: every request in a module is served by its rule, then every pass is made. A run that fails
leaves the module as it was.
-/

namespace Retrofit

/-- What a run needs: the rules, the settings, and the passes in order. -/
structure Patcher (ν : Type) where
  registry : Registry ν
  config : Config := {}
  passes : List Pass := []

/-- A run with the rules that are there from the start. -/
def Patcher.withBuiltIns (config : Config) (passes : List Pass) : Patcher ν :=
  ⟨Registry.builtIn, config, passes⟩

/-- How far a run has come. -/
structure Progress where
  workspace : Workspace
  report : Report := {}

abbrev Step (ν α : Type) := Edit (Noted ν Progress) α

namespace Step

def module : Step ν Module := do return (← get).state.workspace.module

def onWorkspace (edit : Edit (Noted ν Workspace) α) : Step ν α :=
  Noted.within (fun ⟨workspace, report⟩ => (workspace, fun workspace => ⟨workspace, report⟩)) edit

def onModule (edit : Edit Module α) : Step ν α :=
  onWorkspace (Noted.quietly (Workspace.onModule edit))

def report (change : Report → Report) : Step ν Unit :=
  modify fun noted =>
    { noted with state := { noted.state with report := change noted.state.report } }

/-- A step whose failure is reported as that of a rule or a pass on a member. -/
def onBehalfOf (member rule : String) (step : Step ν α) : Step ν α :=
  tryCatch step fun source => throw (.ruleFailed member rule source)

/-- An edit of a body of the module at a cursor, with its notes. -/
def atBody (id : MethodId) (cursor : Cursor) (edit : Edit (Noted ν Cursor) α) : Step ν α :=
  let focus (workspace : Workspace) : Cursor × (Cursor → Workspace) :=
    (cursor, fun cursor =>
      { workspace with
        module := workspace.module.withMethod id fun method =>
          { method with body := some cursor.body } })
  onWorkspace (Noted.within focus edit)

end Step

namespace Patcher

/-- The method whose body a request on a method is about. -/
def editedMethod (config : Config) (module : Module) (target : MethodId) : MethodId :=
  if config.intoStateMachines then (module.stateMachine? target).getD target else target

/-- Checks a body that was edited and brings its branches into form. Yields how many became long, or
nothing where bodies are left alone. -/
def settle (config : Config) (method : String) : Edit Cursor (Option Nat) := do
  if config.finishBodies then
    return some (← Cursor.onBody (Body.finish method config.policy config.passLimit))
  else
    return none

/-- Serves a request on the body of a method. Yields the name of the edited method if it is another
one. -/
def serveOnBody (config : Config) (serve : BodyTask → Edit (Noted ν Cursor) Unit)
    (member : MemberId) (request : Request) : Step ν (Option String) := do
  let module ← Step.module
  let .method target := member
    | throw (.invalidTarget request.rule (module.nameOf member) "method")
  let method := editedMethod config module target
  let name := module.methodName method
  let some body := (← Edit.demand (module.methodAt method)).body
    | throw (.invalidTarget request.rule name "method with a body")
  let bare := module.withMethod method fun method => { method with body := none }
  let widened ← Step.atBody method { body, method := name } do
    serve ⟨bare, method, target, request⟩
    Noted.quietly (settle config name)
  if let some count := widened then
    Step.report fun report =>
      { report with
        bodiesFinished := report.bodiesFinished + 1
        branchesLengthened := report.branchesLengthened + count }
  return if method = target then none else some name

def serve (config : Config) (rule : Rule ν) (member : MemberId) (request : Request) :
    Step ν (Option String) :=
  match rule.handler with
  | .member serve => do
    Step.onWorkspace (serve ⟨member, request⟩)
    return none
  | .body serve => serveOnBody config serve member request

def serveRequest (patcher : Patcher ν) (member : MemberId) (request : Request) :
    Step ν Unit := do
  let name := (← Step.module).nameOf member
  let some rule := patcher.registry.get? request.rule
    | throw (.unknownRule request.rule name)
  let elsewhere ←
    Step.onBehalfOf name request.rule (serve patcher.config rule member request)
  Step.report fun report =>
    { report with applied := report.applied ++ [⟨request.rule, name, elsewhere⟩] }

/-- Serves the requests that a member has now, and then takes them away if so configured. -/
def serveMember (patcher : Patcher ν) (member : MemberId) : Step ν Unit := do
  let requests ← Edit.demand ((← Step.module).requests member)
  if !requests.isEmpty then
    requests.forM (patcher.serveRequest member)
    if patcher.config.dropServed then
      Step.onModule (Module.dropRequests member)

/-- Serves a type, then the fields and the methods it has by then. -/
def serveType (patcher : Patcher ν) (id : TypeId) : Step ν Unit := do
  patcher.serveMember (.type id)
  let type ← Edit.demand ((← Step.module).typeAt id)
  type.fields.forM fun field => patcher.serveMember (.field field)
  type.methods.forM fun method => patcher.serveMember (.method method)

def makePass (config : Config) (pass : Pass) : Step ν Unit := do
  let name := (← Step.module).name
  let changed ← Step.onBehalfOf name pass.name (Step.onModule (pass.apply config))
  Step.report fun report => { report with passes := report.passes ++ [(pass.name, changed)] }

/-- Serves all types of the module as it is at the start, then makes the passes. -/
def steps (patcher : Patcher ν) : Step ν Unit := do
  (← Step.module).typesInOrder.forM patcher.serveType
  patcher.passes.forM (makePass patcher.config)

/-- Runs on a module. Only a run that succeeds changes it; notes are kept in any case. -/
def run (patcher : Patcher ν) : Edit (Noted ν Module) Report := ExceptT.mk fun noted =>
  let start : Noted ν Progress := ⟨⟨⟨noted.state, {}⟩, {}⟩, noted.notes⟩
  match patcher.steps.apply start with
  | (.ok (), done) => (.ok done.state.report, ⟨done.state.workspace.module, done.notes⟩)
  | (.error error, done) => (.error error, ⟨noted.state, done.notes⟩)

end Patcher
end Retrofit

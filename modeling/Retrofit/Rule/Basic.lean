import Retrofit.Cursor.Search
import Retrofit.Cursor.Write
import Retrofit.Module.Names
import Retrofit.Rule.Ledger

/-!
Rules: named handlers for the requests that members carry. A rule works on the declarations of the
module, or on the body of a method.
-/

namespace Retrofit

/-- A state beside which a rule can leave notes for its host. Notes outlive a failure. -/
structure Noted (ν σ : Type) where
  state : σ
  notes : List ν := []

namespace Noted

def quietly (edit : Edit σ α) : Edit (Noted ν σ) α :=
  Edit.within (fun ⟨state, notes⟩ => (state, fun state => ⟨state, notes⟩)) edit

def note (entry : ν) : Edit (Noted ν σ) Unit :=
  modify fun noted => { noted with notes := noted.notes ++ [entry] }

def within (focus : σ → ρ × (ρ → σ)) (edit : Edit (Noted ν ρ) α) : Edit (Noted ν σ) α :=
  Edit.within
    (fun ⟨state, notes⟩ =>
      let (part, close) := focus state
      (⟨part, notes⟩, fun ⟨part, notes⟩ => ⟨close part, notes⟩))
    edit

end Noted

/-- What rules for declarations work on. -/
structure Workspace where
  module : Module
  ledger : Ledger := {}

namespace Workspace

def onModule (edit : Edit Module α) : Edit Workspace α :=
  Edit.within (fun ⟨module, ledger⟩ => (module, fun module => ⟨module, ledger⟩)) edit

def onLedger (edit : Edit Ledger α) : Edit Workspace α :=
  Edit.within (fun ⟨module, ledger⟩ => (ledger, fun ledger => ⟨module, ledger⟩)) edit

end Workspace

/-- A request to be served on a declaration: the member that carries it and the request. -/
structure MemberTask where
  target : MemberId
  request : Request

def MemberTask.methodTarget (task : MemberTask) (module : Module) : Except PatchError MethodId :=
  match task.target with
  | .method id => .ok id
  | member => .error (.invalidTarget task.request.rule (module.nameOf member) "method")

/-- A request to be served on a body. `method` is the one whose body is edited and `target` the one
that carries the request; they differ when a state machine holds the code. The module lacks the
body. -/
structure BodyTask where
  module : Module
  method : MethodId
  target : MethodId
  request : Request

/-- Whether the code of the annotated method is elsewhere. -/
def BodyTask.isElsewhere (task : BodyTask) : Bool := task.method ≠ task.target

/-- The qualified name of the method whose body is edited. -/
def BodyTask.editedName (task : BodyTask) : String := task.module.methodName task.method

/-- How a rule serves a request. -/
inductive Handler (ν : Type) where
  | member (serve : MemberTask → Edit (Noted ν Workspace) Unit)
  | body (serve : BodyTask → Edit (Noted ν Cursor) Unit)

/-- A rule under the name by which requests call for it. -/
structure Rule (ν : Type) where
  name : String
  handler : Handler ν
  description : String := "No description available"

namespace Rule

def onMember (name description : String) (serve : MemberTask → Edit Workspace Unit) : Rule ν :=
  ⟨name, .member fun task => Noted.quietly (serve task), description⟩

def onBody (name description : String) (serve : BodyTask → Edit Cursor Unit) : Rule ν :=
  ⟨name, .body fun task => Noted.quietly (serve task), description⟩

/-- A rule for declarations that is announced, but cannot serve a request. -/
def unhandledMember (name : String) : Rule ν where
  name
  handler := .member fun task => do
    let noted ← get
    let target := noted.state.module.nameOf task.target
    throw (.malformed (.unhandled name "member" target))

/-- A rule for bodies that is announced, but cannot serve a request. -/
def unhandledBody (name : String) : Rule ν where
  name
  handler := .body fun task => throw (.malformed (.unhandled name "IL" task.editedName))

end Rule
end Retrofit

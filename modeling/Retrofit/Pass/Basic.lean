import Retrofit.Module.Names
import Retrofit.Run.Config

/-!
Passes: changes to a module as a whole, made once in a run after the rules.
-/

namespace Retrofit

/-- A named change to a module. It yields whether it changed anything. -/
structure Pass where
  name : String
  description : String
  apply : Config → Edit Module Bool

/-- Edits the body of a method, and does nothing where there is none. -/
def Module.editBody (id : MethodId) (edit : Edit Body Nat) : Edit Module Nat := do
  let module ← get
  match (module.methods[id.index]?).bind MethodDef.body with
  | none => return 0
  | some body =>
    let focus (module : Module) : Body × (Body → Module) :=
      (body, fun body => module.withMethod id fun method => { method with body := some body })
    Edit.within focus edit

def Edit.total (edits : List (Edit σ Nat)) : Edit σ Nat :=
  match edits with
  | [] => return 0
  | edit :: rest => do
    let count ← edit
    return count + (← total rest)

end Retrofit

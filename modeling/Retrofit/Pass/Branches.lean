import Retrofit.Pass.Basic

/-!
The pass that brings the branches of all bodies into form.
-/

namespace Retrofit

def Module.methodIds (module : Module) : List MethodId :=
  (List.range module.methods.length).map MethodId.mk

/-- Chooses the forms of all branches, under a policy of its own or that of the run. -/
def Pass.formBranches (policy : Option BranchPolicy := none) : Pass where
  name := "FixShortLongOps"
  description := "Normalizes short and long branch forms in every body"
  apply config := do
    let module ← get
    let policy := policy.getD config.policy
    let widened ← Edit.total <| module.methodIds.map fun id =>
      Module.editBody id (Body.formBranches policy config.passLimit)
    return 0 < widened

end Retrofit

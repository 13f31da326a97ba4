import Retrofit.Pass.Branches
import Retrofit.Pass.Debugging
import Retrofit.Pass.Enumerator
import Retrofit.Pass.References
import Retrofit.Proofs.Module.Members

/-!
The passes that are there from the start. Some work on the module as a whole and ignore its members,
the others edit bodies and leave everything else alone.
-/

namespace Retrofit

/-- The passes that are there from the start. -/
inductive Pass.IsBuiltIn : Pass → Prop where
  | replaceReferences (filter : ReferenceFilter) (replacement : AssemblyRef) :
      IsBuiltIn (.replaceReferences filter replacement)
  | synchronizeVersions : IsBuiltIn .synchronizeVersions
  | repairEnumerators : IsBuiltIn .repairEnumerators
  | formBranches (policy : Option BranchPolicy) : IsBuiltIn (.formBranches policy)
  | setDebuggingModes (modes : Int32) : IsBuiltIn (.setDebuggingModes modes)

namespace Pass

theorem ignoresMembers_replaceReferences (filter : ReferenceFilter) (replacement : AssemblyRef)
    (config : Config) :
    Module.IgnoresMembers ((Pass.replaceReferences filter replacement).apply config) :=
  fun _ _ _ _ => rfl

theorem ignoresMembers_synchronizeVersions (config : Config) :
    Module.IgnoresMembers (Pass.synchronizeVersions.apply config) :=
  fun _ _ _ _ => rfl

theorem ignoresMembers_setDebuggingModes (modes : Int32) (config : Config) :
    Module.IgnoresMembers ((setDebuggingModes modes).apply config) := by
  intro module types methods fields
  dsimp only [setDebuggingModes]
  rw [Edit.apply_bind, Edit.apply_bind]
  simp only [Edit.apply_get]
  cases withModes? modes module.attributes <;> rfl

/-- A pass that edits the bodies of some methods keeps what each of its edits keeps. -/
theorem keeps_bodies {property : Module → Prop} {ids : Module → List MethodId}
    {edits : Module → MethodId → Edit Body Nat}
    (kept : ∀ module id, (Module.editBody id (edits module id)).Keeps property) :
    Edit.Keeps property do
      let module ← get
      let count ← Edit.total ((ids module).map fun id => Module.editBody id (edits module id))
      return decide (0 < count) := by
  refine .bind .get fun module => .bind ?_ fun count => .pure _
  refine Edit.keeps_total fun edit listed => ?_
  obtain ⟨edited, _, rfl⟩ := List.mem_map.1 listed
  exact kept module edited

/-- A property that sees nothing of a module beside its members outlives a pass if it outlives what
passes do to bodies. -/
theorem IsBuiltIn.preserves {property : Module → Prop} {pass : Pass} (builtIn : pass.IsBuiltIn)
    (config : Config)
    (beside : ∀ {module : Module} references dependencies attributes, property module →
      property { module with references, dependencies, attributes })
    (calls : ∀ id method, (Module.editBody id (Body.callHelpers method)).Keeps property)
    (forms : ∀ id policy passes, (Module.editBody id (Body.formBranches policy passes)).Keeps
      property) :
    (pass.apply config).Keeps property := by
  cases builtIn with
  | replaceReferences filter replacement =>
    exact fun module held _ _ => beside _ _ module.attributes held
  | synchronizeVersions =>
    exact fun module held _ _ => beside _ module.dependencies module.attributes held
  | repairEnumerators => exact keeps_bodies fun module id => calls id (module.methodName id)
  | formBranches policy =>
    exact keeps_bodies fun _ id => forms id (policy.getD config.policy) config.passLimit
  | setDebuggingModes modes =>
    intro module held _ _
    dsimp only [Pass.setDebuggingModes]
    rw [Edit.apply_bind]
    simp only [Edit.apply_get]
    cases withModes? modes module.attributes with
    | none => exact held
    | some attributes => exact beside module.references module.dependencies attributes held

/-- A pass leaves all members with what they hold and with their requests. -/
theorem IsBuiltIn.keepsMembers {pass : Pass} (builtIn : pass.IsBuiltIn) (config : Config)
    (origin : Module) : (pass.apply config).Keeps origin.SameMembers := by
  refine builtIn.preserves config (fun _ _ _ held => ?beside) (fun id _ module held _ _ => ?calls)
    fun id _ _ module held _ _ => ?forms
  case beside => exact held.trans (Module.sameMembers_of_same rfl rfl rfl)
  case calls => exact held.trans (module.sameMembers_editBody id _)
  case forms => exact held.trans (module.sameMembers_editBody id _)

end Pass
end Retrofit

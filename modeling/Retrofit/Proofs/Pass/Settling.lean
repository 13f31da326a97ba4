import Retrofit.Proofs.Body.DirectCalls
import Retrofit.Proofs.Body.Settling
import Retrofit.Proofs.Module.Outline
import Retrofit.Proofs.Pass.BuiltIn

/-!
What each of the passes that are there from the start seeks. A pass says that it changed the module
exactly if it did, and finds nothing to change in what it leaves.
-/

namespace Retrofit

namespace Module

variable {module after : Module}

section Replacement

variable (filter : ReferenceFilter) (replacement : AssemblyRef)

/-- The replacement is among the references, and the filter accepts nothing else. -/
structure Replaced (module : Module) : Prop where
  present : module.references.any (module.isReplacement replacement) = true
  only : ∀ ref ∈ module.references, filter.accepts module.hash ref = true →
    module.isReplacement replacement ref = true

/-- The references after a replacement. -/
def replacedReferences (module : Module) : List AssemblyRef :=
  if module.references.any (module.isReplacement replacement) then
    module.remaining filter replacement
  else module.remaining filter replacement ++ [replacement]

/-- The dependencies after a replacement. -/
def replacedDependencies (module : Module) : List AssemblyRef :=
  let dependencies := module.undisturbed (module.displaced filter replacement)
  if module.references.any (module.isReplacement replacement) ||
      dependencies.any (module.isReplacement replacement) then dependencies
  else dependencies ++ [replacement]

theorem apply_replaceReferences (module : Module) :
    (replaceReferences filter replacement).apply module =
      (.ok (!(module.displaced filter replacement).isEmpty ||
          !module.references.any (module.isReplacement replacement)),
        { module with
          references := module.replacedReferences filter replacement
          dependencies := module.replacedDependencies filter replacement }) := rfl

variable {filter replacement}

theorem displaced_eq_nil :
    module.displaced filter replacement = [] ↔
      ∀ ref ∈ module.references, filter.accepts module.hash ref = true →
        module.isReplacement replacement ref = true := by
  simp only [displaced, List.filter_eq_nil_iff, Bool.and_eq_true, Bool.not_eq_true', not_and]
  exact forall₂_congr fun ref _ => by
    cases module.isReplacement replacement ref <;> simp

/-- Nothing is reported exactly where the replacement has been made. -/
theorem replaced_iff :
    module.Replaced filter replacement ↔
      (!(module.displaced filter replacement).isEmpty ||
        !module.references.any (module.isReplacement replacement)) = false := by
  simp only [Bool.or_eq_false_iff, Bool.not_eq_false', List.isEmpty_iff, displaced_eq_nil]
  exact ⟨fun replaced => ⟨replaced.only, replaced.present⟩, fun both => ⟨both.2, both.1⟩⟩

theorem mem_remaining {ref : AssemblyRef} :
    ref ∈ module.remaining filter replacement ↔ ref ∈ module.references ∧
      (filter.accepts module.hash ref = true → module.isReplacement replacement ref = true) := by
  rw [remaining, List.mem_filter]
  cases filter.accepts module.hash ref <;> simp

theorem isReplacement_self (module : Module) (replacement : AssemblyRef) :
    module.isReplacement replacement replacement = true :=
  replacement.denotesSame_refl module.hash

/-- Among the references after a replacement is the replacement itself, and the filter accepts no
other. -/
theorem replaced_replacedReferences (filter : ReferenceFilter) (replacement : AssemblyRef)
    (module : Module) (dependencies : List AssemblyRef) :
    Replaced filter replacement
      { module with references := module.replacedReferences filter replacement, dependencies } := by
  unfold replacedReferences
  split
  · next present =>
    obtain ⟨ref, listed, same⟩ := List.any_eq_true.1 present
    refine ⟨List.any_eq_true.2 ⟨ref, mem_remaining.2 ⟨listed, fun _ => same⟩, same⟩, ?_⟩
    exact fun ref left => (mem_remaining.1 left).2
  · refine ⟨List.any_eq_true.2 ⟨replacement, by simp, isReplacement_self module replacement⟩, ?_⟩
    intro ref left accepted
    rcases List.mem_append.1 left with left | added
    · exact (mem_remaining.1 left).2 accepted
    · obtain rfl := List.mem_singleton.1 added
      exact isReplacement_self module ref

/-- A replacement that has been made leaves everything as it is. -/
theorem Replaced.eq (replaced : module.Replaced filter replacement) :
    module.replacedReferences filter replacement = module.references ∧
      module.replacedDependencies filter replacement = module.dependencies := by
  have none := displaced_eq_nil.2 replaced.only
  refine ⟨?_, ?_⟩
  · rw [replacedReferences, if_pos replaced.present, remaining, List.filter_eq_self]
    intro ref listed
    cases accepted : filter.accepts module.hash ref with
    | false => simp
    | true => simp [replaced.only ref listed accepted]
  · rw [replacedDependencies, replaced.present, Bool.true_or, if_pos rfl, none]
    exact List.filter_eq_self.2 fun _ _ => rfl

theorem seeks_replaceReferences (filter : ReferenceFilter) (replacement : AssemblyRef) :
    (replaceReferences filter replacement).Seeks (Replaced filter replacement) false where
  rests {module} replaced := by
    obtain ⟨references, dependencies⟩ := replaced.eq
    rw [apply_replaceReferences, replaced_iff.1 replaced, references, dependencies]
  reaches {module changed after} done unmet := by
    rw [apply_replaceReferences] at done
    cases done
    exact ⟨fun quiet => unmet (replaced_iff.2 quiet), replaced_replacedReferences ..⟩

end Replacement

/-- Every reference has the version of the dependency that it means. -/
def Synchronized (module : Module) : Prop :=
  ∀ ref ∈ module.references, module.synchronized ref = ref

/-- Which dependency a reference means does not depend on its version. -/
theorem synchronized_eq {ref other : AssemblyRef} (same : { ref with version := other.version } = other)
    (meant : (module.dependencies.find? fun dependency =>
      dependency.denotesSame module.hash ref).isSome) :
    module.synchronized other = module.synchronized ref := by
  obtain ⟨dependency, found⟩ := Option.isSome_iff_exists.1 meant
  rw [← same]
  have again : (module.dependencies.find? fun dependency =>
      dependency.denotesSame module.hash { ref with version := other.version }) =
        some dependency := found
  simp only [synchronized, found, again]

theorem synchronized_synchronized (module : Module) (ref : AssemblyRef) :
    module.synchronized (module.synchronized ref) = module.synchronized ref := by
  cases found : module.dependencies.find? fun dependency =>
      dependency.denotesSame module.hash ref with
  | none =>
    have alone : module.synchronized ref = ref := by simp only [synchronized, found]
    rw [alone, alone]
  | some dependency =>
    refine synchronized_eq ?_ (by rw [found]; rfl)
    simp only [synchronized, found]

theorem synchronized_iff :
    module.Synchronized ↔ module.references.map module.synchronized = module.references := by
  conv_rhs => rhs; rw [← List.map_id module.references]
  exact List.map_inj_left.symm

theorem lagsBehind_iff {ref : AssemblyRef} :
    module.lagsBehind ref = true ↔ module.synchronized ref ≠ ref := by
  obtain ⟨name, version, culture, identity⟩ := ref
  rw [lagsBehind, synchronized]
  split
  · simp only [ne_eq, AssemblyRef.mk.injEq, true_and, and_true, decide_eq_true_eq]
    exact not_congr eq_comm
  · simp

/-- Some reference gets another version just where the references become others. -/
theorem any_lagsBehind (module : Module) :
    module.references.any module.lagsBehind =
      decide (module.references.map module.synchronized ≠ module.references) := by
  rw [Bool.eq_iff_iff, List.any_eq_true, decide_eq_true_iff, ne_eq, ← synchronized_iff, Synchronized]
  simp only [lagsBehind_iff, ne_eq, not_forall, exists_prop]

theorem apply_synchronizeVersions (module : Module) :
    synchronizeVersions.apply module =
      (.ok (decide (module.references.map module.synchronized ≠ module.references)),
        { module with references := module.references.map module.synchronized }) := by
  rw [← any_lagsBehind]
  rfl

theorem seeks_synchronizeVersions : synchronizeVersions.Seeks Synchronized false where
  rests {module} synchronized := by
    rw [apply_synchronizeVersions, synchronized_iff.1 synchronized]
    simp
  reaches {module changed after} done unmet := by
    rw [apply_synchronizeVersions] at done
    cases done
    refine ⟨by simpa [synchronized_iff] using unmet, fun ref listed => ?_⟩
    obtain ⟨old, _, rfl⟩ := List.mem_map.1 listed
    exact synchronized_synchronized module old

theorem areModes_self (modes : Int32) : areModes modes [.enum debuggingModesType (.int32 modes)] = true := by
  simp [areModes]

theorem withModes?_of_withModes? {modes : Int32} {held attributes : List Attribute}
    (changed : withModes? modes held = some attributes) : withModes? modes attributes = none := by
  induction held generalizing attributes with
  | nil => cases changed
  | cons first rest ih =>
    unfold withModes? at changed
    split at changed
    · next debuggable =>
      split at changed
      · cases changed
      · cases changed
        simp [withModes?, debuggable, areModes_self]
    · next other =>
      obtain ⟨later, set, rfl⟩ := Option.map_eq_some_iff.1 changed
      simp [withModes?, other, ih set]

/-- The attributes state the modes, where they state any. -/
def ModesSet (modes : Int32) (module : Module) : Prop := withModes? modes module.attributes = none

theorem seeks_setDebuggingModes (modes : Int32) (config : Config) :
    ((Pass.setDebuggingModes modes).apply config).Seeks (ModesSet modes) false where
  rests {module} set := by
    dsimp only [Pass.setDebuggingModes]
    rw [Edit.apply_bind]
    simp only [Edit.apply_get]
    rw [show withModes? modes module.attributes = none from set]
    rfl
  reaches {module changed after} done unmet := by
    dsimp only [Pass.setDebuggingModes] at done
    rw [Edit.apply_bind] at done
    simp only [Edit.apply_get] at done
    cases made : withModes? modes module.attributes with
    | none => exact absurd made unmet
    | some attributes =>
      rw [made] at done
      cases done
      exact ⟨by simp, withModes?_of_withModes? made⟩

theorem outline_editBody (module : Module) (id : MethodId) (edit : Edit Body Nat) :
    ((editBody id edit).apply module).2.outline = module.outline := by
  rw [apply_editBody]
  cases module.bodyOf? id with
  | none => rfl
  | some body => exact outline_withMethod module id fun _ => rfl

theorem keeps_outline (origin : Module) (ids : List MethodId) (edits : MethodId → Edit Body Nat) :
    (Edit.total (ids.map fun id => editBody id (edits id))).Keeps (outline · = origin) := by
  refine Edit.keeps_total fun edit listed => ?_
  obtain ⟨id, _, rfl⟩ := List.mem_map.1 listed
  exact fun module same _ _ => (outline_editBody module id _).trans same

/-- A pass that edits the bodies of some methods seeks in each of them what its edits seek, if the
methods can be told from the outline. -/
theorem seeks_bodies {goal : Body → Prop} {ids : Module → List MethodId}
    {edits : Module → MethodId → Edit Body Nat}
    (each : ∀ module id, (edits module id).Seeks goal 0)
    (stable : ∀ {module after : Module}, after.outline = module.outline → ids after = ids module) :
    Edit.Seeks (fun module => ∀ id ∈ ids module, AllAt goal id module)
      (do
        let module ← get
        let count ← Edit.total ((ids module).map fun id => editBody id (edits module id))
        return decide (0 < count))
      false where
  rests {module} met := by
    have rested := (seeks_editBodies (each module) (ids module)).rests met
    refine Edit.bind_eq_ok.2 ⟨module, module, rfl, Edit.bind_eq_ok.2 ⟨0, module, rested, rfl⟩⟩
  reaches {module changed after} done unmet := by
    obtain ⟨_, _, ⟨⟩, went⟩ := Edit.bind_eq_ok.1 done
    obtain ⟨count, _, ran, ended⟩ := Edit.bind_eq_ok.1 went
    cases ended
    obtain ⟨told, met⟩ := (seeks_editBodies (each module) (ids module)).reaches ran unmet
    have same : after.outline = module.outline :=
      (keeps_outline module.outline (ids module) (edits module)).of_eq_ok ran rfl
    refine ⟨by simpa [Nat.pos_iff_ne_zero] using told, ?_⟩
    rwa [stable same]

theorem enumeratorMethods_outline (module : Module) :
    module.outline.enumeratorMethods = module.enumeratorMethods := by
  rw [enumeratorMethods, typesInOrder_outline]
  rfl

theorem methodIds_outline (module : Module) : module.outline.methodIds = module.methodIds := by
  simp [methodIds, outline]

/-- The enumerators call no helper virtually. -/
def Repaired (module : Module) : Prop :=
  ∀ id ∈ module.enumeratorMethods, AllAt Body.Direct id module

theorem seeks_repairEnumerators (config : Config) :
    (Pass.repairEnumerators.apply config).Seeks Repaired false :=
  seeks_bodies (fun module id => Body.seeks_callHelpers (module.methodName id)) fun same => by
    rw [← enumeratorMethods_outline, same, enumeratorMethods_outline]

/-- All bodies have the form of a policy, and there are the passes to find this out. -/
def BranchesSettled (policy : BranchPolicy) (passes : Nat) (module : Module) : Prop :=
  ∀ id ∈ module.methodIds, AllAt (Body.Settled policy passes) id module

theorem seeks_formBranches (policy : Option BranchPolicy) (config : Config) :
    ((Pass.formBranches policy).apply config).Seeks
      (BranchesSettled (policy.getD config.policy) config.passLimit) false :=
  seeks_bodies (fun _ _ => Body.seeks_formBranches _ _) fun same => by
    rw [← methodIds_outline, same, methodIds_outline]

end Module

namespace Pass

/-- Where the pass finds nothing to change, and says so. -/
def Rests (config : Config) (pass : Pass) (module : Module) : Prop :=
  (pass.apply config).apply module = (.ok false, module)

/-- Every pass seeks a module in which it rests. -/
theorem IsBuiltIn.seeks {pass : Pass} (builtIn : pass.IsBuiltIn) (config : Config) :
    (pass.apply config).Seeks (pass.Rests config) false := by
  have rests {goal : Module → Prop} (seeks : (pass.apply config).Seeks goal false) :
      (pass.apply config).Seeks (pass.Rests config) false := by
    have same : pass.Rests config = goal := funext fun module => propext seeks.rests_iff
    exact same ▸ seeks
  cases builtIn with
  | replaceReferences filter replacement => exact rests (Module.seeks_replaceReferences ..)
  | synchronizeVersions => exact rests Module.seeks_synchronizeVersions
  | repairEnumerators => exact rests (Module.seeks_repairEnumerators config)
  | formBranches policy => exact rests (Module.seeks_formBranches policy config)
  | setDebuggingModes modes => exact rests (Module.seeks_setDebuggingModes modes config)

/-- A pass, whatever its configuration, says that it changed the module exactly if what it leaves is
another module, and made once more on that it says that it did not and leaves it as it is. -/
theorem IsBuiltIn.changed_iff_and_rests {pass : Pass} {config : Config} {module after : Module}
    {changed : Bool} (builtIn : pass.IsBuiltIn)
    (made : (pass.apply config).apply module = (.ok changed, after)) :
    (changed = true ↔ after ≠ module) ∧ (pass.apply config).apply after = (.ok false, after) := by
  have seeks := builtIn.seeks config
  exact ⟨by rw [← seeks.changed_iff made]; cases changed <;> simp, seeks.arrives made⟩

/-- Two references of a family make way for one that replaces them, and the pass has done its work. -/
theorem changed_iff_and_rests_family :
    let replacement : AssemblyRef := { name := "FNA", version := ⟨24, 1, 0, 0⟩ }
    let family (name : String) : AssemblyRef := { name, version := ⟨4, 0, 0, 0⟩ }
    let before : Module :=
      { name := "Game"
        references := [family "Microsoft.Xna.Framework", family "Microsoft.Xna.Framework.Game"] }
    let after : Module :=
      { name := "Game", references := [replacement], dependencies := [replacement] }
    let pass := Pass.replaceReferences (.opening "Microsoft.Xna") replacement
    (pass.apply {}).apply before = (.ok true, after) ∧ after ≠ before ∧
      (pass.apply {}).apply after = (.ok false, after) := by
  intro replacement family before after pass
  have made : (pass.apply {}).apply before = (.ok true, after) := by cbv
  obtain ⟨changed, rests⟩ := IsBuiltIn.changed_iff_and_rests (.replaceReferences _ _) made
  exact ⟨made, changed.1 rfl, rests⟩

end Pass
end Retrofit

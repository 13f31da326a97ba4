import Retrofit.Proofs.Module.Tree
import Retrofit.Proofs.Pass.Settling
import Retrofit.Proofs.Pass.Width

/-!
Passes made one after the other. A pass that has found its rest keeps it while others are made, apart
from the two that work on references: the one changes versions, the other which references there are.
-/

namespace Retrofit

/-- The filter lets a version decide about a reference that does not mean the replacement. -/
def ReferenceFilter.JudgesVersions (filter : ReferenceFilter) (replacement : AssemblyRef) : Prop :=
  ∃ algorithm ref version, AssemblyRef.denotesSame algorithm ref replacement = false ∧
    filter.accepts algorithm { ref with version } = true ∧ filter.accepts algorithm ref = false

/-- Only a condition of one's own can judge by versions: names and tokens do not tell them. -/
theorem ReferenceFilter.JudgesVersions.isCustom {filter : ReferenceFilter}
    {replacement : AssemblyRef} (judges : filter.JudgesVersions replacement) :
    ∃ accepts, filter = .custom accepts := by
  obtain ⟨algorithm, ref, version, _, accepted, rejected⟩ := judges
  cases filter with
  | custom accepts => exact ⟨accepts, rfl⟩
  | named name => exact absurd (rejected.symm.trans accepted) Bool.false_ne_true
  | opening text => exact absurd (rejected.symm.trans accepted) Bool.false_ne_true
  | token value => exact absurd (rejected.symm.trans accepted) Bool.false_ne_true

/-- After the first pass has been made, the second can undo what it brought about. -/
inductive Pass.UnsettledBy : Pass → Pass → Prop where
  | replacing (filter : ReferenceFilter) (replacement : AssemblyRef) :
      UnsettledBy .synchronizeVersions (.replaceReferences filter replacement)
  | synchronizing (filter : ReferenceFilter) (replacement : AssemblyRef)
      (judges : filter.JudgesVersions replacement) :
      UnsettledBy (.replaceReferences filter replacement) .synchronizeVersions

namespace Body

theorem direct_lengthened {body : Body} : body.lengthened.Direct ↔ body.Direct := by
  simp only [Direct, instrs_lengthened, List.forall_mem_map, Matcher.blind_helperCallvirt _]

theorem keeps_direct_formBranches (policy : BranchPolicy) (passes : Nat) :
    (formBranches policy passes).Keeps Direct := by
  intro body direct _ _
  rw [← direct_lengthened, lengthened_formBranches, direct_lengthened]
  exact direct

theorem keeps_settled_callHelpers (method : String) (policy : BranchPolicy) (passes : Nat) :
    (callHelpers method).Keeps (Settled policy passes) :=
  fun body settled _ _ => ⟨settled.1.twin (twin_callHelpers body method), settled.2⟩

end Body

namespace Module

variable {module after : Module} {filter : ReferenceFilter} {replacement : AssemblyRef}

theorem isReplacement_synchronized (module : Module) (replacement ref : AssemblyRef) :
    module.isReplacement replacement (module.synchronized ref) =
      module.isReplacement replacement ref := by
  unfold synchronized
  split <;> rfl

theorem exists_synchronized (module : Module) (ref : AssemblyRef) :
    ∃ version, module.synchronized ref = { ref with version } := by
  unfold synchronized
  split
  · next dependency _ => exact ⟨dependency.version, rfl⟩
  · exact ⟨ref.version, rfl⟩

/-- Other versions leave a replacement made, unless the filter judges by them. -/
theorem Replaced.synchronized (replaced : module.Replaced filter replacement)
    (blind : ¬ filter.JudgesVersions replacement) :
    Replaced filter replacement
      { module with references := module.references.map module.synchronized } := by
  obtain ⟨present, only⟩ := replaced
  refine ⟨?_, ?_⟩
  · obtain ⟨ref, listed, same⟩ := List.any_eq_true.1 present
    refine List.any_eq_true.2 ⟨_, List.mem_map_of_mem listed, ?_⟩
    exact (isReplacement_synchronized module replacement ref).trans same
  · intro ref listed accepted
    obtain ⟨old, was, rfl⟩ := List.mem_map.1 listed
    obtain ⟨version, same⟩ := module.exists_synchronized old
    refine (isReplacement_synchronized module replacement old).trans ?_
    by_cases before : filter.accepts module.hash old = true
    · exact only old was before
    · rw [same] at accepted
      exact Decidable.byContradiction fun other => blind
        ⟨module.hash, old, version, Bool.not_eq_true _ ▸ other, accepted, Bool.not_eq_true _ ▸ before⟩

theorem enumeratorMethods_of_types (types : after.types = module.types)
    (topLevel : after.topLevel = module.topLevel) :
    after.enumeratorMethods = module.enumeratorMethods := by
  have order := typesInOrder_of_parts (congrArg (List.map TypeDef.parts) types) topLevel
  rw [enumeratorMethods, enumeratorMethods, order, types]

theorem Repaired.of_members (repaired : module.Repaired) (types : after.types = module.types)
    (topLevel : after.topLevel = module.topLevel) (methods : after.methods = module.methods) :
    after.Repaired := by
  intro id listed body has
  rw [enumeratorMethods_of_types types topLevel] at listed
  rw [bodyOf?, methods] at has
  exact repaired id listed body has

theorem BranchesSettled.of_methods {policy : BranchPolicy} {passes : Nat}
    (settled : module.BranchesSettled policy passes) (methods : after.methods = module.methods) :
    after.BranchesSettled policy passes := by
  intro id listed body has
  rw [methodIds, methods] at listed
  rw [bodyOf?, methods] at has
  exact settled id listed body has

theorem keeps_editBody_of_outline {property : Module → Prop}
    (read : ∀ module : Module, property module.outline ↔ property module) (id : MethodId)
    (edit : Edit Body Nat) : (editBody id edit).Keeps property := by
  intro module held _ _
  rw [← read, outline_editBody, read]
  exact held

/-- An edit of a body keeps what the bodies of some methods have in common, if it keeps that. -/
theorem keeps_editBody_allAt {goal : Body → Prop} {targets : Module → List MethodId}
    (read : ∀ module : Module, targets module.outline = targets module) {edit : Edit Body Nat}
    (kept : edit.Keeps goal) (id : MethodId) :
    (editBody id edit).Keeps fun module => ∀ other ∈ targets module, AllAt goal other module := by
  intro module held count done other listed
  rw [← read, outline_editBody, read] at listed
  exact keeps_allAt_editBody kept id other module (held other listed) count done

end Module

namespace Pass

variable {other : Pass}

theorem keeps_setDebuggingModes {property : Module → Prop}
    (blind : ∀ (module : Module) (attributes : List Attribute), property module →
      property { module with attributes })
    (modes : Int32) (config : Config) :
    ((setDebuggingModes modes).apply config).Keeps property := by
  intro module held _ _
  dsimp only [setDebuggingModes]
  rw [Edit.apply_bind]
  simp only [Edit.apply_get]
  cases withModes? modes module.attributes with
  | none => exact held
  | some attributes => exact blind module attributes held

section Keeps

variable (also : other.IsBuiltIn) (config : Config)

include also

theorem keeps_replaced {filter : ReferenceFilter} {replacement : AssemblyRef}
    (apart : "ReplaceAssemblyRefs" ≠ other.name)
    (settled : ¬ (replaceReferences filter replacement).UnsettledBy other) :
    (other.apply config).Keeps (Module.Replaced filter replacement) := by
  have read (module : Module) : Module.Replaced filter replacement module.outline ↔
      module.Replaced filter replacement :=
    ⟨fun held => ⟨held.1, held.2⟩, fun held => ⟨held.1, held.2⟩⟩
  cases also with
  | replaceReferences => exact absurd rfl apart
  | synchronizeVersions =>
    intro module replaced _ _
    exact replaced.synchronized fun judges => settled (.synchronizing filter replacement judges)
  | repairEnumerators =>
    exact keeps_bodies fun _ id => Module.keeps_editBody_of_outline read id _
  | formBranches => exact keeps_bodies fun _ id => Module.keeps_editBody_of_outline read id _
  | setDebuggingModes modes =>
    exact keeps_setDebuggingModes (fun _ _ held => ⟨held.1, held.2⟩) modes config

theorem keeps_synchronized (apart : "SyncReferenceVersions" ≠ other.name)
    (settled : ¬ synchronizeVersions.UnsettledBy other) :
    (other.apply config).Keeps Module.Synchronized := by
  have read (module : Module) : module.outline.Synchronized ↔ module.Synchronized := Iff.rfl
  cases also with
  | replaceReferences filter replacement => exact absurd (.replacing filter replacement) settled
  | synchronizeVersions => exact absurd rfl apart
  | repairEnumerators =>
    exact keeps_bodies fun _ id => Module.keeps_editBody_of_outline read id _
  | formBranches => exact keeps_bodies fun _ id => Module.keeps_editBody_of_outline read id _
  | setDebuggingModes modes =>
    exact keeps_setDebuggingModes (fun _ _ held => held) modes config

theorem keeps_modesSet (modes : Int32) (apart : "SetDebuggableModes" ≠ other.name) :
    (other.apply config).Keeps (Module.ModesSet modes) := by
  have read (module : Module) : module.outline.ModesSet modes ↔ module.ModesSet modes := Iff.rfl
  cases also with
  | replaceReferences => exact fun _ held _ _ => held
  | synchronizeVersions => exact fun _ held _ _ => held
  | repairEnumerators =>
    exact keeps_bodies fun _ id => Module.keeps_editBody_of_outline read id _
  | formBranches => exact keeps_bodies fun _ id => Module.keeps_editBody_of_outline read id _
  | setDebuggingModes => exact absurd rfl apart

theorem keeps_repaired (apart : "FixEnumeratorDecompile" ≠ other.name) :
    (other.apply config).Keeps Module.Repaired := by
  cases also with
  | replaceReferences => exact fun _ held _ _ => held.of_members rfl rfl rfl
  | synchronizeVersions => exact fun _ held _ _ => held.of_members rfl rfl rfl
  | repairEnumerators => exact absurd rfl apart
  | formBranches policy =>
    exact keeps_bodies fun _ id =>
      Module.keeps_editBody_allAt Module.enumeratorMethods_outline
        (Body.keeps_direct_formBranches _ _) id
  | setDebuggingModes modes =>
    exact keeps_setDebuggingModes (fun _ _ held => held.of_members rfl rfl rfl) modes config

theorem keeps_branchesSettled (policy : BranchPolicy) (passes : Nat)
    (apart : "FixShortLongOps" ≠ other.name) :
    (other.apply config).Keeps (Module.BranchesSettled policy passes) := by
  cases also with
  | replaceReferences => exact fun _ held _ _ => held.of_methods rfl
  | synchronizeVersions => exact fun _ held _ _ => held.of_methods rfl
  | repairEnumerators =>
    exact keeps_bodies fun _ id =>
      Module.keeps_editBody_allAt Module.methodIds_outline
        (Body.keeps_settled_callHelpers _ policy passes) id
  | formBranches => exact absurd rfl apart
  | setDebuggingModes modes =>
    exact keeps_setDebuggingModes (fun _ _ held => held.of_methods rfl) modes config

end Keeps

/-- Where a pass rests, it does so after another one, unless that unsettles it. -/
theorem IsBuiltIn.keeps_rests {pass : Pass} (builtIn : pass.IsBuiltIn) (also : other.IsBuiltIn)
    (apart : pass.name ≠ other.name) (settled : ¬ pass.UnsettledBy other) (config : Config) :
    (other.apply config).Keeps (pass.Rests config) := by
  have of_goal {goal : Module → Prop} (seeks : (pass.apply config).Seeks goal false)
      (kept : (other.apply config).Keeps goal) : (other.apply config).Keeps (pass.Rests config) := by
    have same : pass.Rests config = goal := funext fun _ => propext seeks.rests_iff
    exact same ▸ kept
  cases builtIn with
  | replaceReferences filter replacement =>
    exact of_goal (Module.seeks_replaceReferences filter replacement)
      (keeps_replaced also config apart settled)
  | synchronizeVersions =>
    exact of_goal Module.seeks_synchronizeVersions (keeps_synchronized also config apart settled)
  | repairEnumerators =>
    exact of_goal (Module.seeks_repairEnumerators config) (keeps_repaired also config apart)
  | formBranches policy =>
    exact of_goal (Module.seeks_formBranches policy config)
      (keeps_branchesSettled also config _ _ apart)
  | setDebuggingModes modes =>
    exact of_goal (Module.seeks_setDebuggingModes modes config)
      (keeps_modesSet also config modes apart)

/-- Passes made in order, from one module to another, with what they report. -/
inductive Series (config : Config) : List Pass → Module → List (String × Bool) → Module → Prop where
  | nil (module : Module) : Series config [] module [] module
  | cons {pass : Pass} {passes : List Pass} {module between after : Module} {changed : Bool}
      {entries : List (String × Bool)}
      (made : (pass.apply config).apply module = (.ok changed, between))
      (rest : Series config passes between entries after) :
      Series config (pass :: passes) module ((pass.name, changed) :: entries) after

variable {config : Config} {passes later : List Pass} {module between after : Module}
  {entries more : List (String × Bool)}

theorem Series.append (first : Series config passes module entries between)
    (second : Series config later between more after) :
    Series config (passes ++ later) module (entries ++ more) after := by
  induction first with
  | nil => exact second
  | cons made _ ih => exact .cons made (ih second)

theorem Series.exists_suffix (series : Series config (passes ++ later) module entries after) :
    ∃ between more, Series config later between more after := by
  induction passes generalizing module entries with
  | nil => exact ⟨module, entries, series⟩
  | cons pass rest ih =>
    cases series with
    | cons made series => exact ih series

/-- What each pass keeps, the series keeps. -/
theorem Series.keeps {property : Module → Prop} (series : Series config passes module entries after)
    (kept : ∀ pass ∈ passes, (pass.apply config).Keeps property) (held : property module) :
    property after := by
  induction series with
  | nil => exact held
  | @cons pass rest module between after changed _ made _ ih =>
    refine ih (fun other listed => kept other (List.mem_cons_of_mem _ listed)) ?_
    exact (kept pass List.mem_cons_self).of_eq_ok made held

/-- What passes report that find nothing to change. -/
def unchanged (passes : List Pass) : List (String × Bool) :=
  passes.map fun pass => (pass.name, false)

theorem series_of_rests (rests : ∀ pass ∈ passes, pass.Rests config module) :
    Series config passes module (unchanged passes) module := by
  induction passes with
  | nil => exact .nil module
  | cons pass rest ih =>
    have later := ih fun other listed => rests other (List.mem_cons_of_mem _ listed)
    exact .cons (rests pass List.mem_cons_self) later

/-- Passes that report no change rest where they are made. -/
theorem Series.rests_of_unchanged (builtIn : ∀ pass ∈ passes, pass.IsBuiltIn)
    (series : Series config passes module (unchanged passes) after) :
    ∀ pass ∈ passes, pass.Rests config module := by
  induction passes generalizing module with
  | nil => exact nofun
  | cons pass rest ih =>
    cases series with
    | cons made series =>
      have seeks := (builtIn pass List.mem_cons_self).seeks config
      obtain rfl := seeks.eq_of_rests made
      have later := ih (fun other listed => builtIn other (List.mem_cons_of_mem _ listed)) series
      exact List.forall_mem_cons.2 ⟨made, later⟩

/-- In the end a pass rests that is not unsettled by those behind it. -/
theorem Series.rests_of_mem {pass : Pass} (builtIn : ∀ other ∈ passes ++ pass :: later, other.IsBuiltIn)
    (distinct : ((passes ++ pass :: later).map Pass.name).Nodup)
    (settled : ∀ other ∈ later, ¬ pass.UnsettledBy other)
    (series : Series config (passes ++ pass :: later) module entries after) :
    pass.Rests config after := by
  have known : pass.IsBuiltIn := builtIn pass (by simp)
  obtain ⟨_, _, series⟩ := series.exists_suffix
  cases series with
  | cons made rest =>
    refine rest.keeps (fun other listed => ?_) ((known.seeks config).arrives made)
    refine known.keeps_rests (builtIn other (by simp [listed])) ?_ (settled other listed) config
    rw [List.map_append, List.map_cons, List.nodup_append] at distinct
    exact fun same => (List.nodup_cons.1 distinct.2.1).1 (same ▸ List.mem_map_of_mem listed)

/-- No pass is unsettled by one behind it. -/
def Orderly (passes : List Pass) : Prop :=
  passes.Pairwise fun earlier later => ¬ earlier.UnsettledBy later

/-- In the end all passes of an orderly series rest. -/
theorem Series.rests (builtIn : ∀ pass ∈ passes, pass.IsBuiltIn)
    (distinct : (passes.map Pass.name).Nodup) (orderly : Orderly passes)
    (series : Series config passes module entries after) :
    ∀ pass ∈ passes, pass.Rests config after := by
  intro pass listed
  obtain ⟨earlier, later, rfl⟩ := List.append_of_mem listed
  have settled := (List.pairwise_cons.1 (List.pairwise_append.1 orderly).2.1).1
  exact series.rests_of_mem builtIn distinct settled

end Pass

end Retrofit

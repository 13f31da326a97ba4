import Retrofit.Proofs.Pass.Series

/-!
What the order of passes decides. Only the passes that work on references can leave each other
something to do, and where one is unsettled by a later one there is a module in which that happens.
-/

namespace Retrofit.Pass

/-- The names of the passes that work on references. -/
def onReferences : List String := ["ReplaceAssemblyRefs", "SyncReferenceVersions"]

variable {config : Config} {pass : Pass} {passes : List Pass} {module after : Module}
  {entries : List (String × Bool)}

theorem name_replaceReferences (filter : ReferenceFilter) (replacement : AssemblyRef) :
    (replaceReferences filter replacement).name ∈ onReferences := List.mem_cons_self

theorem name_synchronizeVersions : synchronizeVersions.name ∈ onReferences := by decide

theorem name_formBranches (policy : Option BranchPolicy) :
    (formBranches policy).name ∉ onReferences := by
  simp [formBranches, onReferences]

theorem name_setDebuggingModes (modes : Int32) : (setDebuggingModes modes).name ∉ onReferences := by
  simp [setDebuggingModes, onReferences]

/-- Where a pass rests that does not work on references, it does so whatever the references are. -/
theorem IsBuiltIn.rests_withReferences (builtIn : pass.IsBuiltIn)
    (other : pass.name ∉ onReferences) (rests : pass.Rests config module)
    (references dependencies : List AssemblyRef) :
    pass.Rests config { module with references, dependencies } := by
  cases builtIn with
  | replaceReferences => exact absurd (name_replaceReferences ..) other
  | synchronizeVersions => exact absurd name_synchronizeVersions other
  | repairEnumerators =>
    have seeks := Module.seeks_repairEnumerators config
    exact seeks.rests (Module.Repaired.of_members (seeks.arrives rests) rfl rfl rfl)
  | formBranches policy =>
    have seeks := Module.seeks_formBranches policy config
    exact seeks.rests (Module.BranchesSettled.of_methods (seeks.arrives rests) rfl)
  | setDebuggingModes modes =>
    have seeks := Module.seeks_setDebuggingModes modes config
    exact seeks.rests (seeks.arrives rests : module.ModesSet modes)

theorem UnsettledBy.names {other : Pass} (unsettled : pass.UnsettledBy other) :
    pass.name ∈ onReferences ∧ other.name ∈ onReferences := by
  cases unsettled with
  | replacing => exact ⟨name_synchronizeVersions, name_replaceReferences ..⟩
  | synchronizing => exact ⟨name_replaceReferences .., name_synchronizeVersions⟩

/-- Passes on references never fail, and change nothing else. -/
theorem IsBuiltIn.exists_made (builtIn : pass.IsBuiltIn) (named : pass.name ∈ onReferences)
    (config : Config) (module : Module) :
    ∃ changed references dependencies, (pass.apply config).apply module =
      (.ok changed, { module with references, dependencies }) := by
  cases builtIn with
  | replaceReferences filter replacement => exact ⟨_, _, _, rfl⟩
  | synchronizeVersions => exact ⟨_, _, module.dependencies, rfl⟩
  | repairEnumerators => exact absurd named (by decide)
  | formBranches policy => exact absurd named (name_formBranches policy)
  | setDebuggingModes modes => exact absurd named (name_setDebuggingModes modes)

theorem exists_series (builtIn : ∀ pass ∈ passes, pass.IsBuiltIn)
    (rests : ∀ pass ∈ passes, pass.name ∉ onReferences → pass.Rests config module) :
    ∃ entries references dependencies,
      Series config passes module entries { module with references, dependencies } ∧
        ∀ entry ∈ entries, entry.2 = true → entry.1 ∈ onReferences := by
  induction passes generalizing module with
  | nil => exact ⟨[], module.references, module.dependencies, .nil module, nofun⟩
  | cons pass rest ih =>
    have known := builtIn pass List.mem_cons_self
    have later := fun other (listed : other ∈ rest) => builtIn other (List.mem_cons_of_mem _ listed)
    by_cases named : pass.name ∈ onReferences
    · obtain ⟨changed, references, dependencies, made⟩ := known.exists_made named config module
      obtain ⟨entries, _, _, series, only⟩ := @ih { module with references, dependencies } later
        fun other listed plain => (later other listed).rests_withReferences plain
          (rests other (List.mem_cons_of_mem _ listed) plain) references dependencies
      exact ⟨_, _, _, .cons made series, List.forall_mem_cons.2 ⟨fun _ => named, only⟩⟩
    · have made := rests pass List.mem_cons_self named
      obtain ⟨entries, _, _, series, only⟩ :=
        ih later fun other listed => rests other (List.mem_cons_of_mem _ listed)
      exact ⟨_, _, _, .cons made series, List.forall_mem_cons.2 ⟨nofun, only⟩⟩

/-- After a series, the passes that do not work on references rest, in whatever order they were. -/
theorem Series.rests_plain (builtIn : ∀ pass ∈ passes, pass.IsBuiltIn)
    (distinct : (passes.map Pass.name).Nodup) (series : Series config passes module entries after) :
    ∀ pass ∈ passes, pass.name ∉ onReferences → pass.Rests config after := by
  intro pass listed plain
  obtain ⟨earlier, later, rfl⟩ := List.append_of_mem listed
  exact series.rests_of_mem builtIn distinct fun _ _ unsettled => plain unsettled.names.1

/-- A module that has nothing but references and dependencies. -/
def bare (hash : HashAlgorithm) (references dependencies : List AssemblyRef) : Module :=
  { name := "", references, dependencies, hash }

theorem IsBuiltIn.rests_bare (builtIn : pass.IsBuiltIn) (plain : pass.name ∉ onReferences)
    (config : Config) (hash : HashAlgorithm) (references dependencies : List AssemblyRef) :
    pass.Rests config (bare hash references dependencies) := by
  cases builtIn with
  | replaceReferences => exact absurd (name_replaceReferences ..) plain
  | synchronizeVersions => exact absurd name_synchronizeVersions plain
  | repairEnumerators => exact (Module.seeks_repairEnumerators config).rests nofun
  | formBranches policy => exact (Module.seeks_formBranches policy config).rests nofun
  | setDebuggingModes modes => exact (Module.seeks_setDebuggingModes modes config).rests rfl

theorem not_mem_onReferences {first second : Pass} (named : first.name ∈ onReferences)
    (also : second.name ∈ onReferences) (apart : first.name ≠ second.name)
    (other : pass.name ≠ first.name) (another : pass.name ≠ second.name) :
    pass.name ∉ onReferences := by
  simp only [onReferences, List.mem_cons, List.not_mem_nil, or_false] at named also ⊢
  rcases named with named | named <;> rcases also with also | also <;> simp_all

/-- Two passes on references, and others in front, between and behind, make of a bare module what the
two make of it alone. -/
theorem exists_series_bare {first second : Pass} {hash : HashAlgorithm}
    {references dependencies between after : List AssemblyRef} {changed again : Bool}
    (builtIn : ∀ pass ∈ passes, pass.IsBuiltIn) (distinct : (passes.map Pass.name).Nodup)
    (both : [first, second].Sublist passes)
    (named : first.name ∈ onReferences) (also : second.name ∈ onReferences)
    (one : (first.apply config).apply (bare hash references dependencies) =
      (.ok changed, bare hash between dependencies))
    (two : (second.apply config).apply (bare hash between dependencies) =
      (.ok again, bare hash after dependencies)) :
    ∃ entries, Series config passes (bare hash references dependencies) entries
      (bare hash after dependencies) := by
  obtain ⟨_, _, rfl, early, late⟩ := List.cons_sublist_iff.1 both
  obtain ⟨s, t, rfl⟩ := List.append_of_mem early
  obtain ⟨u, v, rfl⟩ := List.append_of_mem (List.singleton_sublist.1 late)
  have order : (s ++ first :: t ++ (u ++ second :: v)).Perm
      (second :: first :: (s ++ t ++ (u ++ v))) :=
    (List.perm_middle.append List.perm_middle).trans List.perm_middle
  obtain ⟨unlike, rest⟩ := List.nodup_cons.1 ((order.map Pass.name).nodup_iff.1 distinct)
  obtain ⟨unlikeFirst, _⟩ := List.nodup_cons.1 rest
  have rests (other : Pass) (listed : other ∈ s ++ t ++ (u ++ v)) (references : List AssemblyRef) :
      other.Rests config (bare hash references dependencies) := by
    have known := builtIn other (order.mem_iff.2 (by simp only [List.mem_cons, listed, or_true]))
    refine known.rests_bare (not_mem_onReferences named also ?_ ?_ ?_) config _ _ _
    · exact fun same => unlike (by simp [same])
    · exact fun same => unlikeFirst (same ▸ List.mem_map_of_mem listed)
    · exact fun same => unlike (List.mem_cons_of_mem _ (same ▸ List.mem_map_of_mem listed))
  have idle (group : List Pass) (inside : group ⊆ s ++ t ++ (u ++ v)) (references : List AssemblyRef) :
      Series config group (bare hash references dependencies) (unchanged group)
        (bare hash references dependencies) :=
    series_of_rests fun other listed => rests other (inside listed) references
  have start := idle s (fun _ listed => by simp [listed]) references
  have middle := idle t (fun _ listed => by simp [listed]) between
  have further := idle u (fun _ listed => by simp [listed]) between
  have last := idle v (fun _ listed => by simp [listed]) after
  exact ⟨_, (start.append (.cons one middle)).append (further.append (.cons two last))⟩

/-- Another version than the one given. -/
def otherVersion (version : Version) : Version :=
  { version with major := if version.major = 0 then 1 else 0 }

theorem otherVersion_ne (version : Version) : otherVersion version ≠ version := by
  intro same
  have major : (otherVersion version).major = version.major := by rw [same]
  unfold otherVersion at major
  split at major <;> simp_all

/-- A replacement that comes too late: the references are in line with the dependencies, and then one
is added that is not. -/
theorem not_rests_synchronizeVersions (replacement : AssemblyRef) (config : Config) :
    ¬ synchronizeVersions.Rests config (bare .sha1 [replacement]
      [{ replacement with version := otherVersion replacement.version }]) := by
  intro rests
  have same := Module.seeks_synchronizeVersions.arrives rests replacement List.mem_cons_self
  have denotes : AssemblyRef.denotesSame .sha1
      { replacement with version := otherVersion replacement.version } replacement = true :=
    replacement.denotesSame_refl .sha1
  simp only [Module.synchronized, bare, List.find?_cons, denotes] at same
  exact otherVersion_ne replacement.version (congrArg AssemblyRef.version same)

theorem apply_replaceReferences_bare (filter : ReferenceFilter) (replacement : AssemblyRef)
    (version : Version) (config : Config) :
    ((replaceReferences filter replacement).apply config).apply
        (bare .sha1 [] [{ replacement with version }]) =
      (.ok true, bare .sha1 [replacement] [{ replacement with version }]) := by
  have denotes : AssemblyRef.denotesSame .sha1 { replacement with version } replacement = true :=
    replacement.denotesSame_refl .sha1
  refine (Module.apply_replaceReferences filter replacement _).trans ?_
  simp [Module.displaced, Module.replacedReferences, Module.replacedDependencies, Module.remaining,
    Module.undisturbed, Module.isReplacement, bare, denotes]

section Judging

variable {filter : ReferenceFilter} {replacement ref : AssemblyRef} {algorithm : HashAlgorithm}
  {version : Version} (apart : AssemblyRef.denotesSame algorithm ref replacement = false)

include apart

theorem rests_replaceReferences_bare (rejected : filter.accepts algorithm ref = false)
    (dependencies : List AssemblyRef) (config : Config) :
    (replaceReferences filter replacement).Rests config
      (bare algorithm [replacement, ref] dependencies) := by
  refine (Module.seeks_replaceReferences filter replacement).rests ⟨?_, fun other listed accepted => ?_⟩
  · exact List.any_eq_true.2 ⟨replacement, List.mem_cons_self, replacement.denotesSame_refl algorithm⟩
  · simp only [bare, List.mem_cons, List.not_mem_nil, or_false] at listed
    rcases listed with rfl | rfl
    · exact other.denotesSame_refl algorithm
    · rw [show filter.accepts algorithm other = true from accepted] at rejected
      cases rejected

theorem apply_synchronizeVersions_bare (version : Version) (config : Config) :
    ∃ changed, (synchronizeVersions.apply config).apply
        (bare algorithm [replacement, ref] [{ ref with version }]) =
      (.ok changed, bare algorithm [replacement, { ref with version }] [{ ref with version }]) := by
  have unlike : AssemblyRef.denotesSame algorithm { ref with version } replacement = false := apart
  have denotes : AssemblyRef.denotesSame algorithm { ref with version } ref = true :=
    ref.denotesSame_refl algorithm
  refine ⟨_, (Module.apply_synchronizeVersions _).trans (Prod.ext rfl ?_)⟩
  simp [Module.synchronized, bare, unlike, denotes]

/-- A version that comes too late: the filter accepts the reference once it has it. -/
theorem not_rests_replaceReferences (accepted : filter.accepts algorithm { ref with version } = true)
    (dependencies : List AssemblyRef) (config : Config) :
    ¬ (replaceReferences filter replacement).Rests config
      (bare algorithm [replacement, { ref with version }] dependencies) := by
  intro rests
  have replaced := (Module.seeks_replaceReferences filter replacement).arrives rests
  have listed : { ref with version } ∈ [replacement, { ref with version }] := by simp
  have denotes : AssemblyRef.denotesSame algorithm { ref with version } replacement = true :=
    replaced.only _ listed accepted
  have unlike : AssemblyRef.denotesSame algorithm { ref with version } replacement = false := apart
  exact absurd (unlike.symm.trans denotes) Bool.false_ne_true

end Judging

/-- Bringing versions in line unsettles a replacement exactly if its filter judges by versions. -/
theorem unsettledBy_synchronizeVersions (filter : ReferenceFilter) (replacement : AssemblyRef) :
    (replaceReferences filter replacement).UnsettledBy synchronizeVersions ↔
      filter.JudgesVersions replacement := by
  refine ⟨fun unsettled => ?_, .synchronizing filter replacement⟩
  generalize made : replaceReferences filter replacement = pass at unsettled
  generalize synchronizeVersions = other at unsettled
  cases unsettled with
  | replacing => exact absurd (congrArg Pass.name made) (by simp [replaceReferences, synchronizeVersions])
  | synchronizing like other judges =>
    -- The pass can be made of another filter, but then it rests in the same modules.
    obtain ⟨algorithm, ref, version, apart, accepted, rejected⟩ := judges
    have rests := rests_replaceReferences_bare apart rejected [] {}
    have restless := not_rests_replaceReferences apart accepted [] {}
    rw [← made] at rests restless
    have seeks := Module.seeks_replaceReferences filter replacement
    obtain ⟨present, only⟩ := seeks.arrives rests
    have first : filter.accepts algorithm other = true →
        AssemblyRef.denotesSame algorithm other replacement = true :=
      only other List.mem_cons_self
    have second : filter.accepts algorithm ref = true →
        AssemblyRef.denotesSame algorithm ref replacement = true :=
      only ref (List.mem_cons_of_mem _ List.mem_cons_self)
    by_contra blind
    refine restless (seeks.rests ⟨present, fun found listed accepts => ?_⟩)
    simp only [bare, List.mem_cons, List.not_mem_nil, or_false] at listed
    rcases listed with rfl | rfl
    · exact first accepts
    · change AssemblyRef.denotesSame algorithm ref replacement = true
      by_contra unlike
      refine blind ⟨algorithm, ref, version, Bool.not_eq_true _ ▸ unlike, accepts, ?_⟩
      exact Bool.not_eq_true _ ▸ fun accepts => unlike (second accepts)

/-- Where the order is not kept, there is a bare module of which the passes make one that leaves one of
them something to do. -/
theorem exists_series_of_not_orderly (builtIn : ∀ pass ∈ passes, pass.IsBuiltIn)
    (distinct : (passes.map Pass.name).Nodup) (disorderly : ¬ Orderly passes) (config : Config) :
    ∃ hash references dependencies entries after,
      Series config passes (bare hash references dependencies) entries
        (bare hash after dependencies) ∧
      ∃ pass ∈ passes, ¬ pass.Rests config (bare hash after dependencies) := by
  rw [Orderly, List.pairwise_iff_forall_sublist] at disorderly
  simp only [not_forall, not_not] at disorderly
  obtain ⟨first, second, both, unsettled⟩ := disorderly
  have listed : first ∈ passes := both.subset List.mem_cons_self
  cases unsettled with
  | replacing filter replacement =>
    obtain ⟨entries, series⟩ := exists_series_bare builtIn distinct both name_synchronizeVersions
      (name_replaceReferences ..)
      (Module.seeks_synchronizeVersions.rests fun _ listed => absurd listed List.not_mem_nil)
      (apply_replaceReferences_bare filter replacement (otherVersion replacement.version) config)
    exact ⟨_, _, _, entries, _, series, _, listed, not_rests_synchronizeVersions replacement config⟩
  | synchronizing filter replacement judges =>
    obtain ⟨algorithm, ref, version, apart, accepted, rejected⟩ := judges
    obtain ⟨_, synchronized⟩ := apply_synchronizeVersions_bare apart version config
    obtain ⟨entries, series⟩ := exists_series_bare builtIn distinct both (name_replaceReferences ..)
      name_synchronizeVersions (rests_replaceReferences_bare apart rejected _ config) synchronized
    exact ⟨_, _, _, entries, _, series, _, listed,
      not_rests_replaceReferences apart accepted _ config⟩

end Retrofit.Pass

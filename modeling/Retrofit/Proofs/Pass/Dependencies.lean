import Retrofit.Proofs.Pass.Settling

/-!
What the replacement of references does to the dependencies. A reference that goes away takes along
the dependencies that are for it, whichever other references they are for. What this leaves for the
references that are kept is `Module.inStep_iff`.
-/

namespace Retrofit.Module

variable {module : Module} {filter : ReferenceFilter} {replacement ref dependency : AssemblyRef}

/-- Some dependency is for the reference. -/
def Provides (module : Module) (ref : AssemblyRef) : Prop :=
  ∃ dependency ∈ module.dependencies, dependency.denotesSame module.hash ref = true

/-- No dependency is both for a reference that goes away and for one that is kept. -/
def Unshared (module : Module) (filter : ReferenceFilter) (replacement : AssemblyRef) : Prop :=
  ∀ dependency ∈ module.dependencies, ∀ gone ∈ module.displaced filter replacement,
    dependency.denotesSame module.hash gone = true →
      ∀ kept ∈ module.remaining filter replacement, dependency.denotesSame module.hash kept = false

/-- What is kept has a dependency if it had one, and the dependencies that go away are for nothing that
is kept. -/
structure InStep (module after : Module) (kept : List AssemblyRef) : Prop where
  provided : ∀ ref ∈ kept, module.Provides ref → after.Provides ref
  unneeded : ∀ dependency ∈ module.dependencies, dependency ∉ after.dependencies →
    ∀ ref ∈ kept, dependency.denotesSame module.hash ref = false

/-- The module that a replacement leaves. -/
def replaced (module : Module) (filter : ReferenceFilter) (replacement : AssemblyRef) : Module :=
  ((replaceReferences filter replacement).apply module).2

theorem not_isReplacement_of_displaced (gone : ref ∈ module.displaced filter replacement) :
    module.isReplacement replacement ref = false := by
  have both := (List.mem_filter.1 gone).2
  rw [Bool.and_eq_true, Bool.not_eq_true'] at both
  exact both.1

theorem mem_undisturbed :
    dependency ∈ module.undisturbed (module.displaced filter replacement) ↔
      dependency ∈ module.dependencies ∧ ∀ gone ∈ module.displaced filter replacement,
        dependency.denotesSame module.hash gone = false := by
  simp [undisturbed]

/-- Only the replacement is added to the dependencies, and only where it is added to the references
as well. -/
theorem mem_replacedDependencies :
    dependency ∈ module.replacedDependencies filter replacement ↔
      dependency ∈ module.undisturbed (module.displaced filter replacement) ∨
        dependency = replacement ∧
          module.references.any (module.isReplacement replacement) = false ∧
          (module.undisturbed (module.displaced filter replacement)).any
            (module.isReplacement replacement) = false := by
  simp only [replacedDependencies]
  cases module.references.any (module.isReplacement replacement) with
  | true => simp
  | false =>
    rw [Bool.false_or]
    cases (module.undisturbed (module.displaced filter replacement)).any
      (module.isReplacement replacement) <;> simp

/-- A dependency goes away exactly with a reference that it is for. -/
theorem mem_dependencies_replaced (listed : dependency ∈ module.dependencies) :
    dependency ∈ (module.replaced filter replacement).dependencies ↔
      ∀ gone ∈ module.displaced filter replacement,
        dependency.denotesSame module.hash gone = false := by
  show dependency ∈ module.replacedDependencies filter replacement ↔ _
  rw [mem_replacedDependencies, mem_undisturbed]
  constructor
  · rintro (⟨_, free⟩ | ⟨rfl, _⟩) gone displaced
    · exact free gone displaced
    · rw [AssemblyRef.denotesSame_comm]
      exact not_isReplacement_of_displaced displaced
  · exact fun free => .inl ⟨listed, free⟩

/-- A reference that is kept has a dependency afterwards exactly if it had one that is for nothing
that goes away. An added replacement is no help, as it is for none of them. -/
theorem provides_replaced_iff (kept : ref ∈ module.remaining filter replacement) :
    (module.replaced filter replacement).Provides ref ↔
      ∃ dependency ∈ module.dependencies, dependency.denotesSame module.hash ref = true ∧
        ∀ gone ∈ module.displaced filter replacement,
          dependency.denotesSame module.hash gone = false := by
  show (∃ dependency ∈ module.replacedDependencies filter replacement,
    dependency.denotesSame module.hash ref = true) ↔ _
  simp only [mem_replacedDependencies, mem_undisturbed]
  constructor
  · rintro ⟨dependency, ⟨listed, free⟩ | ⟨rfl, absent, _⟩, means⟩
    · exact ⟨dependency, listed, means, free⟩
    · have other := List.any_eq_false.1 absent ref (mem_remaining.1 kept).1
      rw [isReplacement, AssemblyRef.denotesSame_comm] at other
      exact absurd means other
  · rintro ⟨dependency, listed, means, free⟩
    exact ⟨dependency, .inl ⟨listed, free⟩, means⟩

theorem provides_added (absent : module.references.any (module.isReplacement replacement) = false) :
    (module.replaced filter replacement).Provides replacement := by
  cases provided : (module.undisturbed (module.displaced filter replacement)).any
      (module.isReplacement replacement) with
  | true =>
    obtain ⟨dependency, listed, means⟩ := List.any_eq_true.1 provided
    exact ⟨dependency, mem_replacedDependencies.2 (.inl listed), means⟩
  | false =>
    exact ⟨replacement, mem_replacedDependencies.2 (.inr ⟨rfl, absent, provided⟩),
      replacement.denotesSame_refl module.hash⟩

/-- A replacement of references succeeds. Of the dependencies, just those stay that are for no
reference that goes away. So a reference that is kept has a dependency afterwards exactly if it had
one of these, and a replacement that is added has one in any case. All that are kept and had a
dependency have one still, and none of theirs goes away, if and only if no dependency is both for one
of them and for one that goes away. -/
theorem inStep_iff (module : Module) (filter : ReferenceFilter) (replacement : AssemblyRef) :
    (∃ changed, (replaceReferences filter replacement).apply module =
      (.ok changed, module.replaced filter replacement)) ∧
    (∀ dependency ∈ module.dependencies,
      dependency ∈ (module.replaced filter replacement).dependencies ↔
        ∀ gone ∈ module.displaced filter replacement,
          dependency.denotesSame module.hash gone = false) ∧
    (∀ ref ∈ module.remaining filter replacement,
      (module.replaced filter replacement).Provides ref ↔
        ∃ dependency ∈ module.dependencies, dependency.denotesSame module.hash ref = true ∧
          ∀ gone ∈ module.displaced filter replacement,
            dependency.denotesSame module.hash gone = false) ∧
    (module.references.any (module.isReplacement replacement) = false →
      (module.replaced filter replacement).Provides replacement) ∧
    (module.InStep (module.replaced filter replacement) (module.remaining filter replacement) ↔
      module.Unshared filter replacement) := by
  refine ⟨⟨_, apply_replaceReferences filter replacement module⟩,
    fun _ => mem_dependencies_replaced, fun ref => provides_replaced_iff, provides_added, ?_⟩
  constructor
  · intro inStep dependency listed gone displaced means
    refine inStep.unneeded dependency listed fun stays => ?_
    have free := (mem_dependencies_replaced listed).1 stays gone displaced
    rw [means] at free
    cases free
  · intro unshared
    refine ⟨?provided, ?unneeded⟩
    case provided =>
      rintro ref kept ⟨dependency, listed, means⟩
      refine (provides_replaced_iff kept).2 ⟨dependency, listed, means, fun gone displaced => ?_⟩
      refine Bool.eq_false_of_not_eq_true fun also => ?_
      have apart := unshared dependency listed gone displaced also ref kept
      rw [means] at apart
      cases apart
    case unneeded =>
      intro dependency listed away ref kept
      rw [mem_dependencies_replaced listed] at away
      obtain ⟨gone, displaced, means⟩ : ∃ gone ∈ module.displaced filter replacement,
          dependency.denotesSame module.hash gone = true := by simpa using away
      exact unshared dependency listed gone displaced means ref kept

/-- Two signed assemblies of one name, and an unsigned dependency that is for both. -/
def sharingDependency : Module where
  name := "Game"
  references :=
    [{ name := "FNA", version := ⟨1, 0, 0, 0⟩, identity := some (.token 1) },
      { name := "FNA", version := ⟨1, 0, 0, 0⟩, identity := some (.token 2) }]
  dependencies := [{ name := "FNA", version := ⟨1, 0, 0, 0⟩ }]

/-- The second assembly takes the place of the first, which takes along the dependency that it shares
with it. -/
theorem out_of_step_sharing :
    let kept : AssemblyRef :=
      { name := "FNA", version := ⟨1, 0, 0, 0⟩, identity := some (.token 2) }
    let after := sharingDependency.replaced (.named "FNA") kept
    kept ∈ sharingDependency.remaining (.named "FNA") kept ∧ after.references = [kept] ∧
      sharingDependency.Provides kept ∧ after.dependencies = [] ∧ ¬ after.Provides kept ∧
      ¬ sharingDependency.InStep after (sharingDependency.remaining (.named "FNA") kept) := by
  intro kept after
  have stays : kept ∈ sharingDependency.remaining (.named "FNA") kept := by decide +kernel
  have provided : sharingDependency.Provides kept := ⟨_, List.mem_singleton_self _, by decide +kernel⟩
  have bare : after.dependencies = [] := by decide +kernel
  have lost : ¬ after.Provides kept := by
    rintro ⟨dependency, listed, _⟩
    rw [bare] at listed
    cases listed
  exact ⟨stays, by decide +kernel, provided, bare, lost,
    fun inStep => lost (inStep.provided kept stays provided)⟩

end Retrofit.Module

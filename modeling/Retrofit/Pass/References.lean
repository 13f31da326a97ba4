import Retrofit.Pass.Basic

/-!
Passes over the references to other assemblies.
-/

namespace Retrofit

namespace Module

def isReplacement (module : Module) (replacement ref : AssemblyRef) : Bool :=
  ref.denotesSame module.hash replacement

/-- The references that a replacement displaces: those the filter accepts, apart from the replacement
itself. -/
def displaced (module : Module) (filter : ReferenceFilter) (replacement : AssemblyRef) :
    List AssemblyRef :=
  module.references.filter fun ref =>
    !module.isReplacement replacement ref && filter.accepts module.hash ref

def remaining (module : Module) (filter : ReferenceFilter) (replacement : AssemblyRef) :
    List AssemblyRef :=
  module.references.filter fun ref =>
    module.isReplacement replacement ref || !filter.accepts module.hash ref

def undisturbed (module : Module) (displaced : List AssemblyRef) : List AssemblyRef :=
  module.dependencies.filter fun dependency =>
    !displaced.any fun ref => dependency.denotesSame module.hash ref

/-- Puts one reference in place of those that the filter accepts, and adds it if it is missing. The
dependencies follow. -/
def replaceReferences (filter : ReferenceFilter) (replacement : AssemblyRef) : Edit Module Bool := do
  let module ← get
  let present := module.references.any (module.isReplacement replacement)
  let displaced := module.displaced filter replacement
  let references := module.remaining filter replacement
  let dependencies := module.undisturbed displaced
  let provided := dependencies.any (module.isReplacement replacement)
  set { module with
    references := if present then references else references ++ [replacement]
    dependencies :=
      if present || provided then dependencies else dependencies ++ [replacement] }
  return !displaced.isEmpty || !present

/-- The reference with the version of the first dependency that means the same assembly. -/
def synchronized (module : Module) (ref : AssemblyRef) : AssemblyRef :=
  match module.dependencies.find? fun dependency => dependency.denotesSame module.hash ref with
  | some dependency => { ref with version := dependency.version }
  | none => ref

/-- Whether the first dependency that means the same assembly has another version. -/
def lagsBehind (module : Module) (ref : AssemblyRef) : Bool :=
  match module.dependencies.find? fun dependency => dependency.denotesSame module.hash ref with
  | some dependency => ref.version ≠ dependency.version
  | none => false

/-- Gives every reference the version of the dependency that it means. Yields whether one of them had
another. -/
def synchronizeVersions : Edit Module Bool := do
  let module ← get
  set { module with references := module.references.map module.synchronized }
  return module.references.any module.lagsBehind

end Module

namespace Pass

def replaceReferences (filter : ReferenceFilter) (replacement : AssemblyRef) : Pass where
  name := "ReplaceAssemblyRefs"
  description := "Replaces a family of assembly references with a single reference"
  apply _ := Module.replaceReferences filter replacement

/-- Brings the versions of references in line with the dependencies. -/
def synchronizeVersions : Pass where
  name := "SyncReferenceVersions"
  description := "Aligns reference versions with the resolved dependencies"
  apply _ := Module.synchronizeVersions

end Pass
end Retrofit

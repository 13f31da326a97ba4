import Retrofit.Rule.Lookup

/-!
Guarded calls: behind a call, a hook is called as well if a flag is set.
-/

namespace Retrofit.Rule

/-- A member and whether it is used without an object. -/
structure Resolved where
  ref : MemberRef
  isStatic : Bool

def resolveFlag (module : Module) (owner : TypeId) (name : String) : Except PatchError Resolved := do
  let id ← module.fieldIn owner name
  return ⟨← module.refToField id, (← module.fieldAt id).isStatic⟩

def resolveHook (module : Module) (owner : TypeId) (name : String) : Except PatchError Resolved := do
  let id ← module.methodFrom owner name
  return ⟨← module.refToMethod id, (← module.methodAt id).flags.isStatic⟩

/-- A direct or virtual call of the method with the qualified name. -/
def targetCall (target : String) : Window :=
  let (owner, name) := cutQualified target
  [.anyCall owner name]

/-- Emits a call of the hook that is skipped unless the flag is set. -/
def emitGuardedCall (flag hook : Resolved) : Edit Cursor Unit := do
  let skip ← Cursor.newLabel
  if flag.isStatic then
    let _ ← Cursor.emit .ldsfld (.member flag.ref)
  else
    let _ ← Cursor.emit .ldarg0
    let _ ← Cursor.emit .ldfld (.member flag.ref)
  let _ ← Cursor.emit .brfalseS (.label skip)
  if !hook.isStatic then
    let _ ← Cursor.emit .ldarg0
  let _ ← Cursor.emit .call (.member hook.ref)
  Cursor.placeLabelHere skip

/-- Behind the first call of the first argument, calls the third if the second is set. -/
def guardCall (task : BodyTask) : Edit Cursor Unit := do
  let target ← Edit.demand (task.request.textArg 0)
  let flagName ← Edit.demand (task.request.textArg 1)
  let hookName ← Edit.demand (task.request.textArg 2)
  let owner ← Edit.demand (task.module.ownerOf task.method)
  let flag ← Edit.demand (resolveFlag task.module owner flagName)
  let hook ← Edit.demand (resolveHook task.module owner hookName)
  if ← Cursor.trySeek .next (targetCall target) .behind then
    emitGuardedCall flag hook
  else
    throw (.patternNotFound task.editedName ("call " ++ target))

def forGuardedCalls : List (Rule ν) :=
  [onBody "PatchGuardedCall" "Calls a hook after a target call when a flag field is set" guardCall]

end Retrofit.Rule

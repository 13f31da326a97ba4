import Retrofit.Rule.Basic

/-!
The rules for declarations: the entry point of the module, methods that implement an interface, and
names.
-/

namespace Retrofit

/-- The flags of a method that implements an interface and cannot be overridden. -/
def MethodFlags.asImplementation (flags : MethodFlags) : MethodFlags :=
  { flags with
    layout := flags.layout ||| newSlot
    modifiers := flags.modifiers ||| virtual ||| sealed }

namespace Rule

/-- Makes the annotated method the entry point. Methods can share names, so the claim is for the
identity of the method. -/
def enterAt (task : MemberTask) : Edit Workspace Unit := do
  let workspace ← get
  let method ← Edit.demand (task.methodTarget workspace.module)
  Workspace.onLedger (Ledger.claim workspace.module.name "entry_point" task.target.text)
  Workspace.onModule (modify fun module => { module with entryPoint := some method })

/-- Makes the annotated method able to implement an interface. -/
def implementInterface (task : MemberTask) : Edit Workspace Unit := do
  let workspace ← get
  let id ← Edit.demand (task.methodTarget workspace.module)
  Workspace.onModule <| Module.changeMethod id fun method =>
    { method with flags := method.flags.asImplementation }

def renameTarget (task : MemberTask) : Edit Workspace Unit := do
  let workspace ← get
  let name ← Edit.demand (task.request.textArg 0)
  if name = "" then
    throw (.invalidArgument task.request.rule "name must not be empty")
  let current := workspace.module.nameOf task.target
  Workspace.onLedger (Ledger.claimFor task.target current "name" name)
  Workspace.onModule (Module.rename task.target name)

def forDeclarations : List (Rule ν) :=
  [onMember "MakeEntryPoint" "Sets the module entry point to the annotated method" enterAt,
   onMember "PatchInterface" "Adds virtual, final and newslot to the annotated method"
     implementInterface,
   onMember "ForceName" "Renames the annotated member" renameTarget]

end Rule
end Retrofit

import Retrofit.Pass.Basic

/-!
The pass that sets how debuggers treat the module.
-/

namespace Retrofit

/-- The attribute that tells debuggers how to treat a module. -/
def debuggableAttribute : String := "System.Diagnostics.DebuggableAttribute"

def debuggingModesType : String := debuggableAttribute ++ "/DebuggingModes"

def knownDebuggingModes : Int32 := 0x107

def areModes (modes : Int32) : List Argument → Bool
  | [.enum type (.int32 value)] => type = debuggingModesType && value = modes
  | _ => false

/-- The attributes with the arguments of the first debugging attribute replaced by the modes, if they
are others. -/
def withModes? (modes : Int32) : List Attribute → Option (List Attribute)
  | [] => none
  | held :: rest =>
    if held.type = debuggableAttribute then
      if areModes modes held.args then none
      else some ({ held with args := [.enum debuggingModesType (.int32 modes)] } :: rest)
    else
      (withModes? modes rest).map (held :: ·)

/-- Sets the debugging modes of a module that states any. -/
def Pass.setDebuggingModes (modes : Int32) : Pass where
  name := "SetDebuggableModes"
  description := "Sets the debugging modes of the module's DebuggableAttribute"
  apply _ := do
    let module ← get
    match withModes? modes module.attributes with
    | none => return false
    | some attributes =>
      set { module with attributes }
      return true

end Retrofit

import Retrofit.Rule.Basic

/-!
What names in the arguments of a request mean: members of the type to which the edited method
belongs, unless they say otherwise.
-/

namespace Retrofit.Module

def ownerOf (module : Module) (method : MethodId) : Except PatchError TypeId :=
  (module.methodAt method).map MethodDef.declaringType

def lacking (module : Module) (owner : TypeId) (name : String) : PatchError :=
  .memberNotFound (module.typeName owner ++ "::" ++ name)

def fieldIn (module : Module) (owner : TypeId) (name : String) : Except PatchError FieldId :=
  match module.findField? owner name with
  | some id => .ok id
  | none => .error (module.lacking owner name)

/-- The fields along a path: each but the first belongs to the type of the one before it. -/
def pathFrom (module : Module) (owner : TypeId) : List String → Except PatchError (List MemberRef)
  | [] => .ok []
  | name :: rest => do
    let ref ← module.refToField (← module.fieldIn owner name)
    match rest with
    | [] => return [ref]
    | _ =>
      let some next := module.findType? ref.signature
        | throw (.memberNotFound ref.signature)
      return ref :: (← module.pathFrom next rest)

/-- The method that a name means: a qualified one anywhere in the module, another one in the type. -/
def methodFrom (module : Module) (owner : TypeId) (name : String) :
    Except PatchError MethodId :=
  if (Text.cutLast? [':', ':'] name.toList).isSome then
    module.methodNamed name
  else
    match module.findMethod? owner name with
    | some id => .ok id
    | none => .error (module.lacking owner name)

end Retrofit.Module

import Retrofit.Instr.Matcher
import Retrofit.Module.Basic

/-!
Qualified names of members, and finding members by them.
-/

namespace Retrofit.Module

/-- The name of a type with as many enclosing types as the first argument allows. -/
def nameWithin (module : Module) : Nat → TypeId → String
  | 0, _ => ""
  | depth + 1, id =>
    match module.types[id.index]? with
    | none => ""
    | some type =>
      match type.enclosing with
      | some outer => module.nameWithin depth outer ++ "/" ++ type.name
      | none => if type.space = "" then type.name else type.space ++ "." ++ type.name

/-- The name of a type: behind its namespace, or behind the type that encloses it. Types nest less
deep than there are types. -/
def typeName (module : Module) (id : TypeId) : String :=
  module.nameWithin module.types.length id

def methodName (module : Module) (id : MethodId) : String :=
  match module.methods[id.index]? with
  | some method => module.typeName method.declaringType ++ "::" ++ method.name
  | none => (MemberId.method id).text

def fieldName (module : Module) (id : FieldId) : String :=
  match module.fields[id.index]? with
  | some field => module.typeName field.declaringType ++ "::" ++ field.name
  | none => (MemberId.field id).text

def nameOf (module : Module) : MemberId → String
  | .type id => module.typeName id
  | .method id => module.methodName id
  | .field id => module.fieldName id

def findType? (module : Module) (name : String) : Option TypeId :=
  ((List.range module.types.length).map TypeId.mk).find? fun id => module.typeName id = name

/-- The first method of a type that goes by the simple name or the signature. -/
def findMethod? (module : Module) (owner : TypeId) (text : String) : Option MethodId := do
  let type ← module.types[owner.index]?
  type.methods.find? fun id => (module.methods[id.index]?).any fun method => method.isNamed text

def findField? (module : Module) (owner : TypeId) (name : String) : Option FieldId := do
  let type ← module.types[owner.index]?
  type.fields.find? fun id => (module.fields[id.index]?).any fun field => field.name = name

/-- Finds a member by a qualified name: its type by the part before the last double colon, then the
member by the part behind it. -/
def resolve (find : TypeId → String → Option α) (module : Module) (qualified : String) :
    Except PatchError α :=
  let found := do
    let (type, member) ← Text.cutLast? [':', ':'] qualified.toList
    let owner ← module.findType? (String.ofList type)
    find owner (String.ofList member)
  match found with
  | some id => .ok id
  | none => .error (.memberNotFound qualified)

def methodNamed (module : Module) (qualified : String) : Except PatchError MethodId :=
  resolve module.findMethod? module qualified

def fieldNamed (module : Module) (qualified : String) : Except PatchError FieldId :=
  resolve module.findField? module qualified

def refToMethod (module : Module) (id : MethodId) : Except PatchError MemberRef :=
  (module.methodAt id).map fun method =>
    .method (module.typeName method.declaringType) method.name method.signature

def refToField (module : Module) (id : FieldId) : Except PatchError MemberRef :=
  (module.fieldAt id).map fun field =>
    .field (module.typeName field.declaringType) field.name field.type

end Retrofit.Module

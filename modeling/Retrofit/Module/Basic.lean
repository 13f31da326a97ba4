import Retrofit.Assembly.Reference
import Retrofit.Edit
import Retrofit.Module.Member

/-!
Modules: the members with their identities, in order of creation, and what belongs to the module as
a whole.
-/

namespace Retrofit

/-- A module. The identity of a member is its place among the members of its sort. -/
structure Module where
  name : String
  types : List TypeDef := []
  methods : List MethodDef := []
  fields : List FieldDef := []
  topLevel : List TypeId := []
  entryPoint : Option MethodId := none
  references : List AssemblyRef := []
  dependencies : List AssemblyRef := []
  attributes : List Attribute := []
  hash : HashAlgorithm := .sha1

namespace Module

def unknown (member : MemberId) : PatchError := .memberNotFound member.text

def typeAt (module : Module) (id : TypeId) : Except PatchError TypeDef :=
  match module.types[id.index]? with
  | some type => .ok type
  | none => .error (unknown (.type id))

def methodAt (module : Module) (id : MethodId) : Except PatchError MethodDef :=
  match module.methods[id.index]? with
  | some method => .ok method
  | none => .error (unknown (.method id))

def fieldAt (module : Module) (id : FieldId) : Except PatchError FieldDef :=
  match module.fields[id.index]? with
  | some field => .ok field
  | none => .error (unknown (.field id))

/-- What the member with the identity has in common with all members. -/
def info (module : Module) : MemberId → Except PatchError MemberInfo
  | .type id => (module.typeAt id).map TypeDef.toMemberInfo
  | .method id => (module.methodAt id).map MethodDef.toMemberInfo
  | .field id => (module.fieldAt id).map FieldDef.toMemberInfo

def requests (module : Module) (member : MemberId) : Except PatchError (List Request) :=
  (module.info member).map MemberInfo.requests

def ownName (module : Module) (member : MemberId) : Except PatchError String :=
  (module.info member).map MemberInfo.name

def withType (module : Module) (id : TypeId) (change : TypeDef → TypeDef) : Module :=
  { module with types := module.types.modify id.index change }

def withMethod (module : Module) (id : MethodId) (change : MethodDef → MethodDef) : Module :=
  { module with methods := module.methods.modify id.index change }

def withField (module : Module) (id : FieldId) (change : FieldDef → FieldDef) : Module :=
  { module with fields := module.fields.modify id.index change }

def changeType (id : TypeId) (change : TypeDef → TypeDef) : Edit Module Unit := do
  let module ← get
  let _ ← Edit.demand (module.typeAt id)
  set (module.withType id change)

def changeMethod (id : MethodId) (change : MethodDef → MethodDef) : Edit Module Unit := do
  let module ← get
  let _ ← Edit.demand (module.methodAt id)
  set (module.withMethod id change)

def changeField (id : FieldId) (change : FieldDef → FieldDef) : Edit Module Unit := do
  let module ← get
  let _ ← Edit.demand (module.fieldAt id)
  set (module.withField id change)

/-- Changes what a member has in common with all members. -/
def changeInfo (member : MemberId) (change : MemberInfo → MemberInfo) : Edit Module Unit :=
  match member with
  | .type id => changeType id fun type => { type with toMemberInfo := change type.toMemberInfo }
  | .method id =>
    changeMethod id fun method => { method with toMemberInfo := change method.toMemberInfo }
  | .field id =>
    changeField id fun field => { field with toMemberInfo := change field.toMemberInfo }

def rename (member : MemberId) (name : String) : Edit Module Unit :=
  changeInfo member fun info => { info with name }

def attachRequest (member : MemberId) (request : Request) : Edit Module Unit :=
  changeInfo member fun info => { info with requests := info.requests ++ [request] }

def dropRequests (member : MemberId) : Edit Module Unit :=
  changeInfo member fun info => { info with requests := [] }

def addAttribute (member : MemberId) (added : Attribute) : Edit Module Unit :=
  changeInfo member fun info => { info with attributes := info.attributes ++ [added] }

def addType (space name : String) : Edit Module TypeId := do
  let module ← get
  let id : TypeId := ⟨module.types.length⟩
  let type : TypeDef := { name, space, flags := TypeDef.publicFlag }
  set { module with types := module.types ++ [type], topLevel := module.topLevel ++ [id] }
  return id

def addNestedType (enclosing : TypeId) (name : String) : Edit Module TypeId := do
  let module ← get
  let id : TypeId := ⟨module.types.length⟩
  changeType enclosing fun type => { type with nested := type.nested ++ [id] }
  let type : TypeDef :=
    { name, space := "", flags := TypeDef.nestedPrivateFlag, enclosing := some enclosing }
  modify fun module => { module with types := module.types ++ [type] }
  return id

def addMethod (owner : TypeId) (method : MethodDef) : Edit Module MethodId := do
  let module ← get
  let id : MethodId := ⟨module.methods.length⟩
  changeType owner fun type => { type with methods := type.methods ++ [id] }
  let method := { method with declaringType := owner }
  modify fun module => { module with methods := module.methods ++ [method] }
  return id

def addField (owner : TypeId) (field : FieldDef) : Edit Module FieldId := do
  let module ← get
  let id : FieldId := ⟨module.fields.length⟩
  changeType owner fun type => { type with fields := type.fields ++ [id] }
  let field := { field with declaringType := owner }
  modify fun module => { module with fields := module.fields ++ [field] }
  return id

def nestedIn (module : Module) (id : TypeId) : List TypeId :=
  (module.types[id.index]?.map TypeDef.nested).getD []

/-- A type followed by the types nested in it, as deep as the first argument says. -/
def subtree (module : Module) : Nat → TypeId → List TypeId
  | 0, _ => []
  | depth + 1, id => id :: (module.nestedIn id).flatMap (module.subtree depth)

/-- All types, each followed by the types nested in it. Types nest less deep than there are types.
-/
def typesInOrder (module : Module) : List TypeId :=
  module.topLevel.flatMap (module.subtree module.types.length)

/-- A walk over types with a stack: the types it has come to, and those it comes to next, from the
top of the stack down. -/
structure Walk where
  reached : List TypeId
  stack : List TypeId

/-- The walk one type further. What is nested in that type goes on top of the stack. -/
def Walk.next (module : Module) (walk : Walk) : Walk :=
  match walk.stack with
  | [] => walk
  | id :: rest => ⟨walk.reached ++ [id], module.nestedIn id ++ rest⟩

def Walk.after (module : Module) : Nat → Walk → Walk
  | 0, walk => walk
  | steps + 1, walk => after module steps (walk.next module)

end Module
end Retrofit

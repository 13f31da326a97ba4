import Retrofit.Body.Basic
import Retrofit.Module.Attribute

/-!
The members of a module: types, methods and fields, and the identities they go by.
-/

namespace Retrofit

/-- The identity of a type within its module. -/
structure TypeId where
  index : Nat
deriving DecidableEq

/-- The identity of a method within its module. -/
structure MethodId where
  index : Nat
deriving DecidableEq

/-- The identity of a field within its module. -/
structure FieldId where
  index : Nat
deriving DecidableEq

/-- The identity of a member of any sort. -/
inductive MemberId where
  | type (id : TypeId)
  | method (id : MethodId)
  | field (id : FieldId)
deriving DecidableEq

def MemberId.kindName : MemberId → String
  | .type _ => "type"
  | .method _ => "method"
  | .field _ => "field"

def MemberId.text (member : MemberId) : String :=
  let index := match member with
    | .type id => id.index
    | .method id => id.index
    | .field id => id.index
  member.kindName ++ " #" ++ Text.natural index

/-- What every member has: a simple name, attributes, and the requests attached to it. -/
structure MemberInfo where
  name : String
  attributes : List Attribute := []
  requests : List Request := []

def MemberInfo.hasAttribute (info : MemberInfo) (type : String) : Bool :=
  info.attributes.any fun held => held.type = type

/-- A type with its members. A nested type has an enclosing one. -/
structure TypeDef extends MemberInfo where
  space : String
  flags : UInt32
  enclosing : Option TypeId := none
  interfaces : List String := []
  fields : List FieldId := []
  methods : List MethodId := []
  nested : List TypeId := []

namespace TypeDef

def publicFlag : UInt32 := 0x1

/-- The flag of nested types visible in the enclosing type only. -/
def nestedPrivateFlag : UInt32 := 0x3

def interfaceFlag : UInt32 := 0x20

def isInterface (type : TypeDef) : Bool := type.flags &&& interfaceFlag ≠ 0

/-- Whether the type declares that it implements the interface. -/
def implements (type : TypeDef) (interface : String) : Bool :=
  type.interfaces.any fun name => name = interface

/-- Whether the type was made by a compiler and not written by hand. -/
def isGenerated (type : TypeDef) : Bool :=
  type.hasAttribute "System.Runtime.CompilerServices.CompilerGeneratedAttribute"

/-- Whether the type is the enumerator into which a compiler turned a method. -/
def isGeneratedEnumerator (type : TypeDef) : Bool :=
  type.isGenerated && type.implements "System.Collections.IEnumerator"

end TypeDef

/-- The attribute word of a method, split into its groups. Bits that belong to no group are lost. -/
structure MethodFlags where
  access : UInt32
  layout : UInt32
  modifiers : UInt32
deriving DecidableEq

namespace MethodFlags

def accessMask : UInt32 := 0x7

/-- The bit of a method that takes a new slot in the table of virtual methods. -/
def newSlot : UInt32 := 0x100

def static : UInt32 := 0x10

def sealed : UInt32 := 0x20

/-- The bit of a method that is called through the table of virtual methods. -/
def virtual : UInt32 := 0x40

/-- The bits of the third group: static to special name of the runtime. -/
def modifierMask : UInt32 := 0x1EF0

def ofBits (bits : UInt32) : MethodFlags :=
  ⟨bits &&& accessMask, bits &&& newSlot, bits &&& modifierMask⟩

def bits (flags : MethodFlags) : UInt32 := flags.access ||| flags.layout ||| flags.modifiers

/-- A public method of an object that hides by signature. -/
def publicInstance : MethodFlags := ofBits 0x86

def isStatic (flags : MethodFlags) : Bool := flags.modifiers &&& static ≠ 0

/-- Whether the method is called through the table of virtual methods. -/
def isVirtual (flags : MethodFlags) : Bool := flags.modifiers &&& virtual ≠ 0

end MethodFlags

/-- A method, with a body unless it is abstract or external. -/
structure MethodDef extends MemberInfo where
  returnType : String
  params : List String := []
  flags : MethodFlags := .publicInstance
  declaringType : TypeId
  body : Option Body := none

namespace MethodDef

/-- The signature: what the method returns, its name, and the types of its parameters. -/
def signature (method : MethodDef) : String :=
  method.returnType ++ " " ++ method.name ++ "(" ++ ",".intercalate method.params ++ ")"

/-- Whether the method goes by the text: its simple name or its signature. -/
def isNamed (method : MethodDef) (text : String) : Bool :=
  method.name = text || method.signature = text

end MethodDef

/-- A field. -/
structure FieldDef extends MemberInfo where
  type : String
  flags : UInt32
  declaringType : TypeId

namespace FieldDef

def privateFlag : UInt32 := 0x1

def staticFlag : UInt32 := 0x10

def isStatic (field : FieldDef) : Bool := field.flags &&& staticFlag ≠ 0

end FieldDef
end Retrofit

import Retrofit.Instr.Basic
import Retrofit.Text.Split

/-!
Matchers: conditions on one instruction, from which the windows that rules look for are put
together. Members are given by declaring type and name; an empty declaring type stands for any.
-/

namespace Retrofit

abbrev Matcher := Instr → Bool

/-- Whether a reference names the member: by its simple name or by its signature. -/
def MemberRef.isNamed (ref : MemberRef) (declaringType name : String) : Bool :=
  (ref.name = name || ref.signature = name) &&
    (declaringType = "" || ref.declaringType = declaringType)

/-- The declaring type and the simple name in a qualified name. The type ends at the last double
colon, and is empty without one. -/
def cutQualified (qualified : String) : String × String :=
  match Text.cutLast? [':', ':'] qualified.toList with
  | some (type, member) => (String.ofList type, String.ofList member)
  | none => ("", qualified)

namespace Matcher

def any : Matcher := fun _ => true

def opcode (opcode : Opcode) : Matcher := fun instr => instr.opcode = opcode

def oneOf (opcodes : List Opcode) : Matcher := fun instr => instr.opcode ∈ opcodes

/-- A branch with the operation, whichever of its two forms is given. -/
def branch (opcode : Opcode) : Matcher := fun instr =>
  instr.opcode = opcode.shortened || instr.opcode = opcode.lengthened

/-- An instruction with one of the operations that names the member. -/
def memberAccess (opcodes : List Opcode) (kind : MemberKind) (declaringType name : String) :
    Matcher := fun instr =>
  instr.opcode ∈ opcodes &&
    instr.operand.member?.any fun ref => ref.kind = kind && ref.isNamed declaringType name

def call : String → String → Matcher := memberAccess [.call] .method

def callvirt : String → String → Matcher := memberAccess [.callvirt] .method

def anyCall : String → String → Matcher := memberAccess [.call, .callvirt] .method

def ldfld : String → String → Matcher := memberAccess [.ldfld] .field

def anyLdfld : Matcher := opcode .ldfld

def isinst (type : String) : Matcher := fun instr =>
  instr.opcode = .isinst && instr.operand.type? = some type

def ldcR4 (bits : UInt32) : Matcher := fun instr =>
  instr.opcode = .ldcR4 && instr.operand = .float32 bits

def anyLdcR4 : Matcher := opcode .ldcR4

/-- The integer constant, in whichever form it is pushed. -/
def ldcI4 (value : Int) : Matcher := fun instr => instr.pushedInt? = some value

end Matcher
end Retrofit

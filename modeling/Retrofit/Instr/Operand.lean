import Retrofit.Decimal.Shortest
import Retrofit.Instr.Id
import Retrofit.Opcode.Kind
import Retrofit.Text.Quoted

/-!
Operands of instructions: which shapes they fit, which labels they name, and their assembly text.
-/

namespace Retrofit

/-- The two sorts of member an instruction can name. -/
inductive MemberKind where
  | method | field
deriving DecidableEq

/-- A member named from outside: by its declaring type, its simple name and its signature. The
signature of a field is its type. -/
structure MemberRef where
  kind : MemberKind
  declaringType : String
  name : String
  signature : String
deriving DecidableEq

namespace MemberRef

def method (declaringType name signature : String) : MemberRef :=
  ⟨.method, declaringType, name, signature⟩

def field (declaringType name type : String) : MemberRef :=
  ⟨.field, declaringType, name, type⟩

def qualifiedName (ref : MemberRef) : String := ref.declaringType ++ "::" ++ ref.name

def text (ref : MemberRef) : String := ref.qualifiedName ++ " [" ++ ref.signature ++ "]"

end MemberRef

/-- What an instruction carries beside its opcode. Floating point constants are kept as bits, so
that equality is equality of the encoding. -/
inductive Operand where
  | none
  | int32 (value : Int32)
  | int64 (value : Int64)
  | float32 (bits : UInt32)
  | float64 (bits : UInt64)
  | string (value : String)
  | member (ref : MemberRef)
  | type (name : String)
  | signature (text : String)
  | localSlot (index : UInt16)
  | argumentSlot (index : UInt16)
  | label (target : LabelId)
  | switch (targets : List LabelId)
deriving DecidableEq

namespace Operand

def sortName : Operand → String
  | .none => "none"
  | .int32 _ => "int32"
  | .int64 _ => "int64"
  | .float32 _ => "float32"
  | .float64 _ => "float64"
  | .string _ => "string"
  | .member ref =>
    match ref.kind with
    | .method => "method reference"
    | .field => "field reference"
  | .type _ => "type reference"
  | .signature _ => "signature"
  | .localSlot _ => "local"
  | .argumentSlot _ => "argument"
  | .label _ => "label"
  | .switch _ => "switch table"

/-- Whether an operand can stand behind an operation that takes the shape. -/
def fits (operand : Operand) (kind : OperandShape) : Bool :=
  match kind, operand with
  | .none, .none => true
  | .int8, .int32 value => -128 ≤ value.toInt && value.toInt ≤ 127
  | .uInt8, .int32 value => 0 ≤ value.toInt && value.toInt ≤ 255
  | .int32, .int32 _ => true
  | .int64, .int64 _ => true
  | .float32, .float32 _ => true
  | .float64, .float64 _ => true
  | .string, .string _ => true
  | .method, .member ref => ref.kind = .method
  | .field, .member ref => ref.kind = .field
  | .type, .type _ => true
  | .token, .member _ => true
  | .token, .type _ => true
  | .signature, .signature _ => true
  | .shortBranch, .label _ => true
  | .branch, .label _ => true
  | .switch, .switch _ => true
  | .shortLocalSlot, .localSlot index => index ≤ 255
  | .localSlot, .localSlot _ => true
  | .shortArgumentSlot, .argumentSlot index => index ≤ 255
  | .argumentSlot, .argumentSlot _ => true
  | _, _ => false

def member? : Operand → Option MemberRef
  | .member ref => some ref
  | _ => Option.none

def type? : Operand → Option String
  | .type name => some name
  | _ => Option.none

/-- The single label an operand names; a jump table has none. -/
def label? : Operand → Option LabelId
  | .label target => some target
  | _ => Option.none

def labels : Operand → List LabelId
  | .label target => [target]
  | .switch targets => targets
  | _ => []

def text : Operand → String
  | .none => ""
  | .int32 value => Text.integer value.toInt
  | .int64 value => Text.integer value.toInt
  | .float32 bits => Decimal.Format.single.text bits.toNat
  | .float64 bits => Decimal.Format.double.text bits.toNat
  | .string value => Text.quoted value
  | .member ref => ref.qualifiedName
  | .type name => name
  | .signature text => text
  | .localSlot index => "V_" ++ Text.natural index.toNat
  | .argumentSlot index => "A_" ++ Text.natural index.toNat
  | .label target => target.text
  | .switch targets => "(" ++ Text.commaSeparated (targets.map LabelId.text) ++ ")"

theorem labels_of_label? {operand : Operand} {target : LabelId}
    (named : operand.label? = some target) : operand.labels = [target] := by
  cases operand <;> simp_all [label?, labels]

end Operand
end Retrofit

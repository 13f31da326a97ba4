/-!
The shapes an operand can take in the instruction stream, and the ways an operation passes control.
-/

namespace Retrofit

/-- The shape of operand an operation takes. -/
inductive OperandShape where
  | none | int8 | uInt8 | int32 | int64 | float32 | float64
  | string | method | field | type | token | signature
  | shortBranch | branch | switch
  | shortLocalSlot | localSlot | shortArgumentSlot | argumentSlot
deriving DecidableEq

namespace OperandShape

def all : List OperandShape :=
  [.none, .int8, .uInt8, .int32, .int64, .float32, .float64,
   .string, .method, .field, .type, .token, .signature,
   .shortBranch, .branch, .switch,
   .shortLocalSlot, .localSlot, .shortArgumentSlot, .argumentSlot]

def name : OperandShape → String
  | .none => "None"
  | .int8 => "Int8"
  | .uInt8 => "UInt8"
  | .int32 => "Int32"
  | .int64 => "Int64"
  | .float32 => "Float32"
  | .float64 => "Float64"
  | .string => "String"
  | .method => "Method"
  | .field => "Field"
  | .type => "Type"
  | .token => "Token"
  | .signature => "Signature"
  | .shortBranch => "ShortBranch"
  | .branch => "Branch"
  | .switch => "Switch"
  | .shortLocalSlot => "ShortLocal"
  | .localSlot => "Local"
  | .shortArgumentSlot => "ShortArgument"
  | .argumentSlot => "Argument"

/-- Bytes an operand of this shape takes; a jump table has no fixed size. -/
def size : OperandShape → Option Nat
  | .none => some 0
  | .int8 | .uInt8 | .shortBranch | .shortLocalSlot | .shortArgumentSlot => some 1
  | .localSlot | .argumentSlot => some 2
  | .int32 | .float32 | .string | .method | .field | .type | .token | .signature | .branch => some 4
  | .int64 | .float64 => some 8
  | .switch => Option.none

end OperandShape

/-- Where control goes after an operation. -/
inductive Flow where
  | sequential | conditionalBranch | unconditionalBranch | call | ret | switch | throw
  | endFinally | leave
deriving DecidableEq

namespace Flow

def name : Flow → String
  | .sequential => "Sequential"
  | .conditionalBranch => "ConditionalBranch"
  | .unconditionalBranch => "UnconditionalBranch"
  | .call => "Call"
  | .ret => "Return"
  | .switch => "Switch"
  | .throw => "Throw"
  | .endFinally => "EndFinally"
  | .leave => "Leave"

end Flow
end Retrofit

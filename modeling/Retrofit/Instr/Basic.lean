import Retrofit.Error
import Retrofit.Instr.Operand

/-!
Instructions: an operation with its operand.
-/

namespace Retrofit

/-- One instruction. `Instr.of` is the way to make one whose operand fits. -/
structure Instr where
  opcode : Opcode
  operand : Operand := .none
deriving DecidableEq

namespace Instr

def wellShaped (instr : Instr) : Bool :=
  instr.operand.fits instr.opcode.operandShape

/-- The instruction with the given parts, if the operand fits the operation. -/
def of (opcode : Opcode) (operand : Operand := .none) : Except PatchError Instr :=
  if operand.fits opcode.operandShape then
    .ok ⟨opcode, operand⟩
  else
    .error (.invalidOperand opcode opcode.operandShape operand.sortName)

/-- Bytes of the instruction in the method body. A jump table takes its count and four bytes for
each target. -/
def size (instr : Instr) : Nat :=
  instr.opcode.size +
    match instr.operand, instr.opcode.operandShape.size with
    | .switch targets, _ => 4 + 4 * targets.length
    | _, some size => size
    | _, none => 4

/-- The instruction reads or writes a field, or takes its address. -/
def accessesField (instr : Instr) : Bool :=
  instr.opcode.operandShape = .field

/-- Control may go elsewhere than to the next instruction, other than by a call. -/
def divertsControl (instr : Instr) : Bool :=
  match instr.opcode.flow with
  | .conditionalBranch | .unconditionalBranch | .ret | .switch | .throw | .leave => true
  | _ => false

def text (instr : Instr) : String :=
  match instr.operand with
  | .none => instr.opcode.mnemonic
  | operand => instr.opcode.mnemonic ++ " " ++ operand.text

/-- The integer that an instruction pushes as a constant. -/
def pushedInt? (instr : Instr) : Option Int :=
  match instr.opcode, instr.operand with
  | .ldcI4M1, _ => some (-1)
  | .ldcI40, _ => some 0
  | .ldcI41, _ => some 1
  | .ldcI42, _ => some 2
  | .ldcI43, _ => some 3
  | .ldcI44, _ => some 4
  | .ldcI45, _ => some 5
  | .ldcI46, _ => some 6
  | .ldcI47, _ => some 7
  | .ldcI48, _ => some 8
  | .ldcI4S, .int32 value => some value.toInt
  | .ldcI4, .int32 value => some value.toInt
  | _, _ => none

def widened (instr : Instr) : Instr :=
  { instr with opcode := instr.opcode.lengthened }

theorem of_eq_ok_iff {opcode : Opcode} {operand : Operand} {instr : Instr} :
    of opcode operand = .ok instr ↔ instr = ⟨opcode, operand⟩ ∧ instr.wellShaped = true := by
  unfold of wellShaped
  split
  next fits => simp only [Except.ok.injEq]; constructor <;> rintro h
               · subst h; exact ⟨rfl, fits⟩
               · exact h.1.symm
  next misfit =>
    simp only [reduceCtorEq, false_iff, not_and]
    rintro rfl
    exact misfit

theorem size_pos (instr : Instr) : 0 < instr.size := by
  have : 0 < instr.opcode.size := by unfold Opcode.size; split <;> decide
  unfold size
  omega

end Instr
end Retrofit

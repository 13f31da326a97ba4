import Retrofit.Rule.Basic

/-!
Substituting operations for calls: some operations cannot be written in a source language, so a call
of a placeholder method marks where they belong.
-/

namespace Retrofit.Rule

/-- The calls that a placeholder stands for, in whatever type it is declared. -/
def placeholderCall (placeholder : String) : Window := [Matcher.call "" placeholder]

/-- Puts the operation in place of at most so many of the next calls of the placeholder, and adds
their number to the count. -/
def substituteNext (placeholder : String) (opcode : Opcode) : Nat → Nat → Edit Cursor Nat
  | 0, count => return count
  | calls + 1, count => do
    if ← Cursor.trySeek .next (placeholderCall placeholder) then
      Cursor.overwrite opcode
      substituteNext placeholder opcode calls (count + 1)
    else
      return count

/-- Puts the operation in place of every call of the placeholder, and counts them. An operation put
there is no call any more, so there are at most as many steps as lines. -/
def substituteAll (placeholder : String) (opcode : Opcode) : Edit Cursor Nat := do
  let cursor ← get
  substituteNext placeholder opcode (cursor.body.length + 1) 0

/-- The operation that the second argument names; it must not take an operand. -/
def bareOpcode (request : Request) (mnemonic : String) : Except PatchError Opcode :=
  match Opcode.ofMnemonic? mnemonic with
  | none => .error (.invalidArgument request.rule ("unknown opcode '" ++ mnemonic ++ "'"))
  | some opcode =>
    if opcode.operandShape = .none then
      .ok opcode
    else
      .error (.invalidArgument request.rule ("opcode '" ++ mnemonic ++ "' takes an operand"))

/-- Puts the operation of the second argument in place of calls of the first. -/
def substituteNamed (task : BodyTask) : Edit Cursor Nat := do
  let placeholder ← Edit.demand (task.request.textArg 0)
  let mnemonic ← Edit.demand (task.request.textArg 1)
  let opcode ← Edit.demand (bareOpcode task.request mnemonic)
  substituteAll placeholder opcode

def forSubstitution : List (Rule ν) :=
  [onBody "PatchInitblk" "Replaces calls to _initblk with the initblk opcode" fun _ =>
     discard (substituteAll "_initblk" .initblk),
   onBody "SubstituteOpcode"
     "Replaces calls to a placeholder method with an operand-less opcode" fun task =>
     discard (substituteNamed task)]

end Retrofit.Rule

import Retrofit.Rule.Lookup

/-!
Widening a threshold test: code that runs when one field exceeds a constant shall also run when a
second value, found along a path of fields from `this`, exceeds it.
-/

namespace Retrofit.Rule

/-- The load of a field, a constant, and a jump that skips when the field does not exceed it. -/
def thresholdWindow (owner field : String) : Window :=
  [.ldfld owner field, .anyLdcR4, .branch .bleUn]

def emitPath (path : List MemberRef) : Edit Cursor Unit :=
  path.forM fun field => do
    let _ ← Cursor.emit .ldfld (.member field)

/-- Reworks the test in front of which the cursor stands. The old jump becomes one to the code that
the test admits and keeps its line, so that jumps into the test still reach it; behind it comes the
second test with the jump that skips, as wide as the old one was. -/
def widenThreshold (path : List MemberRef) : Edit Cursor Unit := do
  let cursor ← get
  let threshold := ((cursor.body.instrAt? (cursor.index + 1)).map Instr.operand).getD (.float32 0)
  let some skip := cursor.body.instrAt? (cursor.index + 2)
    | throw (.outOfBounds (cursor.index + 2) cursor.body.length)
  Cursor.moveTo (cursor.index + 2)
  let admitted ← Cursor.newLabel
  Cursor.overwrite (if skip.opcode.isShortJump then .bgtS else .bgt) (.label admitted)
  Cursor.moveTo (cursor.index + 3)
  let _ ← Cursor.emit .ldarg0
  emitPath path
  let _ ← Cursor.emit .ldcR4 threshold
  let _ ← Cursor.emit skip.opcode skip.operand
  Cursor.placeLabelHere admitted

/-- Lets the first threshold test on the field of the first argument also accept the value along the
path of the second. -/
def widenCondition (task : BodyTask) : Edit Cursor Unit := do
  let field ← Edit.demand (task.request.textArg 0)
  let alternate ← Edit.demand (task.request.textArg 1)
  let owner ← Edit.demand (task.module.ownerOf task.method)
  let ownerName := task.module.typeName owner
  let steps := (Text.pieces '.' alternate.toList).map String.ofList
  let path ← Edit.demand (task.module.pathFrom owner steps)
  if ← Cursor.trySeek .next (thresholdWindow ownerName field) then
    widenThreshold path
  else
    throw (.patternNotFound task.editedName
      ("ldfld " ++ ownerName ++ "::" ++ field ++ "; ldc.r4; ble.un"))

def forThresholds : List (Rule ν) :=
  [onBody "PatchOrCondition" "Widens a float threshold test into an OR with a second field"
     widenCondition]

end Retrofit.Rule

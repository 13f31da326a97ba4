import Retrofit.Cursor.Basic

/-!
Writing at a cursor: inserting, overwriting and erasing instructions, and placing labels.
-/

namespace Retrofit.Cursor

def largestIndex : Nat := UInt64.size - 1

/-- Inserts an instruction at the cursor and stays in front of it. Behind the labels means that they
are moved to the new line. -/
def insertBehind (instr : Instr) : Edit Cursor InstrId := do
  let cursor ← get
  let id ← onBody (Body.insertIdx cursor.index instr)
  if cursor.behindLabels then
    if let some displaced := cursor.body.idAt? cursor.index then
      let _ ← onBody (Body.moveLabels displaced id)
  return id

/-- Inserts an instruction at the cursor and goes behind it. -/
def insertBefore (instr : Instr) : Edit Cursor InstrId := do
  let id ← insertBehind instr
  modify fun cursor => { cursor with index := cursor.index + 1 }
  return id

/-- Makes an instruction, inserts it at the cursor and goes behind it. -/
def emit (opcode : Opcode) (operand : Operand := .none) : Edit Cursor InstrId := do
  let instr ← Edit.demand (Instr.of opcode operand)
  insertBefore instr

/-- Puts another instruction into the line behind the cursor. -/
def overwrite (opcode : Opcode) (operand : Operand := .none) : Edit Cursor Unit := do
  let instr ← Edit.demand (Instr.of opcode operand)
  let cursor ← get
  if cursor.body.length ≤ cursor.index then
    throw (.outOfBounds cursor.index cursor.body.length)
  set { cursor with body := cursor.body.changeAt cursor.index fun _ => instr }

/-- Removes the line behind the cursor, which must not bound a region. -/
def erase : Edit Cursor Instr := do
  let cursor ← get
  onBody (Body.eraseIdx cursor.index false cursor.method)

/-- Removes the line behind the cursor and moves region boundaries there to the next line. -/
def eraseReanchored : Edit Cursor Instr := do
  let cursor ← get
  onBody (Body.eraseIdx cursor.index true cursor.method)

/-- The first of some lines that bounds a region, with its index and what it bounds. -/
def firstTie? (body : Body) (index : Nat) : List Line → Option (Nat × Obstacle)
  | [] => none
  | line :: rest =>
    match body.tie? line.id with
    | some obstacle => some (index, obstacle)
    | none => firstTie? body (index + 1) rest

/-- Removes a number of lines behind the cursor, all of them or none. None of them may bound a
region. -/
def eraseNext (count : Nat) : Edit Cursor Unit := do
  let cursor ← get
  if cursor.body.length < cursor.index + count then
    throw (.outOfBounds (min (cursor.index + count) largestIndex) cursor.body.length)
  let doomed := cursor.body.lines.extract cursor.index (cursor.index + count)
  if let some (index, obstacle) := firstTie? cursor.body cursor.index doomed.toList then
    throw (.invalidRemoval cursor.method index obstacle)
  set { cursor with body := cursor.body.erasedRange cursor.index count }

def newLabel : Edit Cursor LabelId := onBody Body.newLabel

def placeLabelHere (label : LabelId) : Edit Cursor Unit := do
  let cursor ← get
  onBody (Body.placeLabel label cursor.index)

def newLabelHere : Edit Cursor LabelId := do
  let label ← newLabel
  placeLabelHere label
  return label

/-- Moves all labels at one line to another, and counts them. -/
def moveLabels (source target : InstrId) : Edit Cursor Nat :=
  onBody (Body.moveLabels source target)

end Retrofit.Cursor

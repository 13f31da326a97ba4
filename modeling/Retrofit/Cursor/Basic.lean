import Retrofit.Body.Labels

/-!
Cursors: a place between the lines of a body, at which instructions are read and written.
-/

namespace Retrofit

/-- A place in a body, in front of the line with the index. Where labels stand at that line, an
insertion goes in front of them, or behind them when `behindLabels` is set. -/
structure Cursor where
  body : Body
  method : String
  index : Nat := 0
  behindLabels : Bool := false

/-- A place to come back to: in front of a line, or behind the last one. -/
structure Mark where
  line : Option InstrId
deriving DecidableEq

namespace Cursor

def next? (cursor : Cursor) : Option Instr := cursor.body.instrAt? cursor.index

def previousIndex? (cursor : Cursor) : Option Nat :=
  if cursor.index = 0 then none else some (cursor.index - 1)

def previous? (cursor : Cursor) : Option Instr := cursor.previousIndex?.bind cursor.body.instrAt?

def mark (cursor : Cursor) : Mark := ⟨cursor.body.idAt? cursor.index⟩

def labelsHere (cursor : Cursor) : List LabelId :=
  match cursor.body.idAt? cursor.index with
  | some id => cursor.body.labelsAt id
  | none => cursor.body.labelsAtEnd

def placed (cursor : Cursor) (index : Nat) (behindLabels : Bool := false) : Cursor :=
  { cursor with index, behindLabels }

/-- An edit of the body that leaves the cursor where it is. -/
def onBody (edit : Edit Body α) : Edit Cursor α :=
  Edit.within
    (fun ⟨body, method, index, behindLabels⟩ =>
      (body, fun body => ⟨body, method, index, behindLabels⟩))
    edit

def moveTo (index : Nat) : Edit Cursor Unit := do
  let cursor ← get
  if cursor.body.length < index then
    throw (.outOfBounds index cursor.body.length)
  set (cursor.placed index)

def returnTo (mark : Mark) : Edit Cursor Unit := do
  let cursor ← get
  match mark.line with
  | none => set (cursor.placed cursor.body.length)
  | some id =>
    let some index := cursor.body.indexOf? id
      | throw (.malformed (.markOnRemoved id cursor.method))
    set (cursor.placed index)

def labelIndex? (cursor : Cursor) (label : LabelId) : Option Nat :=
  match cursor.body.placeOf? label with
  | some (.line id) => cursor.body.indexOf? id
  | some .atEnd => some cursor.body.length
  | _ => none

def moveToLabel (label : LabelId) : Edit Cursor Unit := do
  let cursor ← get
  let some index := cursor.labelIndex? label | throw (.unboundLabel label)
  set (cursor.placed index)

/-- Puts coming insertions behind the labels at the cursor. -/
def goBehindLabels : Edit Cursor Unit :=
  modify fun cursor => { cursor with behindLabels := true }

/-- Puts coming insertions in front of the labels at the cursor. -/
def goBeforeLabels : Edit Cursor Unit :=
  modify fun cursor => { cursor with behindLabels := false }

end Cursor
end Retrofit

import Retrofit.Body.Positions
import Retrofit.Edit

/-!
Putting lines into a body and taking them out. A new line gets a fresh identity. An erased line
hands its labels, and on request its region boundaries, to the line behind it.
-/

namespace Retrofit

namespace LabelPlace

def before : Option InstrId → LabelPlace
  | some id => .line id
  | none => .atEnd

/-- A label behind the last line goes to the line that is put there. -/
def settled (id : InstrId) : LabelPlace → LabelPlace
  | .atEnd => .line id
  | place => place

/-- A label at one of the lines that go away moves to the target. -/
def movedOff (leaving : InstrId → Bool) (target : Option InstrId) : LabelPlace → LabelPlace
  | .line id => if leaving id then before target else .line id
  | place => place

/-- A label at the first line goes to the second, or behind the last line. -/
def moved (source : InstrId) (target : Option InstrId) : LabelPlace → LabelPlace :=
  movedOff (fun id => id = source) target

end LabelPlace

namespace Body

/-- The body with a new line in front of the one at the index. A line put at the end takes the
labels that stood there. -/
def inserted (body : Body) (index : Nat) (instr : Instr) : Body :=
  let id : InstrId := ⟨body.nextId⟩
  let labels := if index = body.length then body.labels.map (·.settled id) else body.labels
  { body with
    lines := body.lines.insertIdxIfInBounds index ⟨id, instr⟩
    nextId := body.nextId + 1
    labels }

/-- The body without the line at the index, whose labels and boundaries go to the next line. -/
def erased (body : Body) (index : Nat) : Body :=
  match body.idAt? index with
  | none => body
  | some id =>
    let next := body.idAt? (index + 1)
    { body with
      lines := body.lines.eraseIdxIfInBounds index
      labels := body.labels.map (·.moved id next)
      regions := body.regions.map (·.moved id next) }

/-- The body without some consecutive lines, whose labels go to the line behind them. Boundaries stay
where they are. -/
def erasedRange (body : Body) (start count : Nat) : Body :=
  let positions := body.positions
  let leaving (id : InstrId) : Bool :=
    (positions.get? id).any fun index => start ≤ index && index < start + count
  let next := body.idAt? (start + count)
  { body with
    lines := body.lines.extract 0 start ++ body.lines.extract (start + count)
    labels := body.labels.map (·.movedOff leaving next) }

def tie? (body : Body) (id : InstrId) : Option Obstacle :=
  body.regions.zipIdx.findSome? fun (region, number) =>
    match region.boundsAt id with
    | [] => none
    | boundaries => some (.anchors id boundaries number)

/-- What ties a line to the first region whose boundaries there cannot move to the next line: a
block cannot begin behind the last line. -/
def fixedTie? (body : Body) (id : InstrId) (next : Option InstrId) : Option Obstacle :=
  body.regions.zipIdx.findSome? fun (region, number) =>
    if next = none && region.startsAt id then
      some (.anchors id (region.boundsAt id) number)
    else
      none

def append (instr : Instr) : Edit Body InstrId := do
  let body ← get
  let id : InstrId := ⟨body.nextId⟩
  set (body.inserted body.length instr)
  return id

/-- Inserts an instruction in front of the line at the index, or at the end. -/
def insertIdx (index : Nat) (instr : Instr) : Edit Body InstrId := do
  let body ← get
  if body.length < index then
    throw (.outOfBounds index body.length)
  let id : InstrId := ⟨body.nextId⟩
  set (body.inserted index instr)
  return id

/-- What keeps the line at an index in the body, if region boundaries there may move to the next
line or not. -/
def obstacle? (body : Body) (index : Nat) (moveBounds : Bool) (id : InstrId) : Option Obstacle :=
  if moveBounds then body.fixedTie? id (body.idAt? (index + 1)) else body.tie? id

/-- Erases the line at the index. A line that bounds a region stays, unless its boundaries may and
can move to the next line. -/
def eraseIdx (index : Nat) (moveBounds : Bool) (method : String) : Edit Body Instr := do
  let body ← get
  match body.lines[index]? with
  | none => throw (.outOfBounds index body.length)
  | some line =>
    match body.obstacle? index moveBounds line.id with
    | some obstacle => throw (.invalidRemoval method index obstacle)
    | none =>
      set (body.erased index)
      return line.instr

/-- The body with the instructions in order, and nothing else. -/
def ofInstrs (instrs : List Instr) : Body :=
  instrs.foldl (fun body instr => body.inserted body.length instr) {}

private theorem map_insertion (f : α → β) (items : List α) (index : Nat) (item : α) :
    (items.insertIdx index item).map f = (items.map f).insertIdx index (f item) := by
  induction items generalizing index with
  | nil => cases index <;> simp
  | cons first rest ih => cases index <;> simp [ih]

private theorem map_erasure (f : α → β) (items : List α) (index : Nat) :
    (items.eraseIdx index).map f = (items.map f).eraseIdx index := by
  induction items generalizing index with
  | nil => rfl
  | cons first rest ih => cases index <;> simp [ih]

private theorem toList_insertion (items : Array α) (index : Nat) (item : α) :
    (items.insertIdxIfInBounds index item).toList = items.toList.insertIdx index item := by
  unfold Array.insertIdxIfInBounds
  split
  next inside => exact Array.toList_insertIdx inside
  next beyond =>
    have short : items.toList.length < index := by simpa using beyond
    exact (List.insertIdx_of_length_lt short).symm

theorem lines_inserted (body : Body) (index : Nat) (instr : Instr) :
    (body.inserted index instr).lines.toList =
      body.lines.toList.insertIdx index ⟨⟨body.nextId⟩, instr⟩ :=
  toList_insertion ..

@[simp] theorem ids_inserted (body : Body) (index : Nat) (instr : Instr) :
    (body.inserted index instr).ids = body.ids.insertIdx index ⟨body.nextId⟩ := by
  simp [ids, inserted, toList_insertion, map_insertion]

@[simp] theorem instrs_inserted (body : Body) (index : Nat) (instr : Instr) :
    (body.inserted index instr).instrs = body.instrs.insertIdx index instr := by
  simp [instrs, inserted, toList_insertion, map_insertion]

theorem instrs_ofInstrs (instrs : List Instr) : (ofInstrs instrs).instrs = instrs := by
  have grown (start : Body) : (instrs.foldl (fun body instr => body.inserted body.length instr)
      start).instrs = start.instrs ++ instrs := by
    induction instrs generalizing start with
    | nil => simp
    | cons instr rest ih =>
      have place : start.length = start.instrs.length := by simp [length, Body.instrs]
      simp [ih, place]
  exact grown {}

theorem erased_eq {body : Body} {index : Nat} {id : InstrId} (found : body.idAt? index = some id) :
    body.erased index =
      { body with
        lines := body.lines.eraseIdxIfInBounds index
        labels := body.labels.map (·.moved id (body.idAt? (index + 1)))
        regions := body.regions.map (·.moved id (body.idAt? (index + 1))) } := by
  simp [erased, found]

theorem lines_erased (body : Body) (index : Nat) :
    (body.erased index).lines.toList = body.lines.toList.eraseIdx index := by
  unfold erased
  split
  next absent =>
    have short : body.lines.toList.length ≤ index := by simpa [idAt?] using absent
    rw [List.eraseIdx_of_length_le short]
  next => simp

@[simp] theorem ids_erased (body : Body) (index : Nat) :
    (body.erased index).ids = body.ids.eraseIdx index := by
  unfold erased
  split
  next absent =>
    rw [idAt?_eq, List.getElem?_eq_none_iff] at absent
    rw [List.eraseIdx_of_length_le absent]
  next => simp [ids, map_erasure]

@[simp] theorem instrs_erased (body : Body) (index : Nat) :
    (body.erased index).instrs = body.instrs.eraseIdx index := by
  unfold erased
  split
  next absent =>
    have short : body.instrs.length ≤ index := by
      simpa [idAt?, instrs] using absent
    rw [List.eraseIdx_of_length_le short]
  next => simp [instrs, map_erasure]

@[simp] theorem ids_erasedRange (body : Body) (start count : Nat) :
    (body.erasedRange start count).ids =
      body.ids.take start ++ body.ids.drop (start + count) := by
  simp [ids, erasedRange, List.take_of_length_le]

@[simp] theorem instrs_erasedRange (body : Body) (start count : Nat) :
    (body.erasedRange start count).instrs =
      body.instrs.take start ++ body.instrs.drop (start + count) := by
  simp [instrs, erasedRange, List.take_of_length_le]

theorem apply_append (body : Body) (instr : Instr) :
    (append instr).apply body = (.ok ⟨body.nextId⟩, body.inserted body.length instr) := rfl

/-- Inserting succeeds exactly up to the end, and a failure changes nothing. -/
theorem apply_insertIdx (body : Body) (index : Nat) (instr : Instr) :
    (insertIdx index instr).apply body =
      if body.length < index then (.error (.outOfBounds index body.length), body)
      else (.ok ⟨body.nextId⟩, body.inserted index instr) := by
  rw [insertIdx, Edit.apply_bind]
  simp only [Edit.apply_get]
  split <;> rfl

/-- Erasing succeeds exactly at a line that nothing keeps, and a failure changes nothing. -/
theorem apply_eraseIdx (body : Body) (index : Nat) (moveBounds : Bool) (method : String) :
    (eraseIdx index moveBounds method).apply body =
      match body.lines[index]? with
      | none => (.error (.outOfBounds index body.length), body)
      | some line =>
        match body.obstacle? index moveBounds line.id with
        | some obstacle => (.error (.invalidRemoval method index obstacle), body)
        | none => (.ok line.instr, body.erased index) := by
  rw [eraseIdx, Edit.apply_bind]
  simp only [Edit.apply_get]
  cases body.lines[index]? with
  | none => rfl
  | some line => dsimp only; cases body.obstacle? index moveBounds line.id <;> rfl

end Body
end Retrofit

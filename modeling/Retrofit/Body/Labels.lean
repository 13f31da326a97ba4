import Retrofit.Body.Lines

/-!
Labels of a body: defining and placing them, moving them from line to line, and finding those that
stand at a place.
-/

namespace Retrofit

/-- A table of labels: each entry is the index of the line at which the label stands. -/
structure Targets where
  entries : Array (Option Nat)

def Targets.get? (targets : Targets) (label : LabelId) : Option Nat :=
  (targets.entries[label.index]?).join

namespace Body

def placeOf? (body : Body) (label : LabelId) : Option LabelPlace :=
  body.labels[label.index]?

/-- The line at which a label stands, if the line is still there. -/
def lineOf? (body : Body) (label : LabelId) : Option InstrId :=
  match body.placeOf? label with
  | some (.line id) => if body.contains id then some id else none
  | _ => none

def targets (body : Body) : Targets :=
  let positions := body.positions
  ⟨body.labels.map fun place =>
    match place with
    | .line id => positions.get? id
    | _ => none⟩

/-- The labels with a given place, in order of definition. -/
def labelsPlaced (body : Body) (place : LabelPlace) : List LabelId :=
  (body.labels.toList.zipIdx.filter fun entry => entry.1 = place).map fun entry => ⟨entry.2⟩

def labelsAt (body : Body) (id : InstrId) : List LabelId := body.labelsPlaced (.line id)

def labelsAtEnd (body : Body) : List LabelId := body.labelsPlaced .atEnd

def placed (body : Body) (label : LabelId) (place : LabelPlace) : Body :=
  { body with labels := body.labels.setIfInBounds label.index place }

/-- The body with all labels at one line moved to another. -/
def labelsMoved (body : Body) (source target : InstrId) : Body :=
  { body with labels := body.labels.map (·.moved source (some target)) }

/-- The body with one more label, which has no place yet. -/
def withLabel (body : Body) : Body :=
  { body with labels := body.labels.push .unplaced }

def newLabel : Edit Body LabelId := do
  let body ← get
  let label : LabelId := ⟨body.labels.size⟩
  set body.withLabel
  return label

def setPlace (label : LabelId) (place : LabelPlace) : Edit Body Unit := do
  let body ← get
  if body.labels.size ≤ label.index then
    throw (.malformed (.unknownLabel label))
  set (body.placed label place)

def attachLabel (label : LabelId) (id : InstrId) : Edit Body Unit := do
  let body ← get
  if !body.contains id then
    throw (.malformed (.labelOnRemoved label id))
  setPlace label (.line id)

/-- Puts a label at the line with the index, or behind the last line. -/
def placeLabel (label : LabelId) (index : Nat) : Edit Body Unit := do
  let body ← get
  if body.length < index then
    throw (.outOfBounds index body.length)
  setPlace label (.before (body.idAt? index))

/-- Moves all labels at one line to another, and counts them. The first line need not be there any
more. -/
def moveLabels (source target : InstrId) : Edit Body Nat := do
  let body ← get
  if !body.contains target then
    throw (.malformed (.labelsToRemoved target))
  let count := (body.labelsAt source).length
  set (body.labelsMoved source target)
  return count

@[simp] theorem get?_targets (body : Body) (label : LabelId) :
    body.targets.get? label = (body.lineOf? label).bind body.indexOf? := by
  simp only [targets, Targets.get?, lineOf?, placeOf?, Array.getElem?_map, get?_positions]
  rcases body.labels[label.index]? with _ | _ | _ | id
  case some.line =>
    cases present : body.contains id
    · have absent : body.indexOf? id = none := by simpa [← indexOf?_isSome] using present
      simp [absent, present]
    · simp [present]
  all_goals rfl

/-- A label can be put anywhere exactly if the body defines it. -/
theorem apply_setPlace (body : Body) (label : LabelId) (place : LabelPlace) :
    (setPlace label place).apply body =
      if body.labels.size ≤ label.index then (.error (.malformed (.unknownLabel label)), body)
      else (.ok (), body.placed label place) := by
  rw [setPlace, Edit.apply_bind]
  simp only [Edit.apply_get]
  split <;> rfl

theorem apply_moveLabels (body : Body) (source target : InstrId) :
    (moveLabels source target).apply body =
      if body.contains target then
        (.ok (body.labelsAt source).length, body.labelsMoved source target)
      else (.error (.malformed (.labelsToRemoved target)), body) := by
  rw [moveLabels, Edit.apply_bind]
  simp only [Edit.apply_get]
  cases body.contains target <;> rfl

theorem mem_labelsPlaced {body : Body} {place : LabelPlace} {label : LabelId} :
    label ∈ body.labelsPlaced place ↔ body.placeOf? label = some place := by
  obtain ⟨index⟩ := label
  simp only [labelsPlaced, placeOf?, List.mem_map, List.mem_filter, decide_eq_true_eq,
    ← Array.getElem?_toList]
  constructor
  · rintro ⟨⟨found, number⟩, ⟨listed, rfl⟩, same⟩
    cases same
    simpa using List.mk_mem_zipIdx_iff_getElem?.1 listed
  · intro found
    exact ⟨(place, index), ⟨List.mk_mem_zipIdx_iff_getElem?.2 found, rfl⟩, rfl⟩

end Body
end Retrofit

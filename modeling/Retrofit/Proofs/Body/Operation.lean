import Retrofit.Proofs.Body.Change

/-!
The operations on a body as data, so that sequences of them can be spoken of. Each one, successful
or not, makes a number of changes (`Op.changes`).
-/

namespace Retrofit.Body

/-- An operation on a body. `write` stands for overwriting an instruction in place. -/
inductive Op where
  | append (instr : Instr)
  | insertIdx (index : Nat) (instr : Instr)
  | eraseIdx (index : Nat) (moveBounds : Bool) (method : String)
  | write (index : Nat) (instr : Instr)
  | newLabel
  | attachLabel (label : LabelId) (id : InstrId)
  | placeLabel (label : LabelId) (index : Nat)
  | moveLabels (source target : InstrId)
  | widenAll
  | widenAsNeeded (passes : Nat)
  | finish (method : String) (policy : BranchPolicy) (passes : Nat)

namespace Op

/-- The edit for which an operation stands. -/
def perform : Op → Edit Body Unit
  | .append instr => discard (Body.append instr)
  | .insertIdx index instr => discard (Body.insertIdx index instr)
  | .eraseIdx index moveBounds method => discard (Body.eraseIdx index moveBounds method)
  | .write index instr => modify fun body => body.changeAt index fun _ => instr
  | .newLabel => discard Body.newLabel
  | .attachLabel label id => Body.attachLabel label id
  | .placeLabel label index => Body.placeLabel label index
  | .moveLabels source target => discard (Body.moveLabels source target)
  | .widenAll => discard Body.widenAll
  | .widenAsNeeded passes => discard (Body.widenAsNeeded passes)
  | .finish method policy passes => discard (Body.finish method policy passes)

/-- The body that an operation leaves, whether it succeeds or fails. -/
def after (op : Op) (body : Body) : Body := (op.perform.apply body).2

/-- The instructions that an operation writes. -/
def writes : Op → Instr → Prop
  | .append instr, written | .insertIdx _ instr, written | .write _ instr, written =>
    written = instr
  | _, _ => False

/-- Whether an operation may move region boundaries. -/
def movesBounds : Op → Bool
  | .eraseIdx _ moveBounds _ => moveBounds
  | _ => false

end Op

/-- The body that a sequence of operations leaves. Failures do not end it. -/
def after (body : Body) (ops : List Op) : Body := ops.foldl (fun body op => op.after body) body

variable {body : Body} {writes : Instr → Prop} {moving : Bool}

@[simp] theorem after_nil (body : Body) : body.after [] = body := rfl

@[simp] theorem after_cons (body : Body) (op : Op) (ops : List Op) :
    body.after (op :: ops) = (op.after body).after ops := rfl

theorem after_append (body : Body) (first second : List Op) :
    body.after (first ++ second) = (body.after first).after second :=
  List.foldl_append

theorem changes_insertIdx (body : Body) (index : Nat) (instr : Instr) (written : writes instr) :
    Changes writes moving body ((insertIdx index instr).apply body).2 := by
  rw [apply_insertIdx]
  split
  · exact .refl
  · next inside => exact .single (.insert index instr (Nat.le_of_not_lt inside) written)

theorem changes_eraseIdx (body : Body) (index : Nat) (moveBounds : Bool) (method : String) :
    Changes writes moveBounds body ((eraseIdx index moveBounds method).apply body).2 := by
  rw [apply_eraseIdx]
  split
  · exact .refl
  · next line found =>
    split
    · exact .refl
    · next free => exact .single (.erase index line found free)

theorem changes_setPlace (body : Body) (label : LabelId) (anchor : Option InstrId)
    (live : ∀ id ∈ anchor, id ∈ body.ids) :
    Changes writes moving body ((setPlace label (.before anchor)).apply body).2 := by
  rw [apply_setPlace]
  split
  · exact .refl
  · exact .single (.place label anchor live)

theorem apply_newLabel (body : Body) :
    newLabel.apply body = (.ok ⟨body.labels.size⟩, body.withLabel) := rfl

/-- A label can be put at every line that is there, if the body defines it. -/
theorem apply_attachLabel (body : Body) (label : LabelId) (id : InstrId) :
    (attachLabel label id).apply body =
      if body.contains id then (setPlace label (.line id)).apply body
      else (.error (.malformed (.labelOnRemoved label id)), body) := by
  rw [attachLabel, Edit.apply_bind]
  simp only [Edit.apply_get]
  cases body.contains id <;> rfl

/-- A label can be put at every index up to the end, if the body defines it. -/
theorem apply_placeLabel (body : Body) (label : LabelId) (index : Nat) :
    (placeLabel label index).apply body =
      if body.length < index then (.error (.outOfBounds index body.length), body)
      else (setPlace label (.before (body.idAt? index))).apply body := by
  rw [placeLabel, Edit.apply_bind]
  simp only [Edit.apply_get]
  split <;> rfl

theorem changes_placeLabel (body : Body) (label : LabelId) (index : Nat) :
    Changes writes moving body ((placeLabel label index).apply body).2 := by
  rw [apply_placeLabel]
  split
  · exact .refl
  · exact changes_setPlace body label _ fun id here => mem_ids_of_idAt? here

theorem changes_moveLabels (body : Body) (source target : InstrId) :
    Changes writes moving body ((moveLabels source target).apply body).2 := by
  rw [apply_moveLabels]
  split
  · next live => exact .single (.move source target (contains_iff.1 live))
  · exact .refl

/-- Every pass of the fitting of branches makes one change. -/
theorem changes_widenFrom (body : Body) (targets : Targets) (limit passes count : Nat) :
    Changes writes moving body ((widenFrom targets limit passes count).apply body).2 := by
  induction passes generalizing body count with
  | zero => exact .refl
  | succ passes ih =>
    rw [widenFrom, Edit.apply_bind]
    simp only [Edit.apply_get]
    split
    · exact .refl
    · rw [Edit.apply_bind]
      exact .head (.widen _) (ih _ _)

theorem apply_widenAll (body : Body) :
    widenAll.apply body =
      (.ok (body.layout.countP holdsShortBranch), body.widenedAt holdsShortBranch) := rfl

theorem apply_widenAsNeeded (body : Body) (passes : Nat) :
    (widenAsNeeded passes).apply body = (widenFrom body.targets passes passes 0).apply body := by
  rw [widenAsNeeded, Edit.apply_bind]
  simp only [Edit.apply_get]

theorem changes_formBranches (body : Body) (policy : BranchPolicy) (passes : Nat) :
    Changes writes moving body ((formBranches policy passes).apply body).2 := by
  cases policy with
  | allLong =>
    rw [formBranches, apply_widenAll]
    exact .single (.widen _)
  | fitting =>
    rw [formBranches, apply_widenAsNeeded]
    exact changes_widenFrom body body.targets passes passes 0

/-- Finishing a body checks it first, and changes it only if it passes. -/
theorem apply_finish (body : Body) (method : String) (policy : BranchPolicy) (passes : Nat) :
    (finish method policy passes).apply body =
      match body.check method with
      | .ok () => (formBranches policy passes).apply body
      | .error error => (.error error, body) := by
  rw [finish, Edit.apply_bind]
  simp only [Edit.apply_get]
  rw [Edit.apply_bind]
  simp only [Edit.apply_demand]
  cases body.check method <;> rfl

/-- Every operation makes changes only, and writes only what it says. -/
theorem Op.changes (op : Op) (body : Body) : Changes op.writes op.movesBounds body (op.after body) := by
  cases op with
  | append instr =>
    exact .single (.insert body.length instr (Nat.le_refl _) rfl)
  | insertIdx index instr =>
    rw [after, perform, Edit.apply_discard]
    exact changes_insertIdx body index instr rfl
  | eraseIdx index moveBounds method =>
    rw [after, perform, Edit.apply_discard]
    exact changes_eraseIdx body index moveBounds method
  | write index instr => exact .single (.write index instr rfl)
  | newLabel => exact .single .define
  | attachLabel label id =>
    rw [after, perform, apply_attachLabel]
    split
    · next live =>
      exact changes_setPlace body label (some id) (by simpa using contains_iff.1 live)
    · exact .refl
  | placeLabel label index => exact changes_placeLabel body label index
  | moveLabels source target =>
    rw [after, perform, Edit.apply_discard]
    exact changes_moveLabels body source target
  | widenAll => exact changes_formBranches body .allLong 0
  | widenAsNeeded passes =>
    rw [after, perform, Edit.apply_discard]
    exact changes_formBranches body .fitting passes
  | finish method policy passes =>
    rw [after, perform, Edit.apply_discard, apply_finish]
    split
    · exact changes_formBranches body policy passes
    · exact .refl

variable {id : InstrId}

theorem gone_after (issued : id.index < body.nextId) (gone : id ∉ body.ids) (ops : List Op) :
    id ∉ (body.after ops).ids := by
  induction ops generalizing body with
  | nil => exact gone
  | cons op rest ih =>
    have changed := op.changes body
    exact ih (Nat.lt_of_lt_of_le issued changed.nextId_le) (changed.gone issued gone)

end Retrofit.Body

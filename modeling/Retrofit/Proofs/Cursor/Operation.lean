import Retrofit.Cursor.Search
import Retrofit.Cursor.Write
import Retrofit.Proofs.Body.Operation
import Retrofit.Proofs.Body.Range
import Retrofit.Proofs.Body.Window

/-!
The operations of a cursor as data, with one equation for each. Those that edit make a number of
changes of the body (`Op.changes`); the others leave it alone.
-/

namespace Retrofit.Cursor

/-- An operation of a cursor. `onBody` stands for an operation on the body under it, past the
cursor. -/
inductive Op where
  | moveTo (index : Nat)
  | returnTo (mark : Mark)
  | moveToLabel (label : LabelId)
  | seek (direction : Direction) (window : Window) (landing : Landing)
  | trySeek (direction : Direction) (window : Window) (landing : Landing)
  | goBehindLabels
  | goBeforeLabels
  | newLabel
  | placeLabelHere (label : LabelId)
  | newLabelHere
  | moveLabels (source target : InstrId)
  | insertBehind (instr : Instr)
  | insertBefore (instr : Instr)
  | emit (opcode : Opcode) (operand : Operand)
  | overwrite (opcode : Opcode) (operand : Operand)
  | erase
  | eraseNext (count : Nat)
  | eraseReanchored
  | onBody (op : Body.Op)

namespace Op

/-- The edit for which an operation stands. -/
def perform : Op → Edit Cursor Unit
  | .moveTo index => Cursor.moveTo index
  | .returnTo mark => Cursor.returnTo mark
  | .moveToLabel label => Cursor.moveToLabel label
  | .seek direction window landing => Cursor.seek direction window landing
  | .trySeek direction window landing => discard (Cursor.trySeek direction window landing)
  | .goBehindLabels => Cursor.goBehindLabels
  | .goBeforeLabels => Cursor.goBeforeLabels
  | .newLabel => discard Cursor.newLabel
  | .placeLabelHere label => Cursor.placeLabelHere label
  | .newLabelHere => discard Cursor.newLabelHere
  | .moveLabels source target => discard (Cursor.moveLabels source target)
  | .insertBehind instr => discard (Cursor.insertBehind instr)
  | .insertBefore instr => discard (Cursor.insertBefore instr)
  | .emit opcode operand => discard (Cursor.emit opcode operand)
  | .overwrite opcode operand => Cursor.overwrite opcode operand
  | .erase => discard Cursor.erase
  | .eraseNext count => Cursor.eraseNext count
  | .eraseReanchored => discard Cursor.eraseReanchored
  | .onBody op => Cursor.onBody op.perform

/-- The cursor that an operation leaves, whether it succeeds or fails. -/
def after (op : Op) (cursor : Cursor) : Cursor := (op.perform.apply cursor).2

/-- The instructions that an operation writes, if it succeeds. -/
def writes : Op → Instr → Prop
  | .insertBehind instr, written | .insertBefore instr, written => written = instr
  | .emit opcode operand, written | .overwrite opcode operand, written =>
    written = ⟨opcode, operand⟩
  | .onBody op, written => op.writes written
  | _, _ => False

/-- Whether an operation may move region boundaries. -/
def movesBounds : Op → Bool
  | .eraseReanchored => true
  | .onBody op => op.movesBounds
  | _ => false

end Op

/-- The cursor that a sequence of operations leaves. Failures do not end it. -/
def after (cursor : Cursor) (ops : List Op) : Cursor :=
  ops.foldl (fun cursor op => op.after cursor) cursor

@[simp] theorem after_nil (cursor : Cursor) : cursor.after [] = cursor := rfl

@[simp] theorem after_cons (cursor : Cursor) (op : Op) (ops : List Op) :
    cursor.after (op :: ops) = (op.after cursor).after ops := rfl

theorem after_append (cursor : Cursor) (first second : List Op) :
    cursor.after (first ++ second) = (cursor.after first).after second :=
  List.foldl_append

@[simp] theorem apply_onBody (edit : Edit Body α) (cursor : Cursor) :
    (onBody edit).apply cursor =
      ((edit.apply cursor.body).1, { cursor with body := (edit.apply cursor.body).2 }) := rfl

theorem apply_moveTo (cursor : Cursor) (index : Nat) :
    (moveTo index).apply cursor =
      if cursor.body.length < index then (.error (.outOfBounds index cursor.body.length), cursor)
      else (.ok (), cursor.placed index) := by
  rw [moveTo, Edit.apply_bind]
  simp only [Edit.apply_get]
  split <;> rfl

theorem apply_returnTo (cursor : Cursor) (mark : Mark) :
    (returnTo mark).apply cursor =
      match mark.line with
      | none => (.ok (), cursor.placed cursor.body.length)
      | some id =>
        match cursor.body.indexOf? id with
        | some index => (.ok (), cursor.placed index)
        | none => (.error (.malformed (.markOnRemoved id cursor.method)), cursor) := by
  rw [returnTo, Edit.apply_bind]
  simp only [Edit.apply_get]
  cases mark.line with
  | none => rfl
  | some id => dsimp only; cases cursor.body.indexOf? id <;> rfl

theorem apply_moveToLabel (cursor : Cursor) (label : LabelId) :
    (moveToLabel label).apply cursor =
      match cursor.labelIndex? label with
      | some index => (.ok (), cursor.placed index)
      | none => (.error (.unboundLabel label), cursor) := by
  rw [moveToLabel, Edit.apply_bind]
  simp only [Edit.apply_get]
  cases cursor.labelIndex? label <;> rfl

theorem opensAt_of_nearest? {cursor : Cursor} {direction : Direction} {accepts : Nat → Bool}
    {start : Nat} (found : cursor.nearest? direction accepts = some start) :
    accepts start = true := by
  rw [nearest?_eq] at found
  exact (List.mem_filter.1 (List.mem_of_head? found)).2

theorem le_of_nearest? {cursor : Cursor} {accepts : Nat → Bool} {start : Nat}
    (found : cursor.nearest? .next accepts = some start) : cursor.index ≤ start := by
  rw [nearest?_eq] at found
  have listed := (List.mem_filter.1 (List.mem_of_head? found)).1
  exact (List.mem_range'_1.1 listed).1

theorem apply_trySeek (cursor : Cursor) (direction : Direction) (window : Window)
    (landing : Landing) :
    (trySeek direction window landing).apply cursor =
      match cursor.nearest? direction (window.opensAt cursor.body) with
      | none => (.ok false, cursor)
      | some start => (.ok true, cursor.landed landing window start) := by
  rw [trySeek, Edit.apply_bind]
  simp only [Edit.apply_get]
  cases cursor.nearest? direction (window.opensAt cursor.body) <;> rfl

theorem apply_seek (cursor : Cursor) (direction : Direction) (window : Window)
    (landing : Landing) :
    (seek direction window landing).apply cursor =
      match cursor.nearest? direction (window.opensAt cursor.body) with
      | none => (.error (cursor.notFound direction window), cursor)
      | some start => (.ok (), cursor.landed landing window start) := by
  rw [seek, Edit.apply_bind, apply_trySeek]
  cases cursor.nearest? direction (window.opensAt cursor.body) <;> rfl

@[simp] theorem body_placed (cursor : Cursor) (index : Nat) (behindLabels : Bool) :
    (cursor.placed index behindLabels).body = cursor.body := rfl

@[simp] theorem body_landed (cursor : Cursor) (landing : Landing) (window : Window)
    (start : Nat) : (cursor.landed landing window start).body = cursor.body := by
  cases landing <;> rfl

@[simp] theorem body_moveTo (cursor : Cursor) (index : Nat) :
    ((moveTo index).apply cursor).2.body = cursor.body := by
  rw [apply_moveTo]
  split <;> rfl

@[simp] theorem body_returnTo (cursor : Cursor) (mark : Mark) :
    ((returnTo mark).apply cursor).2.body = cursor.body := by
  rw [apply_returnTo]
  split
  · rfl
  · split <;> rfl

@[simp] theorem body_moveToLabel (cursor : Cursor) (label : LabelId) :
    ((moveToLabel label).apply cursor).2.body = cursor.body := by
  rw [apply_moveToLabel]
  split <;> rfl

@[simp] theorem body_trySeek (cursor : Cursor) (direction : Direction) (window : Window)
    (landing : Landing) : ((trySeek direction window landing).apply cursor).2.body = cursor.body := by
  rw [apply_trySeek]
  split
  · rfl
  · exact body_landed cursor landing window _

@[simp] theorem body_seek (cursor : Cursor) (direction : Direction) (window : Window)
    (landing : Landing) : ((seek direction window landing).apply cursor).2.body = cursor.body := by
  rw [apply_seek]
  split
  · rfl
  · exact body_landed cursor landing window _

/-- The body with an instruction inserted at the cursor. Behind the labels means that the new line
takes those of the line there. -/
def bodyInserting (cursor : Cursor) (instr : Instr) : Body :=
  match cursor.behindLabels, cursor.body.idAt? cursor.index with
  | true, some displaced =>
    (cursor.body.inserted cursor.index instr).labelsMoved displaced ⟨cursor.body.nextId⟩
  | _, _ => cursor.body.inserted cursor.index instr

theorem apply_insertBehind (cursor : Cursor) (instr : Instr) :
    (insertBehind instr).apply cursor =
      if cursor.body.length < cursor.index then
        (.error (.outOfBounds cursor.index cursor.body.length), cursor)
      else
        (.ok ⟨cursor.body.nextId⟩, { cursor with body := cursor.bodyInserting instr }) := by
  rw [insertBehind, Edit.apply_bind]
  simp only [Edit.apply_get]
  rw [Edit.apply_bind]
  simp only [apply_onBody, Body.apply_insertIdx]
  by_cases outside : cursor.body.length < cursor.index
  · simp only [outside, ↓reduceIte]
  · have inside : cursor.index ≤ cursor.body.ids.length := by
      rw [← Body.length_eq]
      omega
    have present : (cursor.body.inserted cursor.index instr).contains ⟨cursor.body.nextId⟩ := by
      rw [Body.contains_iff, Body.ids_inserted, List.mem_insertIdx inside]
      exact .inl rfl
    simp only [outside, ↓reduceIte]
    cases behind : cursor.behindLabels with
    | false => simp [bodyInserting, behind]
    | true =>
      cases here : cursor.body.idAt? cursor.index with
      | none => simp [bodyInserting, behind, here]
      | some displaced =>
        simp [bodyInserting, behind, here, Body.apply_moveLabels, present, Except.map]

theorem apply_insertBefore (cursor : Cursor) (instr : Instr) :
    (insertBefore instr).apply cursor =
      if cursor.body.length < cursor.index then
        (.error (.outOfBounds cursor.index cursor.body.length), cursor)
      else
        (.ok ⟨cursor.body.nextId⟩,
          { cursor with body := cursor.bodyInserting instr, index := cursor.index + 1 }) := by
  rw [insertBefore, Edit.apply_bind, apply_insertBehind]
  by_cases outside : cursor.body.length < cursor.index
  · simp only [outside, ↓reduceIte]
  · simp only [outside, ↓reduceIte]
    rfl

theorem body_insertBefore (cursor : Cursor) (instr : Instr) :
    ((insertBefore instr).apply cursor).2.body = ((insertBehind instr).apply cursor).2.body := by
  rw [apply_insertBefore, apply_insertBehind]
  split <;> rfl

theorem apply_emit (cursor : Cursor) (opcode : Opcode) (operand : Operand) :
    (emit opcode operand).apply cursor =
      match Instr.of opcode operand with
      | .ok instr => (insertBefore instr).apply cursor
      | .error error => (.error error, cursor) := by
  rw [emit, Edit.apply_bind]
  simp only [Edit.apply_demand]
  cases Instr.of opcode operand <;> rfl

theorem apply_overwrite (cursor : Cursor) (opcode : Opcode) (operand : Operand) :
    (overwrite opcode operand).apply cursor =
      match Instr.of opcode operand with
      | .ok instr =>
        if cursor.body.length ≤ cursor.index then
          (.error (.outOfBounds cursor.index cursor.body.length), cursor)
        else
          (.ok (), { cursor with body := cursor.body.changeAt cursor.index fun _ => instr })
      | .error error => (.error error, cursor) := by
  rw [overwrite, Edit.apply_bind]
  simp only [Edit.apply_demand]
  cases Instr.of opcode operand with
  | error error => rfl
  | ok instr =>
    dsimp only
    rw [Edit.apply_bind]
    simp only [Edit.apply_get]
    split <;> rfl

theorem apply_erase (cursor : Cursor) :
    erase.apply cursor =
      (onBody (Body.eraseIdx cursor.index false cursor.method)).apply cursor := by
  rw [erase, Edit.apply_bind]
  simp only [Edit.apply_get]

theorem apply_eraseReanchored (cursor : Cursor) :
    eraseReanchored.apply cursor =
      (onBody (Body.eraseIdx cursor.index true cursor.method)).apply cursor := by
  rw [eraseReanchored, Edit.apply_bind]
  simp only [Edit.apply_get]

theorem apply_eraseNext (cursor : Cursor) (count : Nat) :
    (eraseNext count).apply cursor =
      if cursor.body.length < cursor.index + count then
        (.error (.outOfBounds (min (cursor.index + count) largestIndex) cursor.body.length),
          cursor)
      else
        match firstTie? cursor.body cursor.index
            (cursor.body.lines.extract cursor.index (cursor.index + count)).toList with
        | some (index, obstacle) =>
          (.error (.invalidRemoval cursor.method index obstacle), cursor)
        | none => (.ok (), { cursor with body := cursor.body.erasedRange cursor.index count }) := by
  rw [eraseNext, Edit.apply_bind]
  simp only [Edit.apply_get]
  split
  · rfl
  · cases firstTie? cursor.body cursor.index
      (cursor.body.lines.extract cursor.index (cursor.index + count)).toList <;> rfl

theorem apply_placeLabelHere (cursor : Cursor) (label : LabelId) :
    (placeLabelHere label).apply cursor =
      (onBody (Body.placeLabel label cursor.index)).apply cursor := by
  rw [placeLabelHere, Edit.apply_bind]
  simp only [Edit.apply_get]

theorem apply_newLabelHere (cursor : Cursor) :
    newLabelHere.apply cursor =
      match (Body.placeLabel ⟨cursor.body.labels.size⟩ cursor.index).apply
          cursor.body.withLabel with
      | (.ok (), body) => (.ok ⟨cursor.body.labels.size⟩, { cursor with body })
      | (.error error, body) => (.error error, { cursor with body }) := by
  rw [newLabelHere, Edit.apply_bind]
  simp only [newLabel, apply_onBody, Body.apply_newLabel]
  rw [Edit.apply_bind, apply_placeLabelHere]
  simp only [apply_onBody]
  rcases (Body.placeLabel ⟨cursor.body.labels.size⟩ cursor.index).apply cursor.body.withLabel
    with ⟨_ | _, _⟩ <;> rfl

theorem firstTie?_eq_none {body : Body} {index start count : Nat} :
    firstTie? body index (body.lines.extract start (start + count)).toList = none ↔
      body.untied start count := by
  rw [Body.untied, ← Array.all_toList]
  generalize (body.lines.extract start (start + count)).toList = lines
  induction lines generalizing index with
  | nil => simp [firstTie?]
  | cons line rest ih =>
    rw [firstTie?]
    cases tied : body.tie? line.id with
    | none => simp [ih, tied]
    | some obstacle => simp [tied]

variable {writes : Instr → Prop} {moving : Bool}

/-- An insertion is one change, or two where the new line takes over labels. -/
theorem changes_bodyInserting (cursor : Cursor) (instr : Instr)
    (inside : cursor.index ≤ cursor.body.length) (written : writes instr) :
    Body.Changes writes moving cursor.body (cursor.bodyInserting instr) := by
  have inserted : Body.Change writes moving cursor.body
      (cursor.body.inserted cursor.index instr) := .insert _ instr inside written
  unfold bodyInserting
  split
  · rw [Body.length_eq] at inside
    refine .tail (.single inserted) (.move _ _ ?_)
    rw [Body.ids_inserted, List.mem_insertIdx inside]
    exact .inl rfl
  · exact .single inserted

theorem changes_insertBehind (cursor : Cursor) (instr : Instr) (written : writes instr) :
    Body.Changes writes moving cursor.body ((insertBehind instr).apply cursor).2.body := by
  rw [apply_insertBehind]
  split
  · exact .refl
  · exact changes_bodyInserting cursor instr (by omega) written

theorem changes_insertBefore (cursor : Cursor) (instr : Instr) (written : writes instr) :
    Body.Changes writes moving cursor.body ((insertBefore instr).apply cursor).2.body := by
  rw [apply_insertBefore]
  split
  · exact .refl
  · exact changes_bodyInserting cursor instr (by omega) written

theorem changes_eraseNext (cursor : Cursor) (formed : cursor.body.WellFormed) (count : Nat) :
    Body.Changes writes false cursor.body ((eraseNext count).apply cursor).2.body := by
  rw [apply_eraseNext]
  split
  · exact .refl
  · split
    · exact .refl
    · next free => exact Body.changes_erasedRange formed (by omega) (firstTie?_eq_none.1 free)

/-- Every operation makes changes of the body only, and writes only what it says. -/
theorem Op.changes (op : Op) (cursor : Cursor) (formed : cursor.body.WellFormed) :
    Body.Changes op.writes op.movesBounds cursor.body (op.after cursor).body := by
  cases op with
  | moveTo index => rw [after, perform, body_moveTo]
  | returnTo mark => rw [after, perform, body_returnTo]
  | moveToLabel label => rw [after, perform, body_moveToLabel]
  | seek direction window landing => rw [after, perform, body_seek]
  | trySeek direction window landing =>
    rw [after, perform, Edit.apply_discard, body_trySeek]
  | goBehindLabels => exact .refl
  | goBeforeLabels => exact .refl
  | newLabel => exact .single .define
  | placeLabelHere label =>
    rw [after, perform, apply_placeLabelHere]
    exact Body.changes_placeLabel cursor.body label cursor.index
  | newLabelHere =>
    have placed : Body.Changes (writes .newLabelHere) (movesBounds .newLabelHere)
        cursor.body.withLabel _ :=
      Body.changes_placeLabel cursor.body.withLabel ⟨cursor.body.labels.size⟩ cursor.index
    rw [after, perform, Edit.apply_discard, apply_newLabelHere]
    refine .head .define ?_
    split <;> next reached => rwa [reached] at placed
  | moveLabels source target =>
    rw [after, perform, Edit.apply_discard]
    exact Body.changes_moveLabels cursor.body source target
  | insertBehind instr =>
    rw [after, perform, Edit.apply_discard]
    exact changes_insertBehind cursor instr rfl
  | insertBefore instr =>
    rw [after, perform, Edit.apply_discard]
    exact changes_insertBefore cursor instr rfl
  | emit opcode operand =>
    rw [after, perform, Edit.apply_discard, apply_emit]
    split
    · next instr made =>
      exact changes_insertBefore cursor instr (Instr.of_eq_ok_iff.1 made).1
    · exact .refl
  | overwrite opcode operand =>
    rw [after, perform, apply_overwrite]
    split
    · next instr made =>
      split
      · exact .refl
      · exact .single (.write cursor.index instr (Instr.of_eq_ok_iff.1 made).1)
    · exact .refl
  | erase =>
    rw [after, perform, Edit.apply_discard, apply_erase]
    exact Body.changes_eraseIdx cursor.body cursor.index false cursor.method
  | eraseNext count =>
    rw [after, perform]
    exact changes_eraseNext cursor formed count
  | eraseReanchored =>
    rw [after, perform, Edit.apply_discard, apply_eraseReanchored]
    exact Body.changes_eraseIdx cursor.body cursor.index true cursor.method
  | onBody op => exact op.changes cursor.body

theorem wellFormed_after (cursor : Cursor) (formed : cursor.body.WellFormed) (ops : List Op) :
    (cursor.after ops).body.WellFormed := by
  induction ops generalizing cursor with
  | nil => exact formed
  | cons op rest ih => exact ih (op.after cursor) (formed.changes (op.changes cursor formed))

end Retrofit.Cursor

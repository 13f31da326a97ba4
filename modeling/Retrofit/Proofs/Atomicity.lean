import Mathlib
import Retrofit.Proofs.Reachable

/-!
Edits that fail leave no trace. An operation of a body, or of a cursor that is not behind the end of
its body, either does all it is asked to or nothing at all: no error comes after the first change.
Finishing a body and fitting its branches are left out; these may give up half way.
`Cursor.untouched_of_error` is the result.
-/

namespace Retrofit

/-- The edit, if it fails from the state, leaves it as it is. -/
def Edit.Traceless (edit : Edit σ α) (state : σ) : Prop :=
  ∀ error after, edit.apply state = (.error error, after) → after = state

section Traceless

variable {edit : Edit σ α} {state : σ}

theorem Edit.Traceless.of_error {error : PatchError} (traceless : edit.Traceless state)
    (failed : (edit.apply state).1 = .error error) : (edit.apply state).2 = state :=
  traceless error _ (Prod.ext failed rfl)

theorem Edit.Traceless.of_ok {value : α} (done : (edit.apply state).1 = .ok value) :
    edit.Traceless state := by
  intro error after failed
  rw [failed] at done
  cases done

theorem Edit.Traceless.discard (traceless : edit.Traceless state) :
    (discard edit).Traceless state := by
  intro error after failed
  rw [apply_discard] at failed
  rcases ran : edit.apply state with ⟨found | value, left⟩ <;> rw [ran] at failed <;> cases failed
  exact traceless _ _ ran

end Traceless

namespace Body

/-- Whether an operation is done at once, and not in passes of which a later one may fail. -/
def Op.isAtomic : Op → Bool
  | .widenAsNeeded _ | .finish .. => false
  | _ => true

variable (body : Body)

theorem traceless_insertIdx (index : Nat) (instr : Instr) :
    (insertIdx index instr).Traceless body := by
  intro error after failed
  rw [apply_insertIdx] at failed
  split at failed <;> cases failed
  rfl

theorem traceless_eraseIdx (index : Nat) (moveBounds : Bool) (method : String) :
    (eraseIdx index moveBounds method).Traceless body := by
  intro error after failed
  rw [apply_eraseIdx] at failed
  split at failed
  · cases failed
    rfl
  · split at failed <;> cases failed
    rfl

theorem traceless_setPlace (label : LabelId) (place : LabelPlace) :
    (setPlace label place).Traceless body := by
  intro error after failed
  rw [apply_setPlace] at failed
  split at failed <;> cases failed
  rfl

theorem traceless_attachLabel (label : LabelId) (id : InstrId) :
    (attachLabel label id).Traceless body := by
  intro error after failed
  rw [apply_attachLabel] at failed
  split at failed
  · exact traceless_setPlace body label _ error after failed
  · cases failed
    rfl

theorem traceless_placeLabel (label : LabelId) (index : Nat) :
    (placeLabel label index).Traceless body := by
  intro error after failed
  rw [apply_placeLabel] at failed
  split at failed
  · cases failed
    rfl
  · exact traceless_setPlace body label _ error after failed

theorem traceless_moveLabels (source target : InstrId) :
    (moveLabels source target).Traceless body := by
  intro error after failed
  rw [apply_moveLabels] at failed
  split at failed <;> cases failed
  rfl

/-- Every operation of a body checks all it has to before it changes anything. -/
theorem Op.traceless (op : Op) (atomic : op.isAtomic = true) : op.perform.Traceless body := by
  cases op with
  | insertIdx index instr => exact (traceless_insertIdx body index instr).discard
  | eraseIdx index moveBounds method =>
    exact (traceless_eraseIdx body index moveBounds method).discard
  | attachLabel label id => exact traceless_attachLabel body label id
  | placeLabel label index => exact traceless_placeLabel body label index
  | moveLabels source target => exact (traceless_moveLabels body source target).discard
  | append => exact .of_ok rfl
  | write => exact .of_ok rfl
  | newLabel => exact .of_ok rfl
  | widenAll => exact .of_ok rfl
  | widenAsNeeded => cases atomic
  | finish => cases atomic

end Body

namespace Cursor

/-- Whether an operation is done at once. Only those past the cursor may not be. -/
def Op.isAtomic : Op → Bool
  | .onBody op => op.isAtomic
  | _ => true

variable {cursor : Cursor}

theorem traceless_onBody {edit : Edit Body α} (traceless : edit.Traceless cursor.body) :
    (onBody edit).Traceless cursor := by
  intro error after failed
  rw [apply_onBody] at failed
  rcases ran : edit.apply cursor.body with ⟨found | value, body⟩ <;> rw [ran] at failed <;>
    cases failed
  rw [traceless _ _ ran]

theorem traceless_moveTo (cursor : Cursor) (index : Nat) : (moveTo index).Traceless cursor := by
  intro error after failed
  rw [apply_moveTo] at failed
  split at failed <;> cases failed
  rfl

theorem traceless_returnTo (cursor : Cursor) (mark : Mark) :
    (returnTo mark).Traceless cursor := by
  intro error after failed
  rw [apply_returnTo] at failed
  split at failed
  · cases failed
  · split at failed <;> cases failed
    rfl

theorem traceless_moveToLabel (cursor : Cursor) (label : LabelId) :
    (moveToLabel label).Traceless cursor := by
  intro error after failed
  rw [apply_moveToLabel] at failed
  split at failed <;> cases failed
  rfl

theorem traceless_seek (cursor : Cursor) (direction : Direction) (window : Window)
    (landing : Landing) : (seek direction window landing).Traceless cursor := by
  intro error after failed
  rw [apply_seek] at failed
  split at failed <;> cases failed
  rfl

theorem traceless_trySeek (cursor : Cursor) (direction : Direction) (window : Window)
    (landing : Landing) : (trySeek direction window landing).Traceless cursor := by
  intro error after failed
  rw [apply_trySeek] at failed
  split at failed <;> cases failed

theorem traceless_demandOccurrences (cursor : Cursor) (direction : Direction) (window : Window) :
    (demandOccurrences direction window).Traceless cursor := by
  intro error after failed
  rw [demandOccurrences, Edit.apply_bind] at failed
  simp only [Edit.apply_get] at failed
  split at failed <;> cases failed
  rfl

/-- The labels of the displaced line are moved only to a line that has just been put there. -/
theorem traceless_insertBehind (cursor : Cursor) (instr : Instr) :
    (insertBehind instr).Traceless cursor := by
  intro error after failed
  rw [apply_insertBehind] at failed
  split at failed <;> cases failed
  rfl

theorem traceless_insertBefore (cursor : Cursor) (instr : Instr) :
    (insertBefore instr).Traceless cursor := by
  intro error after failed
  rw [apply_insertBefore] at failed
  split at failed <;> cases failed
  rfl

theorem traceless_emit (cursor : Cursor) (opcode : Opcode) (operand : Operand) :
    (emit opcode operand).Traceless cursor := by
  intro error after failed
  rw [apply_emit] at failed
  split at failed
  · exact traceless_insertBefore cursor _ error after failed
  · cases failed
    rfl

theorem traceless_overwrite (cursor : Cursor) (opcode : Opcode) (operand : Operand) :
    (overwrite opcode operand).Traceless cursor := by
  intro error after failed
  rw [apply_overwrite] at failed
  split at failed
  · split at failed <;> cases failed
    rfl
  · cases failed
    rfl

theorem traceless_erase (cursor : Cursor) : erase.Traceless cursor := by
  intro error after failed
  rw [apply_erase] at failed
  exact traceless_onBody (Body.traceless_eraseIdx _ _ _ _) error after failed

theorem traceless_eraseReanchored (cursor : Cursor) : eraseReanchored.Traceless cursor := by
  intro error after failed
  rw [apply_eraseReanchored] at failed
  exact traceless_onBody (Body.traceless_eraseIdx _ _ _ _) error after failed

theorem traceless_eraseNext (cursor : Cursor) (count : Nat) :
    (eraseNext count).Traceless cursor := by
  intro error after failed
  rw [apply_eraseNext] at failed
  split at failed
  · cases failed
    rfl
  · split at failed <;> cases failed
    rfl

theorem traceless_placeLabelHere (cursor : Cursor) (label : LabelId) :
    (placeLabelHere label).Traceless cursor := by
  intro error after failed
  rw [apply_placeLabelHere] at failed
  exact traceless_onBody (Body.traceless_placeLabel _ _ _) error after failed

/-- A new label is known, so that only a cursor behind the end could fail to place it. -/
theorem newLabelHere_ok (inside : cursor.index ≤ cursor.body.length) :
    (newLabelHere.apply cursor).1 = .ok ⟨cursor.body.labels.size⟩ := by
  have reached : ¬ cursor.body.withLabel.length < cursor.index := Nat.not_lt.2 inside
  have known : ¬ cursor.body.withLabel.labels.size ≤ cursor.body.labels.size := by
    simp [Body.withLabel]
  rw [apply_newLabelHere, Body.apply_placeLabel, if_neg reached, Body.apply_setPlace, if_neg known]

/-- Every operation of a cursor that is not behind the end checks all it has to before it changes
anything. -/
theorem Op.traceless (op : Op) (atomic : op.isAtomic = true)
    (inside : cursor.index ≤ cursor.body.length) : op.perform.Traceless cursor := by
  cases op with
  | moveTo index => exact traceless_moveTo cursor index
  | returnTo mark => exact traceless_returnTo cursor mark
  | moveToLabel label => exact traceless_moveToLabel cursor label
  | seek direction window landing => exact traceless_seek cursor direction window landing
  | trySeek direction window landing =>
    exact (traceless_trySeek cursor direction window landing).discard
  | goBehindLabels => exact .of_ok rfl
  | goBeforeLabels => exact .of_ok rfl
  | newLabel => exact .of_ok rfl
  | placeLabelHere label => exact traceless_placeLabelHere cursor label
  | newLabelHere => exact (Edit.Traceless.of_ok (newLabelHere_ok inside)).discard
  | moveLabels source target =>
    exact (traceless_onBody (Body.traceless_moveLabels _ source target)).discard
  | insertBehind instr => exact (traceless_insertBehind cursor instr).discard
  | insertBefore instr => exact (traceless_insertBefore cursor instr).discard
  | emit opcode operand => exact (traceless_emit cursor opcode operand).discard
  | overwrite opcode operand => exact traceless_overwrite cursor opcode operand
  | erase => exact (traceless_erase cursor).discard
  | eraseNext count => exact traceless_eraseNext cursor count
  | eraseReanchored => exact (traceless_eraseReanchored cursor).discard
  | onBody op => exact traceless_onBody (op.traceless cursor.body atomic)

/-- Erases the line behind the cursor a number of times. -/
def eraseRepeatedly : Nat → Edit Cursor Unit
  | 0 => pure ()
  | count + 1 => do
    eraseRepeatedly count
    let _ ← erase

/-- Erases a number of lines behind the cursor, one after the other, after a look at all of them. -/
def eraseNextSingly (count : Nat) : Edit Cursor Unit := do
  let cursor ← get
  if cursor.body.length < cursor.index + count then
    throw (.outOfBounds (min (cursor.index + count) largestIndex) cursor.body.length)
  let doomed := cursor.body.lines.extract cursor.index (cursor.index + count)
  if let some (index, obstacle) := firstTie? cursor.body cursor.index doomed.toList then
    throw (.invalidRemoval cursor.method index obstacle)
  eraseRepeatedly count

theorem apply_erase_of_tie? {cursor : Cursor} {id : InstrId}
    (here : cursor.body.idAt? cursor.index = some id) (free : cursor.body.tie? id = none) :
    (discard erase).apply cursor =
      (.ok (), { cursor with body := cursor.body.erased cursor.index }) := by
  obtain ⟨line, found, rfl⟩ := Option.map_eq_some_iff.1 here
  rw [Edit.apply_discard, apply_erase, apply_onBody, Body.apply_eraseIdx]
  simp [found, Body.obstacle?, free, Except.map]

/-- Lines that bound no region go away one by one, and the loop does not stop half way. -/
theorem apply_eraseRepeatedly (formed : cursor.body.WellFormed) {count : Nat}
    (inside : cursor.index + count ≤ cursor.body.length)
    (free : cursor.body.untied cursor.index count) :
    (eraseRepeatedly count).apply cursor =
      (.ok (), { cursor with body := cursor.body.erasedRange cursor.index count }) := by
  induction count with
  | zero => simp [eraseRepeatedly]
  | succ count ih =>
    have earlier := ih (by omega) (Body.untied_of_succ free)
    have short : ¬ cursor.body.length ≤ cursor.index + count := by omega
    obtain ⟨id, last⟩ := Option.ne_none_iff_exists'.1 (mt Body.idAt?_eq_none.1 short)
    have bare := Body.tie?_of_untied free (by omega) (by omega) last
    have here : (cursor.body.erasedRange cursor.index count).idAt? cursor.index = some id := by
      rw [Body.idAt?_erasedRange _ (by omega), if_neg (Nat.lt_irrefl _), last]
    rw [eraseRepeatedly, Edit.apply_bind, earlier, Body.erasedRange_succ formed.distinct last bare]
    exact apply_erase_of_tie? here bare

/-- Erasing lines one after the other is erasing them at once: the look at all of them finds
whatever could keep one of them. -/
theorem apply_eraseNextSingly (formed : cursor.body.WellFormed) (count : Nat) :
    (eraseNextSingly count).apply cursor = (eraseNext count).apply cursor := by
  rw [eraseNextSingly, Edit.apply_bind, apply_eraseNext]
  simp only [Edit.apply_get]
  split
  · rfl
  · next inside =>
    cases tied : firstTie? cursor.body cursor.index
        (cursor.body.lines.extract cursor.index (cursor.index + count)).toList with
    | some found => rfl
    | none => exact apply_eraseRepeatedly formed (by omega) (firstTie?_eq_none.1 tied)

/-- Failed edits leave no trace. Whatever a body has been through, an operation on it, or one of a
cursor that is not behind its end, that ends in an error leaves the body as it was, and the cursor
too, wherever and in whichever mode it is. This includes looking for all occurrences of a window.
Erasing several lines is erasing them one after the other, so that none of the errors comes
between two of them. -/
theorem untouched_of_error (reached : cursor.body.Reachable)
    (inside : cursor.index ≤ cursor.body.length) :
    (∀ op : Body.Op, op.isAtomic = true → ∀ error,
      (op.perform.apply cursor.body).1 = .error error → op.after cursor.body = cursor.body) ∧
    (∀ op : Op, op.isAtomic = true → ∀ error,
      (op.perform.apply cursor).1 = .error error → op.after cursor = cursor) ∧
    (∀ direction window error,
      ((demandOccurrences direction window).apply cursor).1 = .error error →
        ((demandOccurrences direction window).apply cursor).2 = cursor) ∧
    (∀ count, (eraseNextSingly count).apply cursor = (eraseNext count).apply cursor) := by
  refine ⟨?body, ?cursor, ?occurrences, ?singly⟩
  case body => exact fun op atomic _ failed => (op.traceless cursor.body atomic).of_error failed
  case cursor => exact fun op atomic _ failed => (op.traceless atomic inside).of_error failed
  case occurrences =>
    exact fun direction window _ failed =>
      (traceless_demandOccurrences cursor direction window).of_error failed
  case singly => exact apply_eraseNextSingly reached.wellFormed

/-- Three lines, of which the second begins a region and bears a label. -/
def regionBehindFirst : Body :=
  { Body.after {} [.append ⟨.nop, .none⟩, .append ⟨.nop, .none⟩, .append ⟨.ret, .none⟩, .newLabel,
      .placeLabel ⟨0⟩ 1] with
    regions := [{ tryStart := ⟨1⟩, tryEnd := some ⟨2⟩, handlerStart := ⟨2⟩, handlerEnd := none }] }

/-- The second of two lines to erase bounds a region, so that the first one stays as well. -/
theorem untouched_before_region :
    ((eraseNext 2).apply ⟨regionBehindFirst, "M", 0, true⟩).1 =
        .error (.invalidRemoval "M" 1 (.anchors ⟨1⟩ [.tryStart] 0)) ∧
      (Op.eraseNext 2).after ⟨regionBehindFirst, "M", 0, true⟩ =
        ⟨regionBehindFirst, "M", 0, true⟩ := by
  have reached : regionBehindFirst.Reachable := (Body.Reachable.empty.after _).dressed _ _ _ _
  have failed : ((eraseNext 2).apply ⟨regionBehindFirst, "M", 0, true⟩).1 =
      .error (.invalidRemoval "M" 1 (.anchors ⟨1⟩ [.tryStart] 0)) := by cbv
  exact ⟨failed, (untouched_of_error reached (Nat.zero_le _)).2.1 (.eraseNext 2) rfl _ failed⟩

end Cursor
end Retrofit

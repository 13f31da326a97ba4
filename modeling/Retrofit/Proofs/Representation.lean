import Retrofit.Proofs.Body.Blocks
import Retrofit.Proofs.Body.Frame
import Retrofit.Proofs.Reachable

/-!
The representation of bodies and cursors. A cursor that was opened on a reachable body and moved by
its own operations never leaves the body (`Cursor.Reachable.inside`), and a line put at the end takes
all labels that stood there, whichever operation puts it (`Cursor.Op.labelsAtEnd_of_appended`).
`Cursor.Reachable.representation` says all that the rest relies on.
-/

namespace Retrofit

namespace Body

variable {body after : Body} {index : Nat} {moving : Bool}

theorem Changes.nextId_eq (changed : Changes (fun _ => False) moving body after) :
    after.nextId = body.nextId := by
  induction changed with
  | refl => rfl
  | tail _ step ih =>
    cases step with
    | insert _ _ _ written => exact written.elim
    | _ => simpa using ih

theorem Changes.not_appended (formed : body.WellFormed)
    (changed : Changes (fun _ => False) moving body after) :
    after.ids ≠ body.ids ++ [⟨body.nextId⟩] := by
  intro appended
  have last : (⟨body.nextId⟩ : InstrId) ∈ after.ids := by
    rw [appended]
    exact List.mem_concat_self
  have issued := (formed.changes changed).issued _ last
  rw [changed.nextId_eq] at issued
  exact Nat.lt_irrefl _ issued

theorem length_inserted (instr : Instr) (inside : index ≤ body.length) :
    (body.inserted index instr).length = body.length + 1 := by
  rw [length_eq] at inside ⊢
  rw [ids_inserted, List.length_insertIdx_of_le_length inside, length_eq]

theorem WellFormed.length_eq_of_appended (formed : body.WellFormed) (instr : Instr)
    (inside : index ≤ body.length)
    (appended : (body.inserted index instr).ids = body.ids ++ [⟨body.nextId⟩]) :
    index = body.length := by
  rcases Nat.eq_or_lt_of_le inside with atEnd | early
  · exact atEnd
  · rw [length_eq] at early
    have here := congrArg (·[index]?) appended
    simp only [ids_inserted, List.getElem?_insertIdx_self, Nat.le_of_lt early, if_true,
      List.getElem?_append_left early] at here
    exact absurd (List.mem_of_getElem? here.symm) formed.fresh

theorem length_placeLabel (body : Body) (label : LabelId) (index : Nat) :
    ((placeLabel label index).apply body).2.length = body.length := by
  rw [apply_placeLabel]
  split
  · rfl
  · rw [apply_setPlace]
    split <;> rfl

theorem le_length_eraseIdx (inside : index ≤ body.length) (moveBounds : Bool) (method : String) :
    index ≤ ((eraseIdx index moveBounds method).apply body).2.length := by
  rw [apply_eraseIdx]
  split
  · exact inside
  · next line found =>
    split
    · exact inside
    · have here := idAt?_of_line found
      have before := lt_of_idAt? here
      rw [length_erased here]
      exact Nat.le_sub_one_of_lt before

theorem le_length_erasedRange (inside : index ≤ body.length) (count : Nat) :
    index ≤ (body.erasedRange index count).length := by
  rw [length_eq] at inside
  rw [length_eq, ids_erasedRange, List.length_append, List.length_take]
  omega

/-- A line put at the end takes all labels that stood there. -/
theorem labelsAtEnd_inserted (body : Body) (instr : Instr) :
    (body.inserted body.length instr).labelsAtEnd = [] := by
  refine List.eq_nil_iff_forall_not_mem.2 fun label listed => ?_
  have none : NoneBehind {} (body.inserted body.length instr) := noneBehind_inserted instr rfl
  exact none label (Nat.zero_le _) (mem_labelsPlaced.1 listed)

end Body

namespace Cursor

variable {cursor : Cursor}

theorem length_bodyInserting (instr : Instr) (inside : cursor.index ≤ cursor.body.length) :
    (cursor.bodyInserting instr).length = cursor.body.length + 1 := by
  unfold bodyInserting
  split
  · rw [Body.length_eq, Body.ids_labelsMoved, ← Body.length_eq, Body.length_inserted instr inside]
  · exact Body.length_inserted instr inside

theorem labelsAtEnd_bodyInserting (formed : cursor.body.WellFormed) (instr : Instr)
    (inside : cursor.index ≤ cursor.body.length)
    (appended : (cursor.bodyInserting instr).ids = cursor.body.ids ++ [⟨cursor.body.nextId⟩]) :
    (cursor.bodyInserting instr).labelsAtEnd = [] := by
  have same : (cursor.bodyInserting instr).ids = (cursor.body.inserted cursor.index instr).ids := by
    unfold bodyInserting
    split <;> rfl
  have atEnd := formed.length_eq_of_appended instr inside (same.symm.trans appended)
  have none : cursor.body.idAt? cursor.index = none := Body.idAt?_eq_none.2 (Nat.le_of_eq atEnd.symm)
  have inserted : cursor.bodyInserting instr =
      cursor.body.inserted cursor.body.length instr := by
    unfold bodyInserting
    split
    · next here => cases none.symm.trans here
    · rw [atEnd]
  rw [inserted]
  exact Body.labelsAtEnd_inserted cursor.body instr

/-- Inserting behind the last line takes the labels there; inserting elsewhere appends nothing. -/
theorem labelsAtEnd_insertBehind (formed : cursor.body.WellFormed) (instr : Instr)
    (appended : ((insertBehind instr).apply cursor).2.body.ids =
      cursor.body.ids ++ [⟨cursor.body.nextId⟩]) :
    ((insertBehind instr).apply cursor).2.body.labelsAtEnd = [] := by
  rw [apply_insertBehind] at appended ⊢
  split at appended
  · simp at appended
  · next inside =>
    rw [if_neg inside]
    exact labelsAtEnd_bodyInserting formed instr (Nat.le_of_not_lt inside) appended

theorem inside_insertBefore (inside : cursor.index ≤ cursor.body.length) (instr : Instr) :
    ((insertBefore instr).apply cursor).2.index ≤
      ((insertBefore instr).apply cursor).2.body.length := by
  rw [apply_insertBefore, if_neg (Nat.not_lt.2 inside)]
  rw [length_bodyInserting instr inside]
  exact Nat.succ_le_succ inside

end Cursor

theorem Body.Op.labelsAtEnd_of_appended (op : Op) {body : Body} (formed : body.WellFormed)
    (appended : (op.after body).ids = body.ids ++ [⟨body.nextId⟩]) :
    (op.after body).labelsAtEnd = [] := by
  have changed := op.changes body
  cases op with
  | append instr => exact labelsAtEnd_inserted body instr
  | insertIdx index instr =>
    rw [after, perform, Edit.apply_discard, apply_insertIdx] at appended ⊢
    split at appended
    · simp at appended
    · next inside =>
      rw [if_neg inside]
      have atEnd := formed.length_eq_of_appended instr (Nat.le_of_not_lt inside) appended
      subst atEnd
      exact labelsAtEnd_inserted body instr
  | write index instr =>
    have same : (after (.write index instr) body).ids = body.ids := ids_changeAt ..
    rw [same] at appended
    simp at appended
  | _ => exact absurd appended (changed.not_appended formed)

namespace Cursor

variable {cursor : Cursor}

/-- Whichever operation puts a line at the end, the line takes all labels that stood there. -/
theorem Op.labelsAtEnd_of_appended (op : Op) (formed : cursor.body.WellFormed)
    (appended : (op.after cursor).body.ids = cursor.body.ids ++ [⟨cursor.body.nextId⟩]) :
    (op.after cursor).body.labelsAtEnd = [] := by
  have changed := op.changes cursor formed
  cases op with
  | insertBehind instr =>
    rw [after, perform, Edit.apply_discard] at appended ⊢
    exact labelsAtEnd_insertBehind formed instr appended
  | insertBefore instr =>
    rw [after, perform, Edit.apply_discard, body_insertBefore] at appended ⊢
    exact labelsAtEnd_insertBehind formed instr appended
  | emit opcode operand =>
    rw [after, perform, Edit.apply_discard, apply_emit] at appended ⊢
    split at appended
    · next instr made =>
      rw [body_insertBefore] at appended ⊢
      exact labelsAtEnd_insertBehind formed instr appended
    · simp at appended
  | overwrite opcode operand =>
    have same : (after (.overwrite opcode operand) cursor).body.ids = cursor.body.ids := by
      rw [after, perform, apply_overwrite]
      split
      · split
        · rfl
        · exact Body.ids_changeAt ..
      · rfl
    rw [same] at appended
    simp at appended
  | onBody op => exact op.labelsAtEnd_of_appended formed appended
  | _ => exact absurd appended (changed.not_appended formed)

theorem le_length_of_nearest? {direction : Direction} {accepts : Nat → Bool} {start : Nat}
    (inside : cursor.index ≤ cursor.body.length)
    (found : cursor.nearest? direction accepts = some start) : start ≤ cursor.body.length := by
  rw [nearest?_eq] at found
  have listed := (List.mem_filter.1 (List.mem_of_head? found)).1
  cases direction with
  | next =>
    have bound := (List.mem_range'_1.1 listed).2
    omega
  | previous =>
    have bound := List.mem_range.1 (List.mem_reverse.1 listed)
    omega

/-- A cursor lands inside the body, also behind the window that was found. -/
theorem inside_landed {direction : Direction} {window : Window} {start : Nat}
    (inside : cursor.index ≤ cursor.body.length)
    (found : cursor.nearest? direction (window.opensAt cursor.body) = some start)
    (landing : Landing) : (cursor.landed landing window start).index ≤ cursor.body.length := by
  have reached := le_length_of_nearest? inside found
  cases landing with
  | before => exact reached
  | behindLabels => exact reached
  | behind =>
    cases window with
    | nil => exact reached
    | cons matcher rest => exact Window.length_of_opensAt (opensAt_of_nearest? found) nofun

theorem le_length_of_labelIndex? {label : LabelId} {index : Nat}
    (found : cursor.labelIndex? label = some index) : index ≤ cursor.body.length := by
  unfold labelIndex? at found
  split at found
  · exact Nat.le_of_lt (Body.lt_of_idAt? (Body.idAt?_of_indexOf? found))
  · cases found
    exact Nat.le_refl _
  · cases found

/-- Whether an operation is one of the cursor itself, which includes writing in place the lines next
to it. -/
def Op.throughCursor : Op → Bool
  | .onBody (.write _ _) => true
  | .onBody _ => false
  | _ => true

/-- No operation of a cursor leaves the body. -/
theorem Op.inside_after (op : Op) (own : op.throughCursor = true)
    (inside : cursor.index ≤ cursor.body.length) :
    (op.after cursor).index ≤ (op.after cursor).body.length := by
  cases op with
  | moveTo index =>
    rw [after, perform, apply_moveTo]
    split
    · exact inside
    · next reached => exact Nat.le_of_not_lt reached
  | returnTo mark =>
    rw [after, perform, apply_returnTo]
    split
    · exact Nat.le_refl _
    · split
      · next found => exact Nat.le_of_lt (Body.lt_of_idAt? (Body.idAt?_of_indexOf? found))
      · exact inside
  | moveToLabel label =>
    rw [after, perform, apply_moveToLabel]
    split
    · next found => exact le_length_of_labelIndex? found
    · exact inside
  | seek direction window landing =>
    rw [after, perform, apply_seek]
    split
    · exact inside
    · next found => exact body_landed cursor .. ▸ inside_landed inside found landing
  | trySeek direction window landing =>
    rw [after, perform, Edit.apply_discard, apply_trySeek]
    split
    · exact inside
    · next found => exact body_landed cursor .. ▸ inside_landed inside found landing
  | goBehindLabels => exact inside
  | goBeforeLabels => exact inside
  | newLabel => exact inside
  | placeLabelHere label =>
    rw [after, perform, apply_placeLabelHere, apply_onBody, Body.length_placeLabel]
    exact inside
  | newLabelHere =>
    have same := Body.length_placeLabel cursor.body.withLabel ⟨cursor.body.labels.size⟩ cursor.index
    rw [after, perform, Edit.apply_discard, apply_newLabelHere]
    split <;> next reached =>
      rw [reached] at same
      exact Nat.le_trans inside (Nat.le_of_eq same.symm)
  | moveLabels source target =>
    rw [after, perform, Edit.apply_discard, Cursor.moveLabels, apply_onBody, Body.apply_moveLabels]
    split <;> exact inside
  | insertBehind instr =>
    rw [after, perform, Edit.apply_discard, apply_insertBehind, if_neg (Nat.not_lt.2 inside)]
    rw [length_bodyInserting instr inside]
    exact Nat.le_succ_of_le inside
  | insertBefore instr =>
    rw [after, perform, Edit.apply_discard]
    exact inside_insertBefore inside instr
  | emit opcode operand =>
    rw [after, perform, Edit.apply_discard, apply_emit]
    split
    · exact inside_insertBefore inside _
    · exact inside
  | overwrite opcode operand =>
    rw [after, perform, apply_overwrite]
    split
    · split
      · exact inside
      · rwa [Body.length_eq, Body.ids_changeAt, ← Body.length_eq]
    · exact inside
  | erase =>
    rw [after, perform, Edit.apply_discard, apply_erase, apply_onBody]
    exact Body.le_length_eraseIdx inside false cursor.method
  | eraseNext count =>
    rw [after, perform, apply_eraseNext]
    split
    · exact inside
    · split
      · exact inside
      · exact Body.le_length_erasedRange inside count
  | eraseReanchored =>
    rw [after, perform, Edit.apply_discard, apply_eraseReanchored, apply_onBody]
    exact Body.le_length_eraseIdx inside true cursor.method
  | onBody op =>
    cases op with
    | write index instr =>
      have same : (after (.onBody (.write index instr)) cursor).body.ids = cursor.body.ids :=
        Body.ids_changeAt ..
      rwa [Body.length_eq, same, ← Body.length_eq]
    | _ => cases own

/-- Cursors that can be made: opened on a reachable body, which puts them at its start, and used. -/
inductive Reachable : Cursor → Prop where
  | opened {body : Body} (reached : body.Reachable) (method : String) : Reachable { body, method }
  | used {cursor : Cursor} (reached : Reachable cursor) (op : Op) (own : op.throughCursor = true) :
      Reachable (op.after cursor)

theorem Reachable.body (reached : cursor.Reachable) : cursor.body.Reachable := by
  induction reached with
  | opened reached => exact reached
  | used _ op _ ih => exact ih.atCursor op

theorem Reachable.inside (reached : cursor.Reachable) : cursor.index ≤ cursor.body.length := by
  induction reached with
  | opened => exact Nat.zero_le _
  | used _ op own ih => exact op.inside_after own ih

theorem Reachable.after (reached : cursor.Reachable) {ops : List Op}
    (own : ∀ op ∈ ops, op.throughCursor = true) : (cursor.after ops).Reachable := by
  induction ops generalizing cursor with
  | nil => exact reached
  | cons op rest ih =>
    have first := reached.used op (own op List.mem_cons_self)
    exact ih first fun other listed => own other (List.mem_cons_of_mem op listed)

/-- Whatever has been done to a body, directly and at cursors, no identity occurs twice in it, all
were given out before, every label that stands at a line stands at one that is there, and exactly
these labels lead to a line. No cursor on it is behind its end. After a line was put at the end, by
whichever operation, no label stands there. -/
theorem Reachable.representation (reached : cursor.Reachable) :
    cursor.body.ids.Nodup ∧
    (∀ id ∈ cursor.body.ids, id.index < cursor.body.nextId) ∧
    (∀ label id, cursor.body.placeOf? label = some (.line id) → id ∈ cursor.body.ids) ∧
    (∀ label id, cursor.body.lineOf? label = some id ↔
      cursor.body.placeOf? label = some (.line id)) ∧
    (∀ op : Op, (op.after cursor).body.ids = cursor.body.ids ++ [⟨cursor.body.nextId⟩] →
      (op.after cursor).body.labelsAtEnd = []) ∧
    cursor.index ≤ cursor.body.length := by
  have formed := reached.body.wellFormed
  exact ⟨formed.distinct, formed.issued, formed.held, fun _ _ => formed.lineOf?_eq_some,
    fun op => op.labelsAtEnd_of_appended formed, reached.inside⟩

/-- A cursor behind the only label of an empty body, which has lost the line it stood at. -/
def behindLooseLabel : Cursor :=
  after { body := {}, method := "M" } [.newLabelHere, .emit .ret .none, .moveTo 0, .erase]

/-- Before the next line is put there, the label stands at the end, and afterwards it does not. -/
theorem representation_of_loose_label :
    behindLooseLabel.body.labelsAtEnd = [⟨0⟩] ∧
    ((Op.emit .nop .none).after behindLooseLabel).body.ids = [⟨1⟩] ∧
    ((Op.emit .nop .none).after behindLooseLabel).body.labelsAtEnd = [] := by
  have reached : behindLooseLabel.Reachable :=
    (Reachable.opened .empty "M").after (by decide)
  exact ⟨by decide +kernel, by decide +kernel,
    reached.representation.2.2.2.2.1 (.emit .nop .none) (by decide +kernel)⟩

end Cursor
end Retrofit

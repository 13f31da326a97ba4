import Retrofit.Proofs.Body.Blocks
import Retrofit.Proofs.Cursor.Between
import Retrofit.Proofs.Edit

/-!
Emitting instructions one after the other, and putting a new label behind them. What comes of it is one
stretch of new lines between two stretches of old ones. If something jumps to the label, the body
passes its check only if there is a line behind the new ones, and then no other label has moved.
-/

namespace Retrofit

/-- In a body that passes its check, a label that is jumped to stands at a line. -/
theorem Body.exists_line_of_check {body : Body} {method : String} {label : LabelId}
    (valid : body.check method = .ok ()) (jumped : label ∈ body.jumps) :
    ∃ id, body.placeOf? label = some (.line id) := by
  have settled := (check_eq_ok.1 valid).1
  rw [danglingLabel?_eq, List.find?_eq_none] at settled
  have found := settled label jumped
  rw [get?_targets, lineOf?] at found
  split at found
  · next id stands => exact ⟨id, stands⟩
  · exact absurd rfl found

theorem Body.placeOf?_of_push {body after : Body} {new place : LabelPlace} {label : LabelId}
    (labels : after.labels = body.labels.push new) (stands : body.placeOf? label = some place) :
    after.placeOf? label = some place := by
  have inside := (Array.getElem?_eq_some_iff.1 stands).1
  rw [placeOf?, labels, Array.getElem?_push, if_neg (Nat.ne_of_lt inside)]
  exact stands

theorem Rule.numbered_append (nextId : Nat) (instrs more : List Instr) :
    numbered nextId (instrs ++ more) =
      numbered nextId instrs ++ numbered (nextId + instrs.length) more := by
  simp [numbered, List.mapIdx_append, Nat.add_assoc, Nat.add_comm instrs.length]

namespace Body

/-- A body to which instructions have been added between two stretches of lines, with a new label
behind them. -/
structure Spliced (body : Body) (front : List Line) (instrs : List Instr) (back : List Line)
    (after : Body) : Prop where
  shaped : ∀ instr ∈ instrs, instr.wellShaped = true
  placed : after.placeOf? ⟨body.labels.size⟩ = some (.before (back.head?.map Line.id))
  lines : after.lines.toList = front ++ Rule.numbered body.nextId instrs ++ back
  same : back ≠ [] → after =
    { body with
      lines := after.lines
      nextId := body.nextId + instrs.length
      labels := body.labels.push (.before (back.head?.map Line.id)) }

/-- If something jumps to the new label of a body that passes its check, there is a line behind the
added ones, and the label stands there. -/
theorem Spliced.exists_next {body after : Body} {front back : List Line} {instrs : List Instr}
    {method : String} (spliced : body.Spliced front instrs back after)
    (valid : after.check method = .ok ()) (jumped : ⟨body.labels.size⟩ ∈ after.jumps) :
    ∃ next rest, back = next :: rest ∧ after =
      { body with
        lines := (front ++ Rule.numbered body.nextId instrs ++ next :: rest).toArray
        nextId := body.nextId + instrs.length
        labels := body.labels.push (.line next.id) } := by
  obtain ⟨id, stands⟩ := exists_line_of_check valid jumped
  have placed := spliced.placed.symm.trans stands
  cases back with
  | nil => cases placed
  | cons next rest =>
    have same := spliced.same (List.cons_ne_nil _ _)
    have lines : after.lines = (front ++ Rule.numbered body.nextId instrs ++ next :: rest).toArray :=
      Array.ext' spliced.lines
    rw [lines] at same
    exact ⟨next, rest, rfl, same⟩

end Body

namespace Cursor

/-- A cursor behind instructions that have been emitted one after the other between two stretches of
lines. Labels at the end may have moved to them if there was no line behind. -/
structure Emitted (body : Body) (method : String) (front back : List Line) (instrs : List Instr)
    (cursor : Cursor) : Prop where
  shaped : ∀ instr ∈ instrs, instr.wellShaped = true
  reached : ∃ labels : Array LabelPlace, labels.size = body.labels.size ∧
    (back ≠ [] → labels = body.labels) ∧
    cursor = between { body with nextId := body.nextId + instrs.length, labels } method
      (front ++ Rule.numbered body.nextId instrs) back

variable {body : Body} {method : String} {front back : List Line} {instrs : List Instr}

theorem Emitted.refl : Emitted body method front back [] (between body method front back) where
  shaped := List.forall_mem_nil _
  reached := ⟨body.labels, rfl, fun _ => rfl, by simp [Rule.numbered]⟩

theorem ensures_newLabel_emitted :
    Edit.Ensures (· = between body method front back) newLabel fun label cursor =>
      label = ⟨body.labels.size⟩ ∧ Emitted body.withLabel method front back [] cursor := by
  rintro _ rfl _ ⟨⟩
  exact ⟨rfl, .refl⟩

theorem ensures_emit_emitted (opcode : Opcode) (operand : Operand) :
    Edit.Ensures (Emitted body method front back instrs) (emit opcode operand)
      fun _ => Emitted body method front back (instrs ++ [⟨opcode, operand⟩]) := by
  refine .demand_bind fun instr made => ?_
  rintro _ ⟨shaped, labels, size, same, rfl⟩ _ -
  rw [Instr.of] at made
  split at made
  · next fits =>
    cases made
    have lines : front ++ Rule.numbered body.nextId (instrs ++ [⟨opcode, operand⟩]) =
        front ++ Rule.numbered body.nextId instrs ++
          [⟨⟨body.nextId + instrs.length⟩, ⟨opcode, operand⟩⟩] := by
      rw [Rule.numbered_append, ← List.append_assoc]
      rfl
    rw [apply_insertBefore_between]
    refine ⟨?_, if back.isEmpty then labels.map (·.settled ⟨body.nextId + instrs.length⟩) else labels,
      ?_, fun more => ?_, ?_⟩
    · intro instr listed
      rcases List.mem_append.1 listed with earlier | last
      · exact shaped instr earlier
      · rwa [List.mem_singleton.1 last]
    · split
      · rw [Array.size_map, size]
      · exact size
    · rw [if_neg (by simpa using more), same more]
    · rw [lines, List.length_append]
      rfl
  · cases made

theorem ensures_forM_emitted {items : List ι} {each : ι → Edit Cursor PUnit} (made : ι → Instr)
    (step : ∀ item ∈ items, ∀ instrs, Edit.Ensures (Emitted body method front back instrs) (each item)
      fun _ => Emitted body method front back (instrs ++ [made item])) :
    Edit.Ensures (Emitted body method front back instrs) (items.forM each)
      fun _ => Emitted body method front back (instrs ++ items.map made) := by
  induction items generalizing instrs with
  | nil => exact .pure fun _ emitted => by rwa [List.map_nil, List.append_nil]
  | cons item rest ih =>
    have later := @ih (instrs ++ [made item]) fun other listed =>
      step other (List.mem_cons_of_mem _ listed)
    rw [List.append_assoc] at later
    exact .bind (step item List.mem_cons_self instrs) fun _ => later

/-- Placing a new label completes what has been emitted. -/
theorem ensures_placeLabelHere_emitted :
    Edit.Ensures (Emitted body.withLabel method front back instrs) (placeLabelHere ⟨body.labels.size⟩)
      fun _ cursor => body.Spliced front instrs back cursor.body := by
  rintro _ ⟨shaped, labels, size, same, rfl⟩ _ -
  let cursor := between { body with nextId := body.nextId + instrs.length, labels } method
    (front ++ Rule.numbered body.nextId instrs) back
  have known : body.labels.size < cursor.body.labels.size := by
    show body.labels.size < labels.size
    rw [size, Body.withLabel, Array.size_push]
    exact Nat.lt_succ_self _
  have inside : ¬ cursor.body.length < cursor.index := by
    rw [length_between]
    exact Nat.not_lt.2 (Nat.le_add_right ..)
  have here : cursor.body.idAt? cursor.index = back.head?.map Line.id := by
    rw [List.head?_eq_getElem?]
    exact idAt?_between _ method (front ++ Rule.numbered body.nextId instrs) back 0
  show body.Spliced front instrs back ((placeLabelHere ⟨body.labels.size⟩).apply cursor).2.body
  rw [apply_placeLabelHere, apply_onBody, Body.apply_placeLabel, if_neg inside, Body.apply_setPlace,
    if_neg (Nat.not_le.2 known), here]
  refine ⟨shaped, ?_, rfl, fun more => ?_⟩
  · rw [Body.placeOf?_placed, if_pos rfl, Body.placeOf?, Array.getElem?_eq_getElem known]
    rfl
  · have settled : labels.setIfInBounds body.labels.size (.before (back.head?.map Line.id)) =
        body.labels.push (.before (back.head?.map Line.id)) := by
      rw [same more, Body.withLabel, setIfInBounds_push]
    exact congrArg (fun labels => { cursor.body with labels }) settled

end Cursor
end Retrofit

import Retrofit.Proofs.Body.InPlace

/-!
A cursor as the two stretches of lines around it. Moving shifts lines from one stretch to the other,
writing puts new ones behind the first, and a search splits the second where its window opens.
-/

namespace Retrofit

private theorem insertIdx_length_append (front back : List α) (item : α) :
    (front ++ back).insertIdx front.length item = front ++ item :: back := by
  induction front with
  | nil => rfl
  | cons first front ih => exact congrArg (first :: ·) ih

private theorem modify_length_append (front back : List α) (item : α) (change : α → α) :
    (front ++ item :: back).modify front.length change = front ++ change item :: back := by
  induction front with
  | nil => rfl
  | cons first front ih => exact congrArg (first :: ·) ih

theorem setIfInBounds_push (items : Array α) (item other : α) :
    (items.push item).setIfInBounds items.size other = items.push other := by
  rcases items with ⟨items⟩
  simp

/-- A new line between two stretches. Labels at the end go to it if there is no line behind. -/
theorem Body.inserted_between {body : Body} {front back : List Line} (instr : Instr)
    (lines : body.lines.toList = front ++ back) :
    body.inserted front.length instr =
      { body with
        lines := (front ++ ⟨⟨body.nextId⟩, instr⟩ :: back).toArray
        nextId := body.nextId + 1
        labels :=
          if back.isEmpty then body.labels.map (·.settled ⟨body.nextId⟩) else body.labels } := by
  have atEnd : front.length = body.length ↔ back.isEmpty = true := by
    rw [length, ← Array.length_toList, lines, List.length_append, List.isEmpty_iff_length_eq_zero]
    omega
  refine eq_of_lines ?_ ?_
  · rw [lines_inserted, lines, insertIdx_length_append]
  · simp [inserted, atEnd]

/-- A new label can be placed wherever a line can be put in. -/
theorem Body.apply_placeLabel_withLabel {body : Body} {index : Nat} (inside : index ≤ body.length) :
    (placeLabel ⟨body.labels.size⟩ index).apply body.withLabel =
      (.ok (), { body with labels := body.labels.push (.before (body.idAt? index)) }) := by
  have within : ¬ body.withLabel.length < index := Nat.not_lt.2 inside
  have known : ¬ body.withLabel.labels.size ≤ body.labels.size := by simp [withLabel]
  rw [apply_placeLabel, if_neg within, apply_setPlace, if_neg known]
  rw [placed, withLabel, setIfInBounds_push]
  rfl

namespace Rule

/-- Instructions as new lines, numbered from an identity on. -/
def numbered (nextId : Nat) (instrs : List Instr) : List Line :=
  instrs.mapIdx fun place instr => ⟨⟨nextId + place⟩, instr⟩

theorem le_of_mem_numbered {nextId : Nat} {instrs : List Instr} {line : Line}
    (listed : line ∈ numbered nextId instrs) : nextId ≤ line.id.index := by
  obtain ⟨place, inside, rfl⟩ := List.mem_mapIdx.1 listed
  exact Nat.le_add_right nextId place

@[simp] theorem map_instr_numbered (nextId : Nat) (instrs : List Instr) :
    (numbered nextId instrs).map Line.instr = instrs := by
  apply List.ext_getElem?
  intro place
  rw [numbered, List.getElem?_map, List.getElem?_mapIdx, Option.map_map]
  exact Option.map_id' ..

end Rule

namespace Cursor

/-- The cursor between two stretches of lines, which are all that its body has. -/
def between (body : Body) (method : String) (front back : List Line) : Cursor where
  body := { body with lines := (front ++ back).toArray }
  method
  index := front.length

variable {body : Body} {method : String} {front back : List Line}

theorem lines_between (body : Body) (method : String) (front back : List Line) :
    (between body method front back).body.lines.toList = front ++ back := rfl

theorem eq_between (body : Body) (method : String) :
    ({ body, method } : Cursor) = between body method [] body.lines.toList := rfl

theorem length_between :
    (between body method front back).body.length = front.length + back.length := by
  simp [between, Body.length]

theorem getElem?_between (body : Body) (method : String) (front back : List Line) (place : Nat) :
    (between body method front back).body.lines[front.length + place]? = back[place]? := by
  rw [← Array.getElem?_toList, lines_between, List.getElem?_append_right (Nat.le_add_right ..),
    Nat.add_sub_cancel_left]

theorem idAt?_between (body : Body) (method : String) (front back : List Line) (place : Nat) :
    (between body method front back).body.idAt? (front.length + place) =
      back[place]?.map Line.id := by
  rw [Body.idAt?, getElem?_between]

theorem instrAt?_between (body : Body) (method : String) (front back : List Line) (place : Nat) :
    (between body method front back).body.instrAt? (front.length + place) =
      back[place]?.map Line.instr := by
  rw [Body.instrAt?, getElem?_between]

theorem placed_between (body : Body) (method : String) (front skipped rest : List Line) :
    (between body method front (skipped ++ rest)).placed (front ++ skipped).length =
      between body method (front ++ skipped) rest := by
  simp [between, placed]

theorem landed_behind_between (body : Body) (method : String) (front skipped code rest : List Line)
    {window : Window} (wide : window.length = code.length) :
    (between body method front (skipped ++ (code ++ rest))).landed .behind window
      (front ++ skipped).length = between body method (front ++ skipped ++ code) rest := by
  simp [landed, between, placed, wide, Nat.add_assoc]

theorem apply_moveTo_between {cursor : Cursor} {index : Nat}
    (lines : cursor.body.lines.toList = front ++ back) (here : index = front.length) :
    (moveTo index).apply cursor = (.ok (), between cursor.body cursor.method front back) := by
  subst here
  have length : cursor.body.length = front.length + back.length := by
    rw [Body.length, ← Array.length_toList, lines, List.length_append]
  rw [apply_moveTo, if_neg (by omega), between, ← lines]
  rfl

theorem apply_insertBefore_between (body : Body) (method : String) (front back : List Line)
    (instr : Instr) :
    (insertBefore instr).apply (between body method front back) =
      (.ok ⟨body.nextId⟩, between
        { body with
          nextId := body.nextId + 1
          labels := if back.isEmpty then body.labels.map (·.settled ⟨body.nextId⟩) else body.labels }
        method (front ++ [⟨⟨body.nextId⟩, instr⟩]) back) := by
  have inside : ¬ (between body method front back).body.length <
      (between body method front back).index := by
    rw [length_between]
    exact Nat.not_lt.2 (Nat.le_add_right ..)
  rw [apply_insertBefore, if_neg inside]
  refine Prod.ext rfl ?_
  show Cursor.mk ((between body method front back).body.inserted front.length _) _ _ _ = _
  rw [Body.inserted_between _ (lines_between ..)]
  simp [between]

/-- A new line in front of another one leaves labels where they are. -/
theorem apply_emit_between {opcode : Opcode} {operand : Operand} {line : Line}
    (fits : operand.fits opcode.operandShape = true) :
    (emit opcode operand).apply (between body method front (line :: back)) =
      (.ok ⟨body.nextId⟩, between { body with nextId := body.nextId + 1 } method
        (front ++ [⟨⟨body.nextId⟩, ⟨opcode, operand⟩⟩]) (line :: back)) := by
  have made : Instr.of opcode operand = .ok ⟨opcode, operand⟩ := if_pos fits
  rw [apply_emit, made]
  exact apply_insertBefore_between ..

/-- Overwriting changes the first line of the second stretch. -/
theorem apply_overwrite_between {opcode : Opcode} {operand : Operand} {line : Line}
    (fits : operand.fits opcode.operandShape = true) :
    (overwrite opcode operand).apply (between body method front (line :: back)) =
      (.ok (), between body method front (⟨line.id, ⟨opcode, operand⟩⟩ :: back)) := by
  have made : Instr.of opcode operand = .ok ⟨opcode, operand⟩ := if_pos fits
  have inside : ¬ (between body method front (line :: back)).body.length ≤
      (between body method front (line :: back)).index := by
    rw [length_between, List.length_cons]
    exact Nat.not_le.2 (Nat.lt_add_of_pos_right (Nat.succ_pos _))
  rw [apply_overwrite, made]
  dsimp only
  rw [if_neg inside]
  have changed : (between body method front (line :: back)).body.changeAt front.length
      (fun _ => ⟨opcode, operand⟩) =
        (between body method front (⟨line.id, ⟨opcode, operand⟩⟩ :: back)).body := by
    refine Body.eq_of_lines ?_ rfl
    rw [Body.changeAt, Array.toList_modify, lines_between, modify_length_append, lines_between]
  exact Prod.ext rfl (congrArg (Cursor.mk · method front.length false) changed)

/-- Erasing takes out the first line of the second stretch, unless a region is bounded there. Its
labels go to the next line. -/
theorem apply_erase_between {line : Line} :
    erase.apply (between body method front (line :: back)) =
      match body.tie? line.id with
      | some obstacle =>
        (.error (.invalidRemoval method front.length obstacle),
          between body method front (line :: back))
      | none =>
        (.ok line.instr,
          between { body with labels := body.labels.map (·.moved line.id (back.head?.map Line.id)) }
            method front back) := by
  let cursor := between body method front (line :: back)
  have here : cursor.body.lines[cursor.index]? = some line := by
    simp [cursor, between]
  have behind : cursor.body.idAt? (cursor.index + 1) = back.head?.map Line.id := by
    rw [List.head?_eq_getElem?]
    exact idAt?_between body method front (line :: back) 1
  have obstacle : cursor.body.obstacle? cursor.index false line.id = body.tie? line.id := rfl
  rw [apply_erase, apply_onBody, Body.apply_eraseIdx, here]
  dsimp only
  rw [obstacle]
  cases tied : body.tie? line.id with
  | some obstacle => rfl
  | none =>
    have erased : cursor.body.erased cursor.index =
        (between { body with labels := body.labels.map (·.moved line.id (back.head?.map Line.id)) }
          method front back).body := by
      refine Body.eq_of_lines ?_ ?_
      · have index : cursor.index = front.length := rfl
        rw [Body.lines_erased, lines_between, lines_between, index,
          List.eraseIdx_append_of_length_le (Nat.le_refl _), Nat.sub_self]
        rfl
      · have free := Body.regions_moved_of_tie? tied (back.head?.map Line.id)
        rw [Body.erased_eq (Body.idAt?_of_line here), behind]
        simp [cursor, between, free]
    exact Prod.ext rfl (congrArg (Cursor.mk · method front.length false) erased)

theorem opensAt_between (window : Window) (place : Nat) :
    window.opensAt (between body method front back).body (front.length + place) =
      window.opens ((back.drop place).map Line.instr) := by
  rw [Window.opensAt_eq, Body.instrs, lines_between, ← List.map_drop,
    List.drop_length_add_append]

/-- A search forward stops at the first place behind the cursor where the window opens. -/
theorem split_of_nearest? {window : Window} {start : Nat} (nonempty : window ≠ [])
    (found : (between body method front back).nearest? .next
      (window.opensAt (between body method front back).body) = some start) :
    ∃ skipped rest, back = skipped ++ rest ∧ start = (front ++ skipped).length ∧
      window.opens (rest.map Line.instr) = true ∧
      ∀ place < skipped.length, window.opens ((back.drop place).map Line.instr) = false := by
  obtain ⟨place, rfl⟩ := Nat.exists_eq_add_of_le (show front.length ≤ start from
    le_of_nearest? found)
  have opens := opensAt_of_nearest? found
  have inside := Window.length_of_opensAt opens nonempty
  rw [opensAt_between] at opens
  rw [length_between] at inside
  refine ⟨back.take place, back.drop place, (List.take_append_drop ..).symm, ?_, opens, ?_⟩
  · rw [List.length_append, List.length_take, Nat.min_eq_left (by omega)]
  · intro earlier before
    rw [List.length_take] at before
    rw [← opensAt_between]
    exact not_accepted_of_nearest? found (Nat.le_add_right ..) (by omega)

/-- Where a search forward finds nothing, the window opens nowhere behind the cursor. -/
theorem closed_of_nearest?_none {window : Window} (nonempty : window ≠ [])
    (absent : (between body method front back).nearest? .next
      (window.opensAt (between body method front back).body) = none) (place : Nat) :
    window.opens ((back.drop place).map Line.instr) = false := by
  by_cases inside : place ≤ back.length
  · rw [← opensAt_between]
    exact not_accepted_of_nearest?_none absent (Nat.le_add_right ..) (by rw [length_between]; omega)
  · rw [List.drop_of_length_le (Nat.le_of_not_le inside)]
    cases window with
    | nil => exact absurd rfl nonempty
    | cons => rfl

/-- A search forward finds nothing, or lands at the first place where the window opens. -/
theorem apply_trySeek_between {window : Window} (nonempty : window ≠ []) (landing : Landing)
    (body : Body) (method : String) (front back : List Line) :
    ((trySeek .next window landing).apply (between body method front back) =
        (.ok false, between body method front back) ∧
      ∀ place, window.opens ((back.drop place).map Line.instr) = false) ∨
    ∃ skipped rest, back = skipped ++ rest ∧ window.opens (rest.map Line.instr) = true ∧
      (∀ place < skipped.length, window.opens ((back.drop place).map Line.instr) = false) ∧
      (trySeek .next window landing).apply (between body method front back) =
        (.ok true, (between body method front back).landed landing window
          (front ++ skipped).length) := by
  rw [apply_trySeek]
  cases found : (between body method front back).nearest? .next
      (window.opensAt (between body method front back).body) with
  | none => exact .inl ⟨rfl, closed_of_nearest?_none nonempty found⟩
  | some start =>
    obtain ⟨skipped, rest, lines, rfl, opens, closed⟩ := split_of_nearest? nonempty found
    exact .inr ⟨skipped, rest, lines, opens, closed, rfl⟩

end Cursor
end Retrofit

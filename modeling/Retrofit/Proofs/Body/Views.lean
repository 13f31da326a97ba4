import Retrofit.Body.Finish
import Retrofit.Proofs.Modification

/-!
What every change of a body does to what can be seen of it: the lines by index and by identity, the
places of the labels, and the regions.
-/

namespace Retrofit

namespace LabelPlace

@[simp] theorem moved_line (source id : InstrId) (target : Option InstrId) :
    (line id).moved source target = if id = source then before target else line id := by
  simp [moved, movedOff]

@[simp] theorem moved_atEnd (source : InstrId) (target : Option InstrId) :
    atEnd.moved source target = atEnd := rfl

@[simp] theorem moved_unplaced (source : InstrId) (target : Option InstrId) :
    unplaced.moved source target = unplaced := rfl

/-- A label that stands somewhere keeps standing somewhere when lines go away. -/
theorem movedOff_eq_unplaced {leaving : InstrId → Bool} {target : Option InstrId}
    {place : LabelPlace} : place.movedOff leaving target = .unplaced ↔ place = .unplaced := by
  cases place with
  | line id => cases target <;> cases gone : leaving id <;> simp [movedOff, before, gone]
  | _ => simp [movedOff]

end LabelPlace

namespace Body

variable {body : Body} {index : Nat} {id : InstrId} {line : Line}

theorem length_eq (body : Body) : body.length = body.ids.length := by
  simp [length, ids]

theorem length_eq_instrs (body : Body) : body.length = body.instrs.length := by
  simp [length, instrs]

theorem idAt?_of_line (found : body.lines[index]? = some line) :
    body.idAt? index = some line.id := by
  simp [idAt?, found]

theorem idAt?_eq_none : body.idAt? index = none ↔ body.length ≤ index := by
  simp [idAt?, length]

theorem lt_of_idAt? (found : body.idAt? index = some id) : index < body.length := by
  rw [idAt?_eq] at found
  rw [length_eq]
  exact (List.getElem?_eq_some_iff.1 found).1

theorem mem_ids_of_idAt? (found : body.idAt? index = some id) : id ∈ body.ids := by
  rw [idAt?_eq] at found
  exact List.mem_of_getElem? found

theorem exists_indexOf? (live : id ∈ body.ids) : ∃ index, body.indexOf? id = some index := by
  rw [← Option.isSome_iff_exists, indexOf?_isSome]
  exact contains_iff.2 live

theorem idAt?_of_indexOf? (found : body.indexOf? id = some index) :
    body.idAt? index = some id := by
  rw [indexOf?_eq, List.findIdx?_eq_some_iff_getElem] at found
  obtain ⟨inside, same, _⟩ := found
  rw [idAt?_eq, List.getElem?_eq_getElem inside]
  simpa using same

theorem mem_ids_of_indexOf? (found : body.indexOf? id = some index) : id ∈ body.ids :=
  mem_ids_of_idAt? (idAt?_of_indexOf? found)

/-- Where no identity occurs twice, a line is found at its own index. -/
theorem indexOf?_of_idAt? (distinct : body.ids.Nodup) (found : body.idAt? index = some id) :
    body.indexOf? id = some index := by
  obtain ⟨other, listed⟩ := exists_indexOf? (mem_ids_of_idAt? found)
  have again := idAt?_of_indexOf? listed
  have inside := lt_of_idAt? found
  rw [length_eq] at inside
  rw [idAt?_eq] at found again
  have same : index = other := (List.getElem?_inj inside distinct).1 (found.trans again.symm)
  rw [listed, same]

@[simp] theorem ids_withLabel (body : Body) : body.withLabel.ids = body.ids := rfl

@[simp] theorem ids_placed (body : Body) (label : LabelId) (place : LabelPlace) :
    (body.placed label place).ids = body.ids := rfl

@[simp] theorem ids_labelsMoved (body : Body) (source target : InstrId) :
    (body.labelsMoved source target).ids = body.ids := rfl

@[simp] theorem nextId_inserted (body : Body) (index : Nat) (instr : Instr) :
    (body.inserted index instr).nextId = body.nextId + 1 := rfl

@[simp] theorem nextId_changeAt (body : Body) (index : Nat) (change : Instr → Instr) :
    (body.changeAt index change).nextId = body.nextId := rfl

@[simp] theorem nextId_widenedAt (body : Body) (chosen : Line × Nat → Bool) :
    (body.widenedAt chosen).nextId = body.nextId := rfl

@[simp] theorem nextId_erased (body : Body) (index : Nat) :
    (body.erased index).nextId = body.nextId := by
  unfold erased
  split <;> rfl

@[simp] theorem nextId_withLabel (body : Body) : body.withLabel.nextId = body.nextId := rfl

@[simp] theorem nextId_placed (body : Body) (label : LabelId) (place : LabelPlace) :
    (body.placed label place).nextId = body.nextId := rfl

@[simp] theorem nextId_labelsMoved (body : Body) (source target : InstrId) :
    (body.labelsMoved source target).nextId = body.nextId := rfl

@[simp] theorem idAt?_changeAt (body : Body) (index place : Nat) (change : Instr → Instr) :
    (body.changeAt index change).idAt? place = body.idAt? place := by
  rw [idAt?_eq, idAt?_eq, ids_changeAt]

@[simp] theorem instrs_changeAt (body : Body) (index : Nat) (change : Instr → Instr) :
    (body.changeAt index change).instrs = body.instrs.modify index change := by
  rw [instrs, changeAt, Array.toList_modify]
  exact map_modify _ _ fun _ _ => rfl

private theorem find?_insertion {condition : α → Bool} {item : α} (other : condition item = false)
    (items : List α) (index : Nat) : (items.insertIdx index item).find? condition =
      items.find? condition := by
  induction items generalizing index with
  | nil => cases index <;> simp [other]
  | cons first rest ih =>
    cases index with
    | zero => simp [other]
    | succ index => rw [List.insertIdx_succ_cons, List.find?_cons, List.find?_cons, ih]

theorem get?_inserted (body : Body) (index : Nat) (instr : Instr) (apart : id ≠ ⟨body.nextId⟩) :
    (body.inserted index instr).get? id = body.get? id := by
  rw [get?, get?, ← Array.find?_toList, ← Array.find?_toList, lines_inserted]
  refine congrArg _ (find?_insertion ?_ body.lines.toList index)
  exact decide_eq_false apart.symm

theorem get?_changeAt (change : Instr → Instr) (apart : body.idAt? index ≠ some id) :
    (body.changeAt index change).get? id = body.get? id := by
  have others (line : Line) (here : body.lines.toList[index]? = some line) : line.id ≠ id := by
    rintro rfl
    rw [Array.getElem?_toList] at here
    exact apart (idAt?_of_line here)
  rw [get?, get?, ← Array.find?_toList, ← Array.find?_toList, changeAt, Array.toList_modify]
  refine congrArg _ (find?_modify _ _ fun line here => ?_)
  simp [others line here]

theorem operands_widenedAt (body : Body) (chosen : Line × Nat → Bool) :
    (body.widenedAt chosen).instrs.map Instr.operand = body.instrs.map Instr.operand := by
  have kept : (Instr.operand ∘ Line.instr ∘ fun entry : Line × Nat =>
      if chosen entry then entry.1.widened else entry.1) =
        Instr.operand ∘ Line.instr ∘ Prod.fst := by
    funext entry
    simp only [Function.comp_apply]
    split <;> rfl
  have listed := map_fst_layoutFrom 0 body.lines.toList
  rw [← toList_layout] at listed
  simp only [instrs, widenedAt, Array.toList_map, List.map_map, kept, ← listed]

/-- The labels that are jumped to, in reading order. -/
def jumps (body : Body) : List LabelId := body.instrs.flatMap fun instr => instr.operand.labels

theorem mem_jumps {label : LabelId} :
    label ∈ body.jumps ↔ ∃ instr ∈ body.instrs, label ∈ instr.operand.labels :=
  List.mem_flatMap

theorem danglingLabel?_eq (body : Body) :
    body.danglingLabel? = body.jumps.find? fun label => (body.targets.get? label).isNone := by
  simp [danglingLabel?, jumps, instrs, List.find?_flatMap, List.findSome?_map,
    ← Array.findSome?_toList, Function.comp_def]

/-- A line put at the end takes the labels that stand there. -/
@[simp] theorem placeOf?_inserted (body : Body) (index : Nat) (instr : Instr) (label : LabelId) :
    (body.inserted index instr).placeOf? label =
      (body.placeOf? label).map fun place =>
        if index = body.length then place.settled ⟨body.nextId⟩ else place := by
  by_cases atEnd : index = body.length <;> simp [inserted, placeOf?, atEnd]

@[simp] theorem placeOf?_changeAt (body : Body) (index : Nat) (change : Instr → Instr)
    (label : LabelId) : (body.changeAt index change).placeOf? label = body.placeOf? label := rfl

@[simp] theorem placeOf?_widenedAt (body : Body) (chosen : Line × Nat → Bool) (label : LabelId) :
    (body.widenedAt chosen).placeOf? label = body.placeOf? label := rfl

/-- The labels at an erased line go to the next one. -/
theorem placeOf?_erased (found : body.idAt? index = some id) (label : LabelId) :
    (body.erased index).placeOf? label =
      (body.placeOf? label).map (·.moved id (body.idAt? (index + 1))) := by
  simp [erased_eq found, placeOf?]

/-- A label is put at the place, if the body defines it. -/
theorem placeOf?_placed (body : Body) (named : LabelId) (place : LabelPlace) (label : LabelId) :
    (body.placed named place).placeOf? label =
      if label = named then (body.placeOf? label).map fun _ => place else body.placeOf? label := by
  rw [placeOf?, placed, placeOf?, Array.getElem?_setIfInBounds]
  by_cases same : label = named
  · subst same
    by_cases known : label.index < body.labels.size <;> simp [known]
  · have apart : named.index ≠ label.index := fun equal => same (congrArg LabelId.mk equal.symm)
    simp [same, apart]

@[simp] theorem placeOf?_labelsMoved (body : Body) (source target : InstrId) (label : LabelId) :
    (body.labelsMoved source target).placeOf? label =
      (body.placeOf? label).map (·.moved source (some target)) := by
  simp [labelsMoved, placeOf?]

theorem placeOf?_withLabel (body : Body) (label : LabelId) :
    body.withLabel.placeOf? label =
      if label.index = body.labels.size then some .unplaced else body.placeOf? label := by
  simp [withLabel, placeOf?, Array.getElem?_push]

end Body
end Retrofit

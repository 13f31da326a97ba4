import Mathlib.Data.List.InsertIdx
import Retrofit.Proofs.Body.Encodable

/-!
Bodies up to the width of their branches: a body with every short branch in its long form. Edits of
lines, labels and regions do the same to it, and choosing forms comes to nothing.
-/

namespace Retrofit

theorem Operand.fits_lengthened (operand : Operand) (opcode : Opcode) :
    operand.fits opcode.lengthened.operandShape = operand.fits opcode.operandShape := by
  cases short : opcode.isShortJump with
  | false => rw [Opcode.lengthened_of_not_short short]
  | true =>
    have long : opcode.lengthened.operandShape = .branch := by
      revert short
      cases opcode <;> decide
    have shape : opcode.operandShape = .shortBranch := by simpa [Opcode.isShortJump] using short
    rw [long, shape]
    cases operand <;> rfl

theorem Instr.exists_of_lengthened {opcode other : Opcode}
    (same : opcode.lengthened = other.lengthened) {operand : Operand} {instr : Instr}
    (made : Instr.of opcode operand = .ok instr) :
    ∃ twin, Instr.of other operand = .ok twin ∧ twin.widened = instr.widened := by
  obtain ⟨rfl, fits⟩ := Instr.of_eq_ok_iff.1 made
  refine ⟨⟨other, operand⟩, Instr.of_eq_ok_iff.2 ⟨rfl, ?_⟩, congrArg (Instr.mk · operand) same.symm⟩
  rw [Instr.wellShaped] at fits ⊢
  rw [← Operand.fits_lengthened, ← same, Operand.fits_lengthened, fits]

@[simp] theorem Instr.widened_widened (instr : Instr) : instr.widened.widened = instr.widened :=
  congrArg (Instr.mk · instr.operand) (Opcode.lengthened_lengthened instr.opcode)

theorem Instr.widened_of_not_short {instr : Instr} (long : instr.opcode.isShortJump = false) :
    instr.widened = instr :=
  congrArg (Instr.mk · instr.operand) (Opcode.lengthened_of_not_short long)

theorem Instr.widened_mem_iff (opcodes : List Opcode)
    (plain : ∀ opcode ∈ opcodes, opcode.lengthened = opcode ∧ opcode.shortened = opcode)
    (instr : Instr) : instr.widened.opcode ∈ opcodes ↔ instr.opcode ∈ opcodes := by
  constructor
  · intro listed
    obtain ⟨long, short⟩ := plain _ listed
    have same : instr.opcode.lengthened = instr.widened.opcode.lengthened := long.symm
    rcases Opcode.lengthened_eq_iff.1 same with same | same
    · rwa [same, short]
    · rwa [same, long]
  · intro listed
    rwa [Instr.widened, (plain _ listed).1]

@[simp] theorem Line.widened_widened (line : Line) : line.widened.widened = line.widened :=
  congrArg (Line.mk line.id) (Instr.widened_widened line.instr)

namespace Body

variable {body after : Body}

/-- The body with every short branch in its long form. -/
def lengthened (body : Body) : Body := { body with lines := body.lines.map Line.widened }

theorem eq_of_lines (lines : after.lines.toList = body.lines.toList)
    (rest : { after with lines := body.lines } = body) : after = body := by
  obtain ⟨⟨lines⟩⟩ := after
  obtain ⟨⟨lines⟩⟩ := body
  simp_all

theorem lines_lengthened (body : Body) :
    body.lengthened.lines.toList = body.lines.toList.map Line.widened :=
  Array.toList_map

@[simp] theorem lengthened_lengthened (body : Body) :
    body.lengthened.lengthened = body.lengthened := by
  refine eq_of_lines ?_ rfl
  rw [lines_lengthened, lines_lengthened, List.map_map]
  exact List.map_congr_left fun line _ => Line.widened_widened line

@[simp] theorem length_lengthened (body : Body) : body.lengthened.length = body.length :=
  Array.size_map

@[simp] theorem ids_lengthened (body : Body) : body.lengthened.ids = body.ids := by
  rw [ids, lines_lengthened, List.map_map]
  rfl

theorem instrs_lengthened (body : Body) :
    body.lengthened.instrs = body.instrs.map Instr.widened := by
  rw [instrs, lines_lengthened, List.map_map, instrs, List.map_map]
  rfl

@[simp] theorem idAt?_lengthened (body : Body) (index : Nat) :
    body.lengthened.idAt? index = body.idAt? index := by
  rw [idAt?_eq, ids_lengthened, idAt?_eq]

theorem instrAt?_lengthened (body : Body) (index : Nat) :
    body.lengthened.instrAt? index = (body.instrAt? index).map Instr.widened := by
  rw [instrAt?_eq, instrs_lengthened, List.getElem?_map, instrAt?_eq]

theorem AllLong.lengthened_eq (long : body.AllLong) : body.lengthened = body := by
  refine eq_of_lines ?_ rfl
  rw [lines_lengthened]
  refine (List.map_congr_left fun line listed => ?_).trans (List.map_id _)
  have same := Instr.widened_of_not_short (long _ (List.mem_map_of_mem listed))
  exact congrArg (Line.mk line.id) same

theorem allLong_lengthened (body : Body) : body.lengthened.AllLong := by
  intro instr listed
  rw [instrs_lengthened] at listed
  obtain ⟨old, _, rfl⟩ := List.mem_map.1 listed
  exact Opcode.lengthened_not_short old.opcode

theorem lengthened_inserted (body : Body) (index : Nat) (instr : Instr) :
    (body.inserted index instr).lengthened = body.lengthened.inserted index instr.widened := by
  refine eq_of_lines ?_ ?_
  · rw [lines_lengthened, lines_inserted, lines_inserted, lines_lengthened]
    exact List.map_insertIdx ..
  · rw [inserted, length_lengthened]
    rfl

theorem lengthened_changeAt (body : Body) (index : Nat) {change other : Instr → Instr}
    (same : ∀ instr, (change instr).widened = other instr.widened) :
    (body.changeAt index change).lengthened = body.lengthened.changeAt index other := by
  refine eq_of_lines ?_ rfl
  rw [lines_lengthened, changeAt, changeAt, Array.toList_modify, Array.toList_modify,
    lines_lengthened]
  exact map_modify _ _ fun line _ => congrArg (Line.mk line.id) (same line.instr)

theorem lengthened_overwritten (body : Body) (index : Nat) (instr : Instr) :
    (body.changeAt index fun _ => instr).lengthened =
      body.lengthened.changeAt index fun _ => instr.widened :=
  lengthened_changeAt body index fun _ => rfl

theorem lengthened_erased (body : Body) (index : Nat) :
    (body.erased index).lengthened = body.lengthened.erased index := by
  refine eq_of_lines ?_ ?_
  · rw [lines_lengthened, lines_erased, lines_erased, lines_lengthened]
    exact (List.eraseIdx_map ..).symm
  · simp only [erased, idAt?_lengthened]
    cases body.idAt? index <;> rfl

theorem apply_placeLabel_lengthened (body : Body) (label : LabelId) (index : Nat) :
    (placeLabel label index).apply body.lengthened =
      (((placeLabel label index).apply body).1,
        ((placeLabel label index).apply body).2.lengthened) := by
  have labels : body.lengthened.labels.size = body.labels.size := rfl
  rw [apply_placeLabel, apply_placeLabel, length_lengthened, idAt?_lengthened]
  split
  · rfl
  · rw [apply_setPlace, apply_setPlace, labels]
    split <;> rfl

theorem apply_eraseIdx_lengthened (body : Body) (index : Nat) (moveBounds : Bool)
    (method : String) :
    (eraseIdx index moveBounds method).apply body.lengthened =
      (((eraseIdx index moveBounds method).apply body).1.map Instr.widened,
        ((eraseIdx index moveBounds method).apply body).2.lengthened) := by
  have lines : body.lengthened.lines[index]? = body.lines[index]?.map Line.widened :=
    Array.getElem?_map
  rw [apply_eraseIdx, apply_eraseIdx, lines, length_lengthened]
  cases body.lines[index]? with
  | none => rfl
  | some line =>
    have obstacle : body.lengthened.obstacle? index moveBounds line.id =
        body.obstacle? index moveBounds line.id := by
      simp only [obstacle?, idAt?_lengthened]
      rfl
    dsimp only [Option.map_some, Line.widened]
    rw [obstacle, ← lengthened_erased]
    cases body.obstacle? index moveBounds line.id <;> rfl

private theorem map_layout (body : Body) {f : Line × Nat → Line} {g : Line → Line}
    (same : ∀ entry, f entry = g entry.1) :
    (body.layout.map f).toList = body.lines.toList.map g := by
  have first : f = g ∘ Prod.fst := funext same
  rw [Array.toList_map, toList_layout, first, ← List.map_map, map_fst_layoutFrom]

theorem widenedAt_holdsShortBranch (body : Body) :
    body.widenedAt holdsShortBranch = body.lengthened := by
  refine eq_of_lines ?_ rfl
  rw [lines_lengthened]
  refine map_layout body fun entry => ?_
  rw [holdsShortBranch]
  split
  · rfl
  · next long =>
    have same := Instr.widened_of_not_short (by simpa using long)
    exact congrArg (Line.mk entry.1.id) same.symm

/-- Which branches are made long makes no difference up to the width. -/
@[simp] theorem lengthened_widenedAt (body : Body) (chosen : Line × Nat → Bool) :
    (body.widenedAt chosen).lengthened = body.lengthened := by
  refine eq_of_lines ?_ rfl
  rw [lines_lengthened, lines_lengthened, widenedAt, ← Array.toList_map, Array.map_map]
  refine map_layout body fun entry => ?_
  simp only [Function.comp_apply]
  split
  · exact Line.widened_widened entry.1
  · rfl

theorem lengthened_widenFrom (body : Body) (targets : Targets) (limit passes count : Nat) :
    ((widenFrom targets limit passes count).apply body).2.lengthened = body.lengthened := by
  induction passes generalizing body count with
  | zero => rfl
  | succ passes ih =>
    rw [widenFrom, Edit.apply_bind]
    simp only [Edit.apply_get]
    split
    · rfl
    · rw [Edit.apply_bind]
      exact (ih _ _).trans (lengthened_widenedAt body _)

theorem lengthened_formBranches (body : Body) (policy : BranchPolicy) (passes : Nat) :
    ((formBranches policy passes).apply body).2.lengthened = body.lengthened := by
  cases policy with
  | allLong => exact lengthened_widenedAt body _
  | fitting =>
    rw [formBranches, apply_widenAsNeeded]
    exact lengthened_widenFrom body body.targets passes passes 0

theorem apply_formBranches_allLong (body : Body) (passes : Nat) :
    (formBranches .allLong passes).apply body =
      (.ok (body.layout.countP holdsShortBranch), body.lengthened) := by
  rw [← widenedAt_holdsShortBranch]
  exact apply_widenAll body

/-- Fitting a body that has no short branches only takes that there is a pass at all. -/
theorem AllLong.apply_formBranches (long : body.AllLong) (passes : Nat) :
    (formBranches .fitting (passes + 1)).apply body = (.ok 0, body) := by
  have fitting : body.layout.countP (isOverstretched body.targets body.layout) = 0 := by
    rw [Array.countP_eq_zero]
    intro entry listed
    have line : entry.1 ∈ body.lines.toList := by
      have listed := List.mem_map_of_mem (f := Prod.fst) (Array.mem_toList_iff.2 listed)
      rwa [toList_layout, map_fst_layoutFrom] at listed
    have notShort : holdsShortBranch entry = false := long _ (List.mem_map_of_mem line)
    simp [isOverstretched, notShort]
  rw [formBranches, apply_widenAsNeeded, widenFrom, Edit.apply_bind]
  simp only [Edit.apply_get, fitting]
  rfl

theorem exists_of_formBranches {passes count : Nat}
    (done : (formBranches .fitting passes).apply body = (.ok count, after)) :
    ∃ fewer, passes = fewer + 1 := by
  cases passes with
  | zero =>
    rw [formBranches, apply_widenAsNeeded] at done
    cases done
  | succ fewer => exact ⟨fewer, rfl⟩

theorem alike_lengthened (body : Body) : body.Alike body.lengthened where
  ids := ids_lengthened body
  operands := by
    rw [instrs_lengthened, List.map_map]
    rfl
  labels := rfl
  regions := rfl

/-- Of bodies that differ in nothing but the width of branches, one can be finished with all of them
long if the other can be with fitting ones. -/
theorem finish_allLong {other : Body} (same : body.lengthened = other.lengthened) {method : String}
    {passes count : Nat} (done : (finish method .fitting passes).apply body = (.ok count, after)) :
    ∃ again, (finish method .allLong passes).apply other = (.ok again, after.lengthened) := by
  have widths := lengthened_formBranches body .fitting passes
  have alike : body.Alike other :=
    (alike_lengthened body).trans (same ▸ (alike_lengthened other).symm)
  rw [apply_finish] at done ⊢
  split at done
  · next valid =>
    rw [done] at widths
    rw [alike.check_eq_ok valid, apply_formBranches_allLong, ← same, ← widths]
    exact ⟨_, rfl⟩
  · cases done

end Body
end Retrofit

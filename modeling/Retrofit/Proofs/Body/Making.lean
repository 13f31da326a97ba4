import Retrofit.Proofs.Body.Width

/-!
The types that a body makes objects of. They stay the same when lines that make none are put in,
taken out or exchanged, and when branches get another width.
-/

namespace Retrofit

/-- The type that an instruction makes an object of. -/
def Instr.made? (instr : Instr) : Option String :=
  match instr.opcode, instr.operand with
  | .newobj, .member constructor =>
    if constructor.name = ".ctor" then some constructor.declaringType else none
  | _, _ => none

theorem Instr.made?_eq_none {instr : Instr} (other : instr.opcode ≠ .newobj) :
    instr.made? = none := by
  rw [made?]
  split
  · next makes _ => exact absurd makes other
  · rfl

theorem Instr.made?_widened (instr : Instr) : instr.widened.made? = instr.made? := by
  cases short : instr.opcode.isShortJump with
  | false => rw [widened_of_not_short short]
  | true =>
    have before : instr.opcode ≠ .newobj := by
      intro same
      rw [same] at short
      exact absurd short (by decide)
    have after : instr.widened.opcode ≠ .newobj := by
      intro same
      have listed : instr.widened.opcode ∈ [Opcode.newobj] := List.mem_singleton.2 same
      rw [widened_mem_iff [.newobj] (by decide)] at listed
      exact before (List.mem_singleton.1 listed)
    rw [made?_eq_none before, made?_eq_none after]

section Lists

variable {f : α → Option β}

private theorem filterMap_insertIdx (items : List α) (index : Nat) {item : α} (nothing : f item = none) :
    (items.insertIdx index item).filterMap f = items.filterMap f := by
  induction items generalizing index with
  | nil => cases index <;> simp [nothing]
  | cons first rest ih => cases index <;> simp [List.filterMap_cons, nothing, ih]

private theorem filterMap_eraseIdx (items : List α) (index : Nat)
    (nothing : ∀ item, items[index]? = some item → f item = none) :
    (items.eraseIdx index).filterMap f = items.filterMap f := by
  induction items generalizing index with
  | nil => simp
  | cons first rest ih =>
    cases index with
    | zero => simp [nothing first rfl]
    | succ index => simp [List.filterMap_cons, ih index nothing]

end Lists

namespace Body

/-- The types that a body makes objects of, in the order of its instructions. -/
def made (body : Body) : List String := body.instrs.filterMap Instr.made?

variable {body : Body} {index : Nat}

theorem made_inserted {instr : Instr} (makesNone : instr.made? = none) :
    (body.inserted index instr).made = body.made := by
  rw [made, instrs_inserted, filterMap_insertIdx _ _ makesNone, made]

theorem made_changeAt {change : Instr → Instr}
    (same : ∀ old, body.instrAt? index = some old → (change old).made? = old.made?) :
    (body.changeAt index change).made = body.made := by
  simp only [instrAt?_eq] at same
  rw [made, instrs_changeAt, filterMap_modify _ _ same, made]

theorem made_erased (makesNone : ∀ old, body.instrAt? index = some old → old.made? = none) :
    (body.erased index).made = body.made := by
  simp only [instrAt?_eq] at makesNone
  rw [made, instrs_erased, filterMap_eraseIdx _ _ makesNone, made]

theorem made_lengthened (body : Body) : body.lengthened.made = body.made := by
  rw [made, instrs_lengthened, List.filterMap_map, made]
  congr 1
  funext instr
  exact instr.made?_widened

/-- Finishing a body changes nothing but the width of branches. -/
theorem made_finish (body : Body) (method : String) (policy : BranchPolicy) (passes : Nat) :
    ((finish method policy passes).apply body).2.made = body.made := by
  rw [apply_finish]
  split
  · rw [← made_lengthened, lengthened_formBranches, made_lengthened]
  · rfl

end Body
end Retrofit

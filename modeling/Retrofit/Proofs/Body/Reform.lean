import Retrofit.Proofs.Body.Operation

/-!
Choosing other forms for the instructions of a body: the lines, what they carry, the labels and the
regions all stay as they are.
-/

namespace Retrofit.Body

/-- Two bodies that differ in nothing but the operations at their lines. -/
structure Alike (body after : Body) : Prop where
  ids : after.ids = body.ids
  operands : after.instrs.map Instr.operand = body.instrs.map Instr.operand
  labels : after.labels = body.labels
  regions : after.regions = body.regions

variable {body between after : Body}

theorem Alike.refl (body : Body) : body.Alike body := ⟨rfl, rfl, rfl, rfl⟩

theorem Alike.symm (alike : body.Alike after) : after.Alike body :=
  ⟨alike.ids.symm, alike.operands.symm, alike.labels.symm, alike.regions.symm⟩

theorem Alike.trans (first : body.Alike between) (second : between.Alike after) :
    body.Alike after where
  ids := second.ids.trans first.ids
  operands := second.operands.trans first.operands
  labels := second.labels.trans first.labels
  regions := second.regions.trans first.regions

theorem alike_widenedAt (body : Body) (chosen : Line × Nat → Bool) :
    body.Alike (body.widenedAt chosen) where
  ids := ids_widenedAt body chosen
  operands := operands_widenedAt body chosen
  labels := rfl
  regions := rfl

theorem alike_widenFrom (body : Body) (targets : Targets) (limit passes count : Nat) :
    body.Alike ((widenFrom targets limit passes count).apply body).2 := by
  induction passes generalizing body count with
  | zero => exact .refl body
  | succ passes ih =>
    rw [widenFrom, Edit.apply_bind]
    simp only [Edit.apply_get]
    split
    · exact .refl body
    · rw [Edit.apply_bind]
      exact (alike_widenedAt body _).trans (ih _ _)

theorem alike_formBranches (body : Body) (policy : BranchPolicy) (passes : Nat) :
    body.Alike ((formBranches policy passes).apply body).2 := by
  cases policy with
  | allLong => exact alike_widenedAt body _
  | fitting =>
    rw [formBranches, apply_widenAsNeeded]
    exact alike_widenFrom body body.targets passes passes 0

theorem alike_finish (body : Body) (method : String) (policy : BranchPolicy) (passes : Nat) :
    body.Alike ((finish method policy passes).apply body).2 := by
  rw [apply_finish]
  split
  · exact alike_formBranches body policy passes
  · exact .refl body

end Retrofit.Body

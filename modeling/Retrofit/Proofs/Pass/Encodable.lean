import Retrofit.Proofs.Body.Encodable
import Retrofit.Proofs.Cursor.Operation
import Retrofit.Proofs.Pass.BuiltIn

/-!
The passes that are there from the start leave every body encodable that is so before.
-/

namespace Retrofit

namespace Cursor

theorem size_callDirectly (operand : Operand) :
    Instr.size ⟨.call, operand⟩ = Instr.size ⟨.callvirt, operand⟩ := by
  have code : Opcode.call.size = Opcode.callvirt.size := rfl
  have shape : Opcode.call.operandShape = Opcode.callvirt.operandShape := rfl
  simp only [Instr.size, code, shape]

theorem twin_callDirectly {body : Body} {start : Nat}
    (found : Window.opensAt body [Matcher.helperCallvirt] start = true) :
    body.Twin (body.changeAt start fun instr => { instr with opcode := .call }) := by
  refine Body.twin_changeAt fun old present => ?_
  simp only [Window.opensAt, Bool.and_true, Body.instrAt?_eq, present, Option.any_some,
    Matcher.helperCallvirt, Bool.and_eq_true, decide_eq_true_eq] at found
  obtain ⟨opcode, operand⟩ := old
  obtain ⟨rfl, _⟩ := found
  exact ⟨rfl, size_callDirectly operand, rfl⟩

theorem twin_callNextHelpers (cursor : Cursor) (calls count : Nat) :
    cursor.body.Twin ((callNextHelpers calls count).apply cursor).2.body := by
  induction calls generalizing cursor count with
  | zero => exact .refl cursor.body
  | succ calls ih =>
    rw [callNextHelpers, Edit.apply_bind, apply_trySeek]
    cases found : cursor.nearest? .next (Window.opensAt cursor.body [Matcher.helperCallvirt]) with
    | none => exact .refl cursor.body
    | some start =>
      dsimp only
      rw [if_pos rfl, Edit.apply_bind]
      simp only [Edit.apply_modify]
      have rest := ih
        { cursor.placed start with
          body := cursor.body.changeAt start fun instr => { instr with opcode := .call } }
        (count + 1)
      exact (twin_callDirectly (opensAt_of_nearest? found)).trans rest

end Cursor

namespace Body

theorem twin_callHelpers (body : Body) (method : String) :
    body.Twin ((callHelpers method).apply body).2 :=
  Cursor.twin_callNextHelpers { body, method } (body.length + 1) 0

end Body

namespace Pass

/-- Every pass keeps an encodable body encodable, also one that chooses forms by a policy of its
own. -/
theorem IsBuiltIn.keeps {pass : Pass} (builtIn : pass.IsBuiltIn) (config : Config)
    (id : MethodId) :
    (pass.apply config).Keeps (Module.HoldsAt (Body.Encodable config.policy) id) := by
  refine builtIn.preserves config (fun _ _ _ held => ?beside) (fun edited method => ?calls)
    fun edited _ _ => ?forms
  case beside => exact (Module.sameBodies_of_methods rfl).holdsAt held
  case calls =>
    refine Module.keeps_editBody (fun body fit _ _ => ?_) edited
    exact fit.twin (Body.twin_callHelpers body method)
  case forms =>
    refine Module.keeps_editBody (fun body fit count formed => ?_) edited
    exact fit.formBranches (Prod.ext formed rfl)

end Pass
end Retrofit

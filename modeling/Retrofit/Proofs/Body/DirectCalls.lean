import Retrofit.Pass.Enumerator
import Retrofit.Proofs.Body.InPlace
import Retrofit.Proofs.Settling

/-!
Calling the helpers of enumerators directly, in closed form: the loop that makes one call after the
other direct comes to changing every line at once, and counts the lines that change.
-/

namespace Retrofit

/-- The instruction, or the direct call if it calls a helper of an enumerator virtually. -/
def Instr.calledDirectly (instr : Instr) : Instr :=
  if Matcher.helperCallvirt instr then { instr with opcode := .call } else instr

theorem Matcher.helperCallvirt_call (operand : Operand) :
    helperCallvirt ⟨.call, operand⟩ = false := rfl

/-- No helper of an enumerator is called virtually. -/
def Body.Direct (body : Body) : Prop :=
  ∀ instr ∈ body.instrs, Matcher.helperCallvirt instr = false

theorem Body.countP_helperCallvirt_eq_zero {body : Body} :
    body.instrs.countP Matcher.helperCallvirt = 0 ↔ body.Direct := by
  simp [List.countP_eq_zero, Direct]

theorem Body.Direct.mapInstrs_eq {body : Body} (direct : body.Direct) :
    body.mapInstrs Instr.calledDirectly = body :=
  mapInstrs_of_same fun instr listed => if_neg (by simp [direct instr listed])

theorem Body.direct_mapInstrs (body : Body) : (body.mapInstrs Instr.calledDirectly).Direct := by
  intro instr listed
  rw [instrs_mapInstrs] at listed
  obtain ⟨old, _, rfl⟩ := List.mem_map.1 listed
  unfold Instr.calledDirectly
  split
  · exact Matcher.helperCallvirt_call old.operand
  · next other => exact Bool.not_eq_true _ ▸ other

namespace Cursor

/-- The loop makes a virtual call of a helper direct in each step, as long as there is one. -/
theorem apply_callNextHelpers {cursor : Cursor} (passed : cursor.Passed Matcher.helperCallvirt)
    (calls count : Nat) :
    ∃ left : Cursor,
      (callNextHelpers calls count).apply cursor =
        (.ok (count + min calls (cursor.body.instrs.countP Matcher.helperCallvirt)), left) ∧
      cursor.Changing Matcher.helperCallvirt (fun instr => { instr with opcode := .call }) calls
        left := by
  induction calls generalizing cursor count with
  | zero => exact ⟨cursor, by rw [Nat.zero_min]; rfl, .refl cursor⟩
  | succ calls ih =>
    rw [callNextHelpers, Edit.apply_bind, apply_trySeek]
    cases found : cursor.nearest? .next (Window.opensAt cursor.body [Matcher.helperCallvirt]) with
    | none =>
      have none := passed.countP_eq_zero found
      exact ⟨cursor, by rw [none, Nat.min_zero]; rfl, .of_none none _⟩
    | some start =>
      have leaves (instr : Instr) (_ : Matcher.helperCallvirt instr = true) :
          Matcher.helperCallvirt { instr with opcode := .call } = false :=
        Matcher.helperCallvirt_call instr.operand
      obtain ⟨further, fewer, _⟩ := passed.changingAt leaves found
      obtain ⟨left, went, changing⟩ := ih further (count + 1)
      dsimp only
      rw [if_pos rfl, Edit.apply_bind]
      refine ⟨left, went.trans ?_, .step passed leaves found changing⟩
      rw [← fewer, Nat.add_min_add_right, Nat.add_right_comm, Nat.add_assoc]

end Cursor

namespace Body

/-- All virtual calls of helpers become direct ones, each counted. -/
theorem apply_callHelpers (body : Body) (method : String) :
    (callHelpers method).apply body =
      (.ok (body.instrs.countP Matcher.helperCallvirt), body.mapInstrs Instr.calledDirectly) := by
  have enough : body.instrs.countP Matcher.helperCallvirt ≤ body.length + 1 := by
    have most := List.countP_le_length (p := Matcher.helperCallvirt) (l := body.instrs)
    rw [length_eq_instrs]
    omega
  have passed : Cursor.Passed Matcher.helperCallvirt { body, method } := nofun
  obtain ⟨left, called, changing⟩ := Cursor.apply_callNextHelpers passed (body.length + 1) 0
  rw [Nat.zero_add, Nat.min_eq_right enough] at called
  have whole := (changing.whole enough).1
  show (((Cursor.callNextHelpers (body.length + 1) 0).apply { body, method }).1,
    ((Cursor.callNextHelpers (body.length + 1) 0).apply { body, method }).2.body) = _
  rw [called, whole]
  rfl

theorem seeks_callHelpers (method : String) : (callHelpers method).Seeks Direct 0 where
  rests {body} direct := by
    rw [apply_callHelpers, countP_helperCallvirt_eq_zero.2 direct, direct.mapInstrs_eq]
  reaches {body count after} done unmet := by
    rw [apply_callHelpers] at done
    cases done
    exact ⟨fun none => unmet (countP_helperCallvirt_eq_zero.1 none), direct_mapInstrs body⟩

end Body
end Retrofit

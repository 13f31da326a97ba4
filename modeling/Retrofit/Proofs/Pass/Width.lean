import Retrofit.Proofs.Cursor.Width
import Retrofit.Proofs.Module.Width
import Retrofit.Proofs.Pass.Encodable

/-!
Passes and the width of branches: a pass in a run that makes all branches long does to the bodies
what it does in a run that fits them, apart from the width.
-/

namespace Retrofit

open Edit (KeepsUp)

theorem Matcher.blind_helperCallvirt : Blind helperCallvirt := by
  intro instr
  have same := Instr.widened_mem_iff [.callvirt] (by decide) instr
  simp only [List.mem_singleton] at same
  simp only [helperCallvirt, same]
  rfl

namespace Cursor

theorem follow_callNextHelpers (calls count : Nat) :
    Follow (callNextHelpers calls count) (callNextHelpers calls count) := by
  induction calls generalizing count with
  | zero => exact .pure fun _ _ alike => alike
  | succ calls ih =>
    have blind : Window.Blind [Matcher.helperCallvirt] :=
      Window.blind_singleton Matcher.blind_helperCallvirt
    refine .bind (follow_trySeek blind .next .before) fun found =>
      .ite (.bind ?_ fun _ => ih (count + 1)) (.pure fun _ _ alike => alike)
    refine follow_of_commutes fun cursor => ?_
    have same : (cursor.body.changeAt cursor.index fun instr =>
          { instr with opcode := .call }).lengthened =
        cursor.body.lengthened.changeAt cursor.index fun instr => { instr with opcode := .call } :=
      Body.lengthened_changeAt cursor.body cursor.index fun _ => rfl
    rw [Edit.apply_modify, Edit.apply_modify]
    exact Prod.ext rfl (congrArg (fun body => { cursor with body }) same.symm)

end Cursor

namespace Body

/-- A body, or what it is with every short branch in its long form. -/
def MaybeLengthened (body other : Body) : Prop := other = body ∨ other = body.lengthened

theorem keepsUp_callHelpers (method : String) :
    KeepsUp MaybeLengthened (callHelpers method) (callHelpers method) := by
  rintro body _ (rfl | rfl) count final done
  · exact ⟨count, final, done, .inl rfl⟩
  · have outcome : ((Cursor.callNextHelpers (body.length + 1) 0).apply { body, method }).1 =
        .ok count := congrArg Prod.fst done
    have left : ((Cursor.callNextHelpers (body.length + 1) 0).apply { body, method }).2.body =
        final := congrArg Prod.snd done
    have twin := Cursor.twin_callNextHelpers (.lengthened { body, method }) (body.length + 1) 0
    obtain ⟨_, follows, reached, rfl, same⟩ := Cursor.follow_callNextHelpers _ _ _ _
      ⟨_, rfl, Cursor.sameButWidths_lengthened { body, method }⟩ _ _ (Prod.ext outcome rfl)
    cases follows with
    | succeeds ran =>
      rw [ran] at twin
      have again : (callHelpers method).apply body.lengthened = (.ok count, reached.body) := by
        have opened : (callHelpers method).apply body.lengthened =
            ((Cursor.callNextHelpers (body.lengthened.length + 1) 0).apply
              (.lengthened { body, method })).map id Cursor.body := rfl
        rw [opened, length_lengthened, ran]
        rfl
      have long := (allLong_lengthened body).twin twin
      exact ⟨count, reached.body, again, .inr (by rw [← left, same.body, long.lengthened_eq])⟩

/-- Whichever policy chooses the forms, the long ones keep up: a policy of the pass's own finds
nothing more to widen in them. -/
theorem keepsUp_formBranches (policy : Option BranchPolicy) (passes : Nat) :
    KeepsUp MaybeLengthened (formBranches (policy.getD .fitting) passes)
      (formBranches (policy.getD .allLong) passes) := by
  intro body other maybe count final done
  have widths := lengthened_formBranches body (policy.getD .fitting) passes
  rw [done] at widths
  have same : other.lengthened = final.lengthened := by
    rcases maybe with rfl | rfl
    · exact widths.symm
    · rw [lengthened_lengthened, widths]
  cases policy with
  | none => exact ⟨_, _, apply_formBranches_allLong other passes, .inr same⟩
  | some policy =>
    cases policy with
    | allLong => 
      refine ⟨_, _, apply_formBranches_allLong other passes, .inr same⟩
    | fitting =>
      rcases maybe with rfl | rfl
      · exact ⟨count, final, done, .inl rfl⟩
      · obtain ⟨fewer, rfl⟩ := exists_of_formBranches done
        refine ⟨0, _, (allLong_lengthened body).apply_formBranches fewer, .inr widths.symm⟩

end Body

namespace Module

/-- A module, or what it is with the short branches of some methods in their long form. -/
def SomeLengthened (module other : Module) : Prop := ∃ chosen, other = module.lengthenedAt chosen

theorem someLengthened_withBody (chosen : MethodId → Bool) (module : Module) (id : MethodId)
    {body other : Body} (maybe : body.MaybeLengthened other) :
    SomeLengthened (module.withMethod id fun method => { method with body := some body })
      ((module.lengthenedAt chosen).withMethod id fun method =>
        { method with body := some other }) := by
  rcases maybe with rfl | rfl
  · exact ⟨_, (lengthenedAt_withBody chosen module id false other).symm⟩
  · exact ⟨_, (lengthenedAt_withBody chosen module id true body).symm⟩

theorem keepsUp_of_ignoresWidths {edit : Edit Module α} (ignores : IgnoresWidths edit) :
    KeepsUp SomeLengthened edit edit := by
  rintro module _ ⟨chosen, rfl⟩ value final done
  have again := ignores chosen module
  rw [done] at again
  exact ⟨value, _, again, chosen, rfl⟩

theorem keepsUp_editBody {edit other : Edit Body Nat}
    (keepsUp : KeepsUp Body.MaybeLengthened edit other) (id : MethodId) :
    KeepsUp SomeLengthened (editBody id edit) (editBody id other) := by
  rintro module _ ⟨chosen, rfl⟩ value final done
  rw [apply_editBody] at done ⊢
  rw [bodyOf?_lengthenedAt]
  cases found : module.bodyOf? id with
  | none =>
    rw [found] at done
    cases done
    exact ⟨0, _, rfl, chosen, rfl⟩
  | some body =>
    rw [found] at done
    obtain ⟨outcome, rfl⟩ := Prod.mk.inj done
    have maybe : body.MaybeLengthened (if chosen id then body.lengthened else body) := by
      split
      · exact .inr rfl
      · exact .inl rfl
    obtain ⟨again, reached, ran, last⟩ :=
      keepsUp body _ maybe value (edit.apply body).2 (Prod.ext outcome rfl)
    rw [Option.map_some]
    dsimp only
    rw [ran]
    exact ⟨again, _, rfl, someLengthened_withBody chosen module id last⟩

end Module

namespace Pass

theorem keepsUp_repairEnumerators (config : Config) :
    KeepsUp Module.SomeLengthened (repairEnumerators.apply config)
      (repairEnumerators.apply config) := by
  rintro module _ ⟨chosen, rfl⟩ changed final done
  have names (id : MethodId) : (module.lengthenedAt chosen).methodName id = module.methodName id :=
    Module.nameOf_lengthenedAt chosen module (.method id)
  have methods : (module.lengthenedAt chosen).enumeratorMethods = module.enumeratorMethods := by
    have order : (module.lengthenedAt chosen).typesInOrder = module.typesInOrder := by
      rw [← Module.typesInOrder_outline, Module.outline_lengthenedAt, Module.typesInOrder_outline]
    rw [Module.enumeratorMethods, order]
    rfl
  obtain ⟨_, _, ⟨⟩, went⟩ := Edit.bind_eq_ok.1 done
  obtain ⟨count, _, repaired, ended⟩ := Edit.bind_eq_ok.1 went
  cases ended
  have each (id : MethodId) (_ : id ∈ module.enumeratorMethods) :=
    Module.keepsUp_editBody (Body.keepsUp_callHelpers (module.methodName id)) id
  obtain ⟨again, reached, ran, last⟩ :=
    KeepsUp.total each module _ ⟨chosen, rfl⟩ count final repaired
  refine ⟨decide (0 < again), reached, Edit.bind_eq_ok.2 ⟨_, _, rfl, ?_⟩, last⟩
  refine Edit.bind_eq_ok.2 ⟨again, reached, ?_, rfl⟩
  simpa only [methods, names] using ran

theorem keepsUp_formBranches (policy : Option BranchPolicy) (config : Config) :
    KeepsUp Module.SomeLengthened ((formBranches policy).apply { config with policy := .fitting })
      ((formBranches policy).apply { config with policy := .allLong }) := by
  rintro module _ ⟨chosen, rfl⟩ changed final done
  have methods : (module.lengthenedAt chosen).methodIds = module.methodIds := by
    simp [Module.methodIds, Module.lengthenedAt]
  obtain ⟨_, _, ⟨⟩, went⟩ := Edit.bind_eq_ok.1 done
  obtain ⟨count, _, formed, ended⟩ := Edit.bind_eq_ok.1 went
  cases ended
  have each (id : MethodId) (_ : id ∈ module.methodIds) :=
    Module.keepsUp_editBody (Body.keepsUp_formBranches policy config.passLimit) id
  obtain ⟨again, reached, ran, last⟩ := KeepsUp.total each module _ ⟨chosen, rfl⟩ count final formed
  refine ⟨decide (0 < again), reached, Edit.bind_eq_ok.2 ⟨_, _, rfl, ?_⟩, last⟩
  refine Edit.bind_eq_ok.2 ⟨again, reached, ?_, rfl⟩
  simpa only [methods] using ran

/-- Where a pass succeeds in a run that fits branches, it does so in one that makes them all long,
and leaves the same bodies up to the width of branches. -/
theorem IsBuiltIn.keepsUp {pass : Pass} (builtIn : pass.IsBuiltIn) (config : Config) :
    KeepsUp Module.SomeLengthened (pass.apply { config with policy := .fitting })
      (pass.apply { config with policy := .allLong }) := by
  cases builtIn with
  | replaceReferences filter replacement =>
    exact Module.keepsUp_of_ignoresWidths
      (ignoresMembers_replaceReferences filter replacement config).ignoresWidths
  | synchronizeVersions =>
    exact Module.keepsUp_of_ignoresWidths (ignoresMembers_synchronizeVersions config).ignoresWidths
  | repairEnumerators => exact keepsUp_repairEnumerators config
  | formBranches policy => exact keepsUp_formBranches policy config
  | setDebuggingModes modes =>
    exact Module.keepsUp_of_ignoresWidths
      (ignoresMembers_setDebuggingModes modes config).ignoresWidths

end Pass
end Retrofit

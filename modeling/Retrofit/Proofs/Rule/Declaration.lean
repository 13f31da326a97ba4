import Retrofit.Proofs.Module.Bodies
import Retrofit.Proofs.Module.Members
import Retrofit.Proofs.Rule.Ledger
import Retrofit.Rule.Declaration

/-!
What the rules for declarations leave alone: everything that does not depend on the entry point of the
module, on the flags of methods or on names.
-/

namespace Retrofit

/-- The bits of the flags are all kept, and three more are set. -/
theorem MethodFlags.bits_asImplementation (flags : MethodFlags) :
    flags.asImplementation.bits = flags.bits ||| virtual ||| sealed ||| newSlot := by
  simp only [bits, asImplementation]
  ac_rfl

theorem MethodFlags.asImplementation_asImplementation (flags : MethodFlags) :
    flags.asImplementation.asImplementation = flags.asImplementation := by
  have twice (bits bit : UInt32) : bits ||| bit ||| bit = bits ||| bit := by
    rw [UInt32.or_assoc, UInt32.or_self]
  have both : flags.modifiers ||| virtual ||| sealed ||| virtual ||| sealed =
      flags.modifiers ||| virtual ||| sealed := by
    calc _ = flags.modifiers ||| virtual ||| virtual ||| sealed ||| sealed := by ac_rfl
      _ = _ := by rw [twice, twice]
  simp only [asImplementation, twice, both]

namespace Rule

/-- A property of modules that outlives every change which the rules for declarations make. -/
structure Indifferent (property : Module → Prop) : Prop where
  entryPoint : ∀ {module : Module} (method : MethodId), property module →
    property { module with entryPoint := some method }
  flags : ∀ {module : Module} (id : MethodId), property module →
    property (module.withMethod id fun method =>
      { method with flags := method.flags.asImplementation })
  name : ∀ {module : Module} (member : MemberId) (name : String), property module →
    property ((Module.rename member name).apply module).2

variable {property : Module → Prop}

theorem keeps_onLedger (edit : Edit Ledger α) :
    (Workspace.onLedger edit).Keeps fun workspace => property workspace.module :=
  fun _ held _ _ => held

theorem keeps_onModule {edit : Edit Module α}
    (kept : ∀ module, property module → property (edit.apply module).2) :
    (Workspace.onModule edit).Keeps fun workspace => property workspace.module :=
  fun workspace held _ _ => kept workspace.module held

theorem keeps_demand (check : Except PatchError α) :
    (Edit.demand check : Edit Workspace α).Keeps fun workspace => property workspace.module :=
  fun _ held _ _ => held

theorem Indifferent.enterAt (indifferent : Indifferent property) (task : MemberTask) :
    (enterAt task).Keeps fun workspace => property workspace.module := by
  refine .bind .get fun workspace => ?_
  refine .bind (keeps_demand _) fun method => ?_
  refine .bind (keeps_onLedger _) fun _ => ?_
  exact keeps_onModule fun module held => indifferent.entryPoint method held

theorem Indifferent.implementInterface (indifferent : Indifferent property) (task : MemberTask) :
    (implementInterface task).Keeps fun workspace => property workspace.module := by
  refine .bind .get fun workspace => ?_
  refine .bind (keeps_demand _) fun id => ?_
  refine keeps_onModule fun module held => ?_
  rw [Module.apply_changeMethod]
  exact indifferent.flags id held

theorem Indifferent.renameTarget (indifferent : Indifferent property) (task : MemberTask) :
    (renameTarget task).Keeps fun workspace => property workspace.module := by
  refine .bind .get fun workspace => ?_
  refine .bind (keeps_demand _) fun name => ?_
  split
  · exact fun _ _ _ failed => nomatch failed
  · refine .bind (keeps_onLedger _) fun _ => ?_
    exact keeps_onModule fun module held => indifferent.name task.target name held

theorem indifferent_sameBodies (origin : Module) : Indifferent origin.SameBodies where
  entryPoint _ held := held
  flags {module} id held member := by
    refine .trans (Module.sameBodies_withMethod module id ?_ member) (held member)
    exact fun _ => rfl
  name {module} member _ held id :=
    (Module.sameBodies_changeInfo module member _ id).trans (held id)

theorem indifferent_sameMembers (origin : Module) : Indifferent origin.SameMembers where
  entryPoint _ held := held.trans (Module.sameMembers_of_same rfl rfl rfl)
  flags {module} id held := by
    refine held.trans (Module.sameMembers_withMethod module id ?_)
    exact fun _ => rfl
  name {module} member _ held := by
    refine held.trans (Module.sameMembers_changeInfo module member ?_)
    exact fun _ => rfl

section Success

variable {task : MemberTask} {module : Module} {ledger : Ledger} {final : Workspace}

theorem onLedger_eq_ok {edit : Edit Ledger α} {value : α} :
    (Workspace.onLedger edit).apply ⟨module, ledger⟩ = (.ok value, final) ↔
      ∃ after, edit.apply ledger = (.ok value, after) ∧ final = ⟨module, after⟩ := by
  rw [Workspace.onLedger, Edit.apply_within]
  rcases edit.apply ledger with ⟨outcome, after⟩
  constructor
  · rintro ⟨⟩
    exact ⟨after, rfl, rfl⟩
  · rintro ⟨_, ⟨⟩, rfl⟩
    rfl

theorem onModule_eq_ok {edit : Edit Module α} {value : α} :
    (Workspace.onModule edit).apply ⟨module, ledger⟩ = (.ok value, final) ↔
      ∃ after, edit.apply module = (.ok value, after) ∧ final = ⟨after, ledger⟩ := by
  rw [Workspace.onModule, Edit.apply_within]
  rcases edit.apply module with ⟨outcome, after⟩
  constructor
  · rintro ⟨⟩
    exact ⟨after, rfl, rfl⟩
  · rintro ⟨_, ⟨⟩, rfl⟩
    rfl

theorem methodTarget_eq_ok {id : MethodId} :
    task.methodTarget module = .ok id ↔ task.target = .method id := by
  rw [MemberTask.methodTarget]
  cases task.target <;> simp

/-- The entry point becomes a method, if no other one has been claimed. -/
theorem enterAt_eq_ok :
    (enterAt task).apply ⟨module, ledger⟩ = (.ok (), final) ↔
      ∃ id, task.target = .method id ∧
        (∀ value, ledger.value? module.name "entry_point" = some value →
          value = task.target.text) ∧
        final = ⟨{ module with entryPoint := some id },
          ledger.holding ⟨module.name, "entry_point", task.target.text⟩⟩ := by
  rw [enterAt, Edit.apply_bind, Edit.apply_get]
  constructor
  · intro done
    obtain ⟨id, _, demanded, done⟩ := Edit.bind_eq_ok.1 done
    obtain ⟨carries, rfl⟩ := Prod.mk.inj demanded
    obtain ⟨_, _, claimed, done⟩ := Edit.bind_eq_ok.1 done
    obtain ⟨_, entered, rfl⟩ := onLedger_eq_ok.1 claimed
    obtain ⟨agrees, rfl⟩ := Ledger.enter_eq_ok.1 entered
    obtain ⟨_, ⟨⟩, rfl⟩ := onModule_eq_ok.1 done
    exact ⟨id, methodTarget_eq_ok.1 carries, agrees, rfl⟩
  · rintro ⟨id, carries, agrees, rfl⟩
    refine Edit.bind_eq_ok.2 ⟨id, _, Prod.ext (methodTarget_eq_ok.2 carries) rfl, ?_⟩
    refine Edit.bind_eq_ok.2 ⟨(), _, onLedger_eq_ok.2 ⟨_, ?_, rfl⟩, rfl⟩
    exact Ledger.enter_eq_ok.2 ⟨agrees, rfl⟩

/-- A method of the module comes to implement an interface. -/
theorem implementInterface_eq_ok :
    (implementInterface task).apply ⟨module, ledger⟩ = (.ok (), final) ↔
      ∃ id method, task.target = .method id ∧ module.methodAt id = .ok method ∧
        final = ⟨module.withMethod id fun method =>
          { method with flags := method.flags.asImplementation }, ledger⟩ := by
  rw [implementInterface, Edit.apply_bind, Edit.apply_get]
  constructor
  · intro done
    obtain ⟨id, _, demanded, done⟩ := Edit.bind_eq_ok.1 done
    obtain ⟨carries, rfl⟩ := Prod.mk.inj demanded
    obtain ⟨_, changed, rfl⟩ := onModule_eq_ok.1 done
    rw [Module.apply_changeMethod] at changed
    obtain ⟨known, rfl⟩ := Prod.mk.inj changed
    cases found : module.methodAt id with
    | error error => rw [found] at known; cases known
    | ok method => exact ⟨id, method, methodTarget_eq_ok.1 carries, found, rfl⟩
  · rintro ⟨id, method, carries, found, rfl⟩
    refine Edit.bind_eq_ok.2 ⟨id, _, Prod.ext (methodTarget_eq_ok.2 carries) rfl, ?_⟩
    refine onModule_eq_ok.2 ⟨_, ?_, rfl⟩
    rw [Module.apply_changeMethod, found]
    rfl

/-- A member gets the name that is asked for, if it is not empty and no other one has been claimed. -/
theorem renameTarget_eq_ok :
    (renameTarget task).apply ⟨module, ledger⟩ = (.ok (), final) ↔
      ∃ name info, task.request.textArg 0 = .ok name ∧ name ≠ "" ∧
        (∀ value, ledger.value? task.target.text "name" = some value → value = name) ∧
        module.info task.target = .ok info ∧
        final = ⟨((Module.rename task.target name).apply module).2,
          ledger.holding ⟨task.target.text, "name", name⟩⟩ := by
  rw [renameTarget, Edit.apply_bind, Edit.apply_get]
  dsimp only
  constructor
  · intro done
    obtain ⟨name, _, demanded, done⟩ := Edit.bind_eq_ok.1 done
    obtain ⟨asked, rfl⟩ := Prod.mk.inj demanded
    split at done
    · cases done
    · next given =>
      obtain ⟨_, _, claimed, done⟩ := Edit.bind_eq_ok.1 done
      obtain ⟨_, entered, rfl⟩ := onLedger_eq_ok.1 claimed
      obtain ⟨agrees, rfl⟩ := Ledger.enter_eq_ok.1 entered
      obtain ⟨after, renamed, rfl⟩ := onModule_eq_ok.1 done
      obtain ⟨⟨info, found⟩, rfl⟩ := Module.changeInfo_eq_ok.1 renamed
      exact ⟨name, info, asked, given, agrees, found, rfl⟩
  · rintro ⟨name, info, asked, given, agrees, found, rfl⟩
    refine Edit.bind_eq_ok.2 ⟨name, _, Prod.ext asked rfl, ?_⟩
    rw [if_neg given]
    refine Edit.bind_eq_ok.2 ⟨(), _, onLedger_eq_ok.2 ⟨_, ?_, rfl⟩, onModule_eq_ok.2 ⟨_, ?_, rfl⟩⟩
    · exact Ledger.enter_eq_ok.2 ⟨agrees, rfl⟩
    · exact Module.changeInfo_eq_ok.2 ⟨⟨info, found⟩, rfl⟩

end Success

end Rule
end Retrofit

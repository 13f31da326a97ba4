import Retrofit.Proofs.Module.Flags
import Retrofit.Proofs.Run.Fulfilment

/-!
Flags after a run. The methods that are to implement an interface have the bits for that, all others
have the flags that they had (`Patcher.flags_of_run`). So an attribute word comes through a run but for
the bits that belong to no group (`Patcher.bits_of_run`).
-/

namespace Retrofit

namespace Pass

theorem IsBuiltIn.keepsFlags {pass : Pass} (builtIn : pass.IsBuiltIn) (config : Config)
    (origin : Module) :
    (pass.apply config).Keeps fun module => module.flagsOf? = origin.flagsOf? := by
  have editing (id : MethodId) (edit : Edit Body Nat) :
      (Module.editBody id edit).Keeps fun module => module.flagsOf? = origin.flagsOf? :=
    fun module held _ _ => (module.flagsOf?_editBody id edit).trans held
  exact builtIn.preserves config (fun _ _ _ held => held) (fun id _ => editing id _)
    fun id _ _ => editing id _

end Pass

namespace Module

/-- The flags of a method when wishes have been met. -/
def flagsMeeting? (module : Module) (wishes : Wishes) (id : MethodId) : Option MethodFlags :=
  (module.flagsOf? id).map fun flags =>
    if wishes.implements id then flags.asImplementation else flags

variable {module : Module} {wishes : Wishes} {request : Request}

theorem flagsMeeting?_nil (module : Module) : module.flagsMeeting? [] = module.flagsOf? := by
  funext id
  exact Option.map_id'

theorem flagsMeeting?_concat_of_ne (module : Module) (wishes : Wishes) (member : MemberId)
    (other : request.rule ≠ "PatchInterface") :
    module.flagsMeeting? (wishes ++ [(member, request)]) = module.flagsMeeting? wishes := by
  funext id
  rw [flagsMeeting?, flagsMeeting?, wishes.implements_concat_of_ne member other]

/-- One more wish for an implementation is met by the bits for it, also where they are set already. -/
theorem flagsMeeting?_concat (module : Module) (wishes : Wishes) (implementer : MethodId)
    (asks : request.rule = "PatchInterface") (id : MethodId) :
    module.flagsMeeting? (wishes ++ [(.method implementer, request)]) id =
      (module.flagsMeeting? wishes id).map fun flags =>
        if implementer = id then flags.asImplementation else flags := by
  rw [flagsMeeting?, flagsMeeting?, Option.map_map, wishes.implements_concat]
  congr 1
  funext flags
  by_cases same : implementer = id
  · cases wishes.implements id <;>
      simp [same, asks, MethodFlags.asImplementation_asImplementation]
  · simp [same]

end Module

/-- The methods have the flags for which wishes ask. -/
def Workspace.Flagged (origin : Module) (wishes : Wishes) (workspace : Workspace) : Prop :=
  workspace.module.flagsOf? = origin.flagsMeeting? wishes

namespace Patcher

variable {config : Config} {passes : List Pass} {module after : Module} {notes left : List ν}
  {report : Report}

theorem fulfils_flagged (origin : Module) : Fulfils (Workspace.Flagged origin) where
  serves {wishes member request workspace reached} flagged effect := by
    have unflagged (other : request.rule ≠ "PatchInterface")
        (same : reached.module.flagsOf? = workspace.module.flagsOf?) :
        reached.Flagged origin (wishes ++ [(member, request)]) := by
      rw [Workspace.Flagged, same, origin.flagsMeeting?_concat_of_ne wishes member other]
      exact flagged
    obtain ⟨module, ledger⟩ := workspace
    cases effect with
    | enters asks ran =>
      obtain ⟨id, _, _, rfl⟩ := Rule.enterAt_eq_ok.1 ran
      exact unflagged (by simp [asks]) rfl
    | implements asks ran =>
      obtain ⟨id, _, rfl, _, rfl⟩ := Rule.implementInterface_eq_ok.1 ran
      funext other
      rw [origin.flagsMeeting?_concat wishes id asks, ← flagged]
      exact module.flagsOf?_withMethod id other fun _ => rfl
    | renames asks ran =>
      obtain ⟨name, _, _, _, _, _, rfl⟩ := Rule.renameTarget_eq_ok.1 ran
      exact unflagged (by simp [asks]) (module.flagsOf?_changeInfo member _)
    | rewrites other id body =>
      refine unflagged (by rintro same; simp [same] at other) ?_
      exact module.flagsOf?_withMethod_of_same id fun _ => rfl
  drops {wishes module ledger} member flagged :=
    (module.flagsOf?_changeInfo member _).trans flagged

/-- What a run does to flags: methods with a request for it get the bits of an implementation. -/
theorem flags_of_run (built : module.Built) (builtIn : ∀ pass ∈ passes, pass.IsBuiltIn)
    (succeeds : (withBuiltIns config passes).run.apply ⟨module, notes⟩ =
      (.ok report, ⟨after, left⟩)) :
    after.flagsOf? = module.flagsMeeting? module.wishes := by
  have start : Workspace.Flagged module [] ⟨module, {}⟩ := (module.flagsMeeting?_nil).symm
  obtain ⟨between, ledger, _, order, all, flagged, _, series⟩ :=
    (fulfils_flagged module).run built start succeeds
  have kept := series.keeps
    (fun pass listed => (builtIn pass listed).keepsFlags config between) rfl
  have same (wish : MemberId × Request) : wish ∈ order.flatMap module.attached ↔
      wish ∈ module.wishes := (all.flatMap_right _).mem_iff
  rw [kept, flagged]
  funext id
  rw [Module.flagsMeeting?, Module.flagsMeeting?, Wishes.implements_congr same id]

/-- Attribute words and implementations. Splitting the word of a method and putting it together again
keeps all of it if and only if its attributes belong to the groups. And a method with such a word that
is to implement an interface comes out of a run with the bits for that and with those of the word that
belong to a group, which again is all of it just in that case. -/
theorem bits_of_run {word : UInt32} (attributes : MethodFlags.IsAttributeWord word) :
    ((MethodFlags.ofBits word).bits = word ↔ word &&& MethodFlags.undeclared = 0) ∧
    ∀ {config : Config} {passes : List Pass} {module after : Module} {notes left : List ν}
      {report : Report} {id : MethodId} {method : MethodDef} {request : Request},
      module.Built → (∀ pass ∈ passes, pass.IsBuiltIn) →
      (withBuiltIns config passes).run.apply ⟨module, notes⟩ = (.ok report, ⟨after, left⟩) →
      module.methods[id.index]? = some method → method.flags = .ofBits word →
      request ∈ method.requests → request.rule = "PatchInterface" →
        ∃ final, after.methods[id.index]? = some final ∧
          final.flags.bits = word &&& MethodFlags.declared ||| 0x160 ∧
          (final.flags.bits = word ||| 0x160 ↔ word &&& MethodFlags.undeclared = 0) := by
  refine ⟨attributes.bits_eq_iff, ?_⟩
  intro config passes module after notes left report id method request built builtIn succeeds listed
    made asked implements
  have wish : (.method id, request) ∈ module.wishes := by
    refine Module.mem_wishes.2 ⟨method.toMemberInfo, ?_, asked⟩
    rw [Module.info, Module.methodAt, listed]
    rfl
  have implementing : module.wishes.implements id = true :=
    Wishes.implements_eq_true_iff.2 ⟨request, wish, implements⟩
  have flags : after.flagsOf? id = some (MethodFlags.ofBits word).asImplementation := by
    rw [flags_of_run built builtIn succeeds, Module.flagsMeeting?, Module.flagsOf?, listed]
    simp [implementing, made]
  obtain ⟨final, there, flagged⟩ := Option.map_eq_some_iff.1 flags
  have bits : final.flags.bits = (MethodFlags.ofBits word).bits ||| MethodFlags.implementation := by
    rw [flagged, MethodFlags.bits_asImplementation, MethodFlags.implementation]
    ac_rfl
  have added : MethodFlags.implementation = 0x160 := rfl
  refine ⟨final, there, ?_, ?_⟩
  · rw [bits, MethodFlags.bits_ofBits, added]
  · rw [bits, ← added, attributes.bits_or_eq_iff]

/-- A module with a method that is to implement an interface. -/
def closable (word : UInt32) : Module :=
  let module : Module := ((Module.addType "Game" "Button").apply { name := "Game" }).2
  let module := ((Module.addMethod ⟨0⟩
    { name := "Dispose", returnType := "System.Void", flags := .ofBits word, declaringType := ⟨0⟩,
      body := some (.ofInstrs [⟨.ret, .none⟩]) }).apply module).2
  ((Module.attachRequest (.method ⟨0⟩) (.ofStrings "PatchInterface" [])).apply module).2

theorem built_closable (word : UInt32) : (closable word).Built :=
  .request (.method (.type (.empty "Game") _ _) _ _) _ _

/-- A public method that hides by signature keeps its word, with the bits of an implementation. -/
theorem bits_of_closable :
    ∃ report after notes,
      (withBuiltIns {} [.formBranches]).run.apply (⟨closable 0x86, []⟩ : Noted Unit Module) =
          (.ok report, ⟨after, notes⟩) ∧
        ∃ final, after.methods[0]? = some final ∧ final.flags.bits = 0x86 ||| 0x160 := by
  have succeeds : ((withBuiltIns {} [.formBranches]).run.apply
      (⟨closable 0x86, []⟩ : Noted Unit Module)).1.isOk = true := by
    decide +kernel
  have builtIn : ∀ pass ∈ [Pass.formBranches], pass.IsBuiltIn := by
    intro pass listed
    rw [List.mem_singleton.1 listed]
    exact .formBranches none
  have attributes : MethodFlags.IsAttributeWord 0x86 := by
    unfold MethodFlags.IsAttributeWord
    decide
  rcases ran : (withBuiltIns {} [.formBranches]).run.apply
    (⟨closable 0x86, []⟩ : Noted Unit Module) with ⟨error | report, ⟨after, notes⟩⟩
  · rw [ran] at succeeds
    cases succeeds
  · obtain ⟨method, listed, made, asked⟩ : ∃ method,
        (closable 0x86).methods[(⟨0⟩ : MethodId).index]? = some method ∧
          method.flags = .ofBits 0x86 ∧ .ofStrings "PatchInterface" [] ∈ method.requests :=
      ⟨_, rfl, rfl, List.mem_singleton_self _⟩
    obtain ⟨final, there, _, kept⟩ :=
      (bits_of_run attributes).2 (built_closable 0x86) builtIn ran listed made asked rfl
    exact ⟨report, after, notes, rfl, final, there, kept.2 (by decide)⟩

/-- A method that has security attributes besides does not: the bit for that is dropped as the word is
split, and the run writes a word without it. -/
theorem hasSecurity_dropped :
    let word := 0x86 ||| MethodFlags.hasSecurity
    let final := (withBuiltIns {} []).run.apply (⟨closable word, []⟩ : Noted Unit Module)
    word &&& (MethodFlags.declared ||| MethodFlags.undeclared) = word ∧
      (MethodFlags.ofBits word).bits = 0x86 ∧
      final.1.isOk = true ∧
      (final.2.state.flagsOf? ⟨0⟩).map MethodFlags.bits = some 0x1E6 ∧
      word ≠ 0x86 ∧ word ||| 0x160 ≠ 0x1E6 := by
  decide +kernel

end Patcher
end Retrofit

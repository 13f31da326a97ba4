import Mathlib
import Retrofit.Proofs.Pass.Encodable
import Retrofit.Proofs.Run.Order
import Retrofit.Proofs.Run.Upkeep

/-!
What a run leaves behind: every body that a rule was asked to edit can be encoded, whatever rules and
passes come after it (`encodable_after_run`).
-/

namespace Retrofit

namespace Patcher

variable {config : Config} {registry : Registry ν} {watched : Registry Service}
  {serve : BodyTask → Edit Cursor Unit} {module : Module} {member : MemberId} {target : MethodId}
  {request : Request} {body : Body} {widened : Option Nat} {cursor : Cursor} {passes : List Pass}

theorem encodable_settle (finishes : config.finishBodies = true) {name : String}
    {start : Cursor} (settled : (settle config name).apply start = (.ok widened, cursor)) :
    cursor.body.Encodable config.policy := by
  rw [settle, if_pos finishes] at settled
  obtain ⟨count, between, finished, ended⟩ := Edit.bind_eq_ok.1 settled
  cases ended
  rw [Cursor.apply_onBody] at finished
  obtain ⟨done, rfl⟩ := Prod.mk.inj finished
  exact Body.encodable_finish (Prod.ext done rfl)

theorem encodable_workOn (finishes : config.finishBodies = true)
    (worked : workOn config serve module target request body = (.ok widened, cursor)) :
    cursor.body.Encodable config.policy := by
  obtain ⟨_, between, _, settled⟩ := Edit.bind_eq_ok.1 worked
  exact encodable_settle finishes settled

/-- The services of rules for bodies were each for a method, in the body of the one that the module
had for it then, and this body is encodable now. -/
def AllEncodable (config : Config) (registry : Registry Service) (services : List Service)
    (module : Module) : Prop :=
  ∀ service ∈ services, registry.editsBodies service.request.rule = true →
    ∃ target, service.member = .method target ∧
      service.edited = some (editedMethod config service.module target) ∧
      Module.HoldsAt (Body.Encodable config.policy) (editedMethod config service.module target)
        module

theorem AllEncodable.mono {services : List Service} {after : Module}
    (all : AllEncodable config watched services module)
    (kept : ∀ id, Module.HoldsAt (Body.Encodable config.policy) id module →
      Module.HoldsAt (Body.Encodable config.policy) id after) :
    AllEncodable config watched services after := by
  intro service listed edits
  obtain ⟨target, carries, edited, fits⟩ := all service listed edits
  exact ⟨target, carries, edited, kept _ fits⟩

theorem allEncodable_serveRequest (finishes : config.finishBodies = true)
    (announced : registry.AnnouncedBy watched) {noted final : Noted Service Progress}
    (served : (serveRequest ⟨watched, config, passes⟩ member request).apply noted =
      (.ok (), final))
    (all : AtModule (AllEncodable config watched) noted) :
    AtModule (AllEncodable config watched) final := by
  obtain ⟨⟨⟨module, ledger⟩, report⟩, notes⟩ := noted
  obtain ⟨service, workspace, widened, answer, _, rfl⟩ := answer_of_serveRequest announced served
  cases answer with
  | member target edits keeps =>
    have same := keeps (Rule.indifferent_sameBodies module) fun _ => rfl
    refine List.forall_mem_append.2 ⟨all.mono fun id fits => same.holdsAt fits, ?_⟩
    exact List.forall_mem_singleton.2 fun handled =>
      absurd (edits.symm.trans handled) Bool.false_ne_true
  | body target edits has worked =>
    have fits := encodable_workOn finishes worked
    refine List.forall_mem_append.2 ⟨all.mono fun id held => held.withBody fun _ => fits, ?_⟩
    exact List.forall_mem_singleton.2 fun _ => ⟨target, rfl, rfl, Module.holdsAt_withBody has fits⟩

theorem keeps_allEncodable (finishes : config.finishBodies = true)
    (announced : registry.AnnouncedBy watched) (builtIn : ∀ pass ∈ passes, pass.IsBuiltIn) :
    (⟨watched, config, passes⟩ : Patcher Service).Keeps (AllEncodable config watched) where
  serves := allEncodable_serveRequest finishes announced
  drops member _ module all :=
    all.mono fun _ fits => (Module.sameBodies_changeInfo module member _).holdsAt fits
  makes pass listed _ module all value done :=
    all.mono fun id fits => (builtIn pass listed).keeps config id module fits value done

/-- A run that succeeds on a module made by its builders has served the requests that were attached
to its members, each as often as it was attached. Those for rules for bodies were served on methods,
in the body of the method that the module had for the annotated one then. All these bodies can be
encoded when the run ends, whatever rules and passes have come after. -/
theorem encodable_after_run {after : Module} {notes left : List ν} {report : Report}
    (built : module.Built) (finishes : config.finishBodies = true)
    (builtIn : ∀ pass ∈ passes, pass.IsBuiltIn)
    (succeeds : (withBuiltIns config passes).run.apply ⟨module, notes⟩ =
      (.ok report, ⟨after, left⟩)) :
    (announcing config passes).run.apply ⟨module, []⟩ =
        (.ok report, ⟨after, services config passes module⟩) ∧
      ((services config passes module).map Service.asked).Perm
        (module.members.flatMap module.attached) ∧
      ∀ service ∈ services config passes module,
        (Registry.builtIn : Registry ν).editsBodies service.request.rule = true →
          ∃ target body, service.member = .method target ∧
            service.edited = some (editedMethod config service.module target) ∧
            after.bodyOf? (editedMethod config service.module target) = some body ∧
            (∀ method, body.check method = .ok ()) ∧ body.Formed config.policy := by
  have ran := announced_of_run succeeds
  have announced : (Registry.builtIn : Registry ν).AnnouncedBy _ := Registry.announcedBy_builtIn
  have all := (keeps_allEncodable finishes announced builtIn).run ran nofun
  refine ⟨ran, perm_asked built builtIn succeeds, fun service listed edits => ?_⟩
  rw [← announced.editsBodies_eq] at edits
  obtain ⟨target, carries, edited, body, found, fits⟩ := all service listed edits
  exact ⟨target, body, carries, edited, found, fits.valid, fits.formed⟩

/-- A short jump over a placeholder. -/
def skipping : Body :=
  Body.after {} [.newLabel, .append ⟨.brS, .label ⟨0⟩⟩,
    .append ⟨.call, .member (.method "T" "_initblk" "void _initblk()")⟩,
    .append ⟨.ret, .none⟩, .placeLabel ⟨0⟩ 2]

/-- A module with this code in its only method, and a request to substitute the placeholder. -/
def skippingModule : Module :=
  let module : Module := ((Module.addType "" "T").apply { name := "Lib" }).2
  let module := ((Module.addMethod ⟨0⟩
    { name := "M", returnType := "void", declaringType := ⟨0⟩, body := some skipping }).apply module).2
  ((Module.attachRequest (.method ⟨0⟩) { rule := "PatchInitblk" }).apply module).2

theorem built_skippingModule : skippingModule.Built :=
  .request (.method (.type (.empty "Lib") _ _) _ _) _ _

/-- The jump reaches over what the placeholder became. -/
theorem encodable_after_substituting :
    ∃ report after notes body,
      (withBuiltIns { intoStateMachines := false } [.formBranches]).run.apply
          (⟨skippingModule, []⟩ : Noted Unit Module) = (.ok report, ⟨after, notes⟩) ∧
        after.bodyOf? ⟨0⟩ = some body ∧ (∀ method, body.check method = .ok ()) ∧ body.InReach := by
  have succeeds : ((withBuiltIns { intoStateMachines := false } [.formBranches]).run.apply
      (⟨skippingModule, []⟩ : Noted Unit Module)).1.isOk = true := by
    decide +kernel
  have builtIn : ∀ pass ∈ [Pass.formBranches], pass.IsBuiltIn := by
    intro pass listed
    rw [List.mem_singleton.1 listed]
    exact .formBranches none
  have edits : (Registry.builtIn : Registry Unit).editsBodies "PatchInitblk" = true := by
    rw [Registry.builtIn_eq]
    rfl
  have attached : skippingModule.members.flatMap skippingModule.attached =
      [(.method ⟨0⟩, { rule := "PatchInitblk" })] := rfl
  rcases ran : (withBuiltIns { intoStateMachines := false } [.formBranches]).run.apply
      (⟨skippingModule, []⟩ : Noted Unit Module) with ⟨error | report, ⟨after, notes⟩⟩
  · rw [ran] at succeeds
    cases succeeds
  · obtain ⟨_, asked, fit⟩ := encodable_after_run built_skippingModule rfl builtIn ran
    rw [attached, List.perm_singleton] at asked
    obtain ⟨service, listed, asks⟩ := List.mem_map.1 (asked ▸ List.mem_singleton_self _)
    obtain ⟨carries, requested⟩ := Prod.mk.inj asks
    obtain ⟨target, body, same, _, found, valid, formed⟩ :=
      fit service listed (by rw [requested]; exact edits)
    obtain rfl : target = ⟨0⟩ := MemberId.method.inj (same.symm.trans carries)
    exact ⟨report, after, notes, body, rfl, found, valid, formed⟩

end Patcher
end Retrofit

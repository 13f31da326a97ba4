import Retrofit.Proofs.Rule.Declaration
import Retrofit.Proofs.Rule.Registry
import Retrofit.Proofs.Run.Traversal

/-!
The services of a run: which request was served on which member, by a rule that saw which module. A
run whose rules announce each service notes them all, and is otherwise the run without announcements
(`announced_of_run`).
-/

namespace Retrofit

/-- A request that was served: the module as it was then, the member that carries the request, and
the method whose body was edited, if the rule was one for bodies. -/
structure Service where
  module : Module
  member : MemberId
  request : Request
  edited : Option MethodId

namespace Service

def ofMember (module : Module) (task : MemberTask) : Service :=
  ⟨module, task.target, task.request, none⟩

/-- The module of a task on a body lacks the body. -/
def ofBody (task : BodyTask) (body : Body) : Service :=
  ⟨task.module.withMethod task.method fun method => { method with body := some body },
    .method task.target, task.request, some task.method⟩

/-- The edited method, where it is another than the one that carries the request. -/
def elsewhere (service : Service) : Option MethodId :=
  service.edited.filter fun method => .method method ≠ service.member

/-- What a report says of a service. -/
def entry (service : Service) : Application where
  rule := service.request.rule
  member := service.module.nameOf service.member
  elsewhere := service.elsewhere.map service.module.methodName

end Service

/-- The rule, which announces every service before it begins. -/
def Rule.announced (rule : Rule Service) : Rule Service :=
  match rule.handler with
  | .member serve =>
    { rule with
      handler := .member fun task => do
        let noted ← get
        Noted.note (.ofMember noted.state.module task)
        serve task }
  | .body serve =>
    { rule with
      handler := .body fun task => do
        let noted ← get
        Noted.note (.ofBody task noted.state.body)
        serve task }

/-- The rules, each of which announces its services. -/
def Registry.announced (registry : Registry Service) : Registry Service :=
  ⟨registry.rules.map Rule.announced⟩

/-- A run whose rules, the built-in ones, announce their services. -/
def Patcher.announcing (config : Config) (passes : List Pass) : Patcher Service :=
  ⟨Registry.builtIn.announced, config, passes⟩

/-- The services of a run with the built-in rules, in order. -/
def Patcher.services (config : Config) (passes : List Pass) (module : Module) : List Service :=
  ((announcing config passes).run.apply ⟨module, []⟩).2.notes

namespace Rule

/-- A rule that leaves no notes of its own, and the same rule with its announcements. If it is one for
declarations, it leaves what they do not matter to, such as members, requests and bodies. -/
inductive AnnouncedBy : Rule ν → Rule Service → Prop where
  | member (name description : String) (serve : MemberTask → Edit Workspace Unit)
      (keeps : ∀ {property : Module → Prop}, Indifferent property → ∀ task,
        (serve task).Keeps fun workspace => property workspace.module) :
      AnnouncedBy (onMember name description serve) (onMember name description serve).announced
  | body (name description : String) (serve : BodyTask → Edit Cursor Unit) :
      AnnouncedBy (onBody name description serve) (onBody name description serve).announced

variable {rule : Rule ν} {watched : Rule Service}

theorem AnnouncedBy.name_eq (same : rule.AnnouncedBy watched) : rule.name = watched.name := by
  cases same <;> rfl

theorem performs_announced_member (serve : MemberTask → Edit Workspace Unit) (task : MemberTask) :
    Noted.Performs (fun workspace => [Service.ofMember workspace.module task]) (serve task) (do
      let noted ← get
      Noted.note (.ofMember noted.state.module task)
      Noted.quietly (serve task)) :=
  .get_bind fun _ => (Noted.performs_quietly (serve task)).note_bind

theorem performs_announced_body (serve : BodyTask → Edit Cursor Unit) (task : BodyTask) :
    Noted.Performs (fun cursor => [Service.ofBody task cursor.body]) (serve task) (do
      let noted ← get
      Noted.note (.ofBody task noted.state.body)
      Noted.quietly (serve task)) :=
  .get_bind fun _ => (Noted.performs_quietly (serve task)).note_bind

theorem announcedBy_builtIn :
    List.Forall₂ AnnouncedBy (builtIn : List (Rule ν)) (builtIn.map announced) :=
  .cons (.member _ _ _ fun indifferent => indifferent.enterAt) <|
  .cons (.member _ _ _ fun indifferent => indifferent.implementInterface) <|
  .cons (.member _ _ _ fun indifferent => indifferent.renameTarget) <|
  .cons (.body _ _ _) <| .cons (.body _ _ _) <| .cons (.body _ _ _) <| .cons (.body _ _ _) <|
  .cons (.body _ _ _) <| .cons (.body _ _ _) .nil

end Rule

namespace Registry

/-- Under every name there is a rule and the same rule with announcements, or none at all. -/
def AnnouncedBy (registry : Registry ν) (announced : Registry Service) : Prop :=
  ∀ name, Option.Rel Rule.AnnouncedBy (registry.get? name) (announced.get? name)

theorem AnnouncedBy.get? {registry : Registry ν} {announced : Registry Service}
    (same : registry.AnnouncedBy announced) {name : String} {rule : Rule ν}
    (found : registry.get? name = some rule) :
    ∃ other, announced.get? name = some other ∧ rule.AnnouncedBy other := by
  have related := same name
  rw [found] at related
  generalize announced.get? name = other at related
  cases related with
  | some same => exact ⟨_, rfl, same⟩

theorem AnnouncedBy.get?_plain {registry : Registry ν} {announced : Registry Service}
    (same : registry.AnnouncedBy announced) {name : String} {other : Rule Service}
    (found : announced.get? name = some other) :
    ∃ rule, registry.get? name = some rule ∧ rule.AnnouncedBy other := by
  have related := same name
  rw [found] at related
  generalize registry.get? name = rule at related
  cases related with
  | some same => exact ⟨_, rfl, same⟩

theorem announcedBy_builtIn : (builtIn : Registry ν).AnnouncedBy builtIn.announced := by
  intro name
  rw [get?, get?, announced, rules_builtIn, rules_builtIn]
  exact Rule.rel_find? (fun _ _ => Rule.AnnouncedBy.name_eq) Rule.announcedBy_builtIn name

end Registry

namespace Patcher

/-- A run and one with announcements at the same point. -/
def Beside : Noted ν Progress → Option (Noted Service Progress) → Prop :=
  Edit.Both fun plain announced => plain.state = announced.state

open Edit (Follows)

variable {config : Config} {member : MemberId} {request : Request} {state after : Progress}
  {elsewhere : Option String}

/-- A task on a body, put together with it, was made from the module that has it. -/
theorem ofBody_taskFor {module : Module} {target : MethodId} {body : Body}
    (found : module.bodyOf? (editedMethod config module target) = some body) :
    Service.ofBody (taskFor config module target request) body =
      ⟨module, .method target, request, some (editedMethod config module target)⟩ := by
  have restored : ((module.withMethod (editedMethod config module target) fun method =>
        { method with body := none }).withMethod (editedMethod config module target) fun method =>
          { method with body := some body }) = module := by
    rw [Module.withMethod_withMethod]
    refine Module.withMethod_of_same fun method listed => ?_
    rw [Module.bodyOf?, listed, Option.bind_some] at found
    rw [← found]
  exact congrArg (Service.mk · _ _ _) restored

/-- A rule that announces its services does the same to the state. -/
theorem serve_announced {rule : Rule ν} {watched : Rule Service} (same : rule.AnnouncedBy watched)
    {notes left : List ν} (services : List Service)
    (served : (serve config rule member request).apply ⟨state, notes⟩ = (.ok elsewhere, ⟨after, left⟩)) :
    ∃ more, (serve config watched member request).apply ⟨state, services⟩ =
      (.ok elsewhere, ⟨after, more⟩) := by
  obtain ⟨⟨module, ledger⟩, report⟩ := state
  cases same with
  | member name description serve keeps =>
    obtain ⟨reached, ran, rfl, ended⟩ :=
      (serve_eq_ok_of_member rfl fun task => Noted.performs_quietly (serve task)).1 served
    obtain rfl := congrArg Noted.state ended
    exact ⟨_, (serve_eq_ok_of_member rfl (Rule.performs_announced_member serve)).2
      ⟨reached, ran, rfl, rfl⟩⟩
  | body name description serve =>
    obtain ⟨target, carries, body, widened, cursor, found, worked, rfl, ended⟩ :=
      (serveOnBody_eq_ok fun task => Noted.performs_quietly (serve task)).1 served
    obtain rfl := congrArg Noted.state ended
    exact ⟨_, (serveOnBody_eq_ok (Rule.performs_announced_body serve)).2
      ⟨target, carries, body, widened, cursor, found, worked, rfl, rfl⟩⟩

theorem serve_announced_onBody (config : Config) (name description : String)
    (handler : BodyTask → Edit Cursor Unit) (member : MemberId) (request : Request) :
    serve config (Rule.onBody name description handler).announced member request =
      serveOnBody config (fun task => do
        let noted ← get
        Noted.note (.ofBody task noted.state.body)
        Noted.quietly (handler task)) member request :=
  rfl

theorem tracks_announced {registry : Registry ν} {watched : Registry Service}
    (announced : registry.AnnouncedBy watched) (passes : List Pass) :
    Tracks Beside ⟨registry, config, passes⟩ ⟨watched, config, passes⟩ where
  outlines := by
    rintro left right ⟨_, ⟨⟩, same⟩
    rw [same]
  dropServed := rfl
  serves member request := by
    refine .both ?_
    rintro ⟨state, notes⟩ ⟨_, services⟩ ⟨⟩ _ final done
    obtain ⟨rule, elsewhere, ⟨after, left⟩, found, served, rfl⟩ := serveRequest_eq_ok.1 done
    obtain ⟨other, looked, same⟩ := announced.get? found
    obtain ⟨more, again⟩ := serve_announced same services served
    exact ⟨_, serveRequest_eq_ok.2 ⟨other, elsewhere, _, looked, again, rfl⟩, rfl⟩
  drops member := by
    refine .both ?_
    rintro ⟨⟨⟨module, ledger⟩, report⟩, notes⟩ ⟨_, services⟩ ⟨⟩ value final done
    rw [Step.apply_onModule] at done
    obtain ⟨dropped, rfl⟩ := Prod.mk.inj done
    exact ⟨_, Prod.ext dropped rfl, rfl⟩

theorem follows_makePass (pass : Pass) :
    Follows Beside (makePass config pass : Step ν Unit) (makePass config pass) Beside := by
  refine .both ?_
  rintro ⟨⟨⟨module, ledger⟩, report⟩, notes⟩ ⟨_, services⟩ ⟨⟩ _ final done
  obtain ⟨changed, after, made, rfl⟩ := makePass_eq_ok.1 done
  exact ⟨_, makePass_eq_ok.2 ⟨changed, after, made, rfl⟩, rfl⟩

/-- A run with announcements is otherwise the same run. -/
theorem announced_of_run {passes : List Pass} {module after : Module} {notes left : List ν}
    {report : Report}
    (succeeds : (withBuiltIns config passes).run.apply ⟨module, notes⟩ =
      (.ok report, ⟨after, left⟩)) :
    (announcing config passes).run.apply ⟨module, []⟩ =
      (.ok report, ⟨after, services config passes module⟩) := by
  obtain ⟨done, stepped, rfl, ended⟩ := run_eq_ok.1 succeeds
  obtain rfl := congrArg Noted.state ended
  have follows : Follows Beside (withBuiltIns config passes : Patcher ν).steps
      (announcing config passes).steps Beside :=
    (tracks_announced Registry.announcedBy_builtIn passes).steps (fun _ _ held => held) rfl
      fun pass _ => follows_makePass pass
  obtain ⟨reached, ran, final, rfl, same⟩ :=
    follows _ (some ⟨⟨⟨module, {}⟩, {}⟩, []⟩) ⟨_, rfl, rfl⟩ () done stepped
  cases ran with
  | succeeds stepped =>
    have ran : (announcing config passes).run.apply ⟨module, []⟩ = _ :=
      run_eq_ok.2 ⟨final, stepped, rfl, rfl⟩
    rw [services, ran, same]

end Patcher
end Retrofit

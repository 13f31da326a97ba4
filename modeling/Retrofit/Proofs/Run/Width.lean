import Retrofit.Proofs.Pass.Width
import Retrofit.Proofs.Rule.Width
import Retrofit.Proofs.Run.Services

/-!
Runs that make all branches long, beside runs that fit them. They leave the same module up to the
width of branches, unless type tests are to be extended in a body that the run has finished before:
there the rule looks for short branches, and the first run has left none (`run_allLong_iff`).
-/

namespace Retrofit

/-- The earlier service keeps the later one from succeeding if bodies are finished with all branches
long: the later one looks for type tests in the body that the earlier one edited. -/
def Service.Hinders (earlier later : Service) : Prop :=
  later.request.rule = "PatchTypeCheck" ∧ earlier.edited.isSome ∧ earlier.edited = later.edited

instance (earlier later : Service) : Decidable (earlier.Hinders later) :=
  inferInstanceAs (Decidable (_ ∧ _ ∧ _))

/-- No service is hindered by one before it. -/
def Unhindered (services : List Service) : Prop :=
  services.Pairwise fun earlier later => ¬ earlier.Hinders later

instance (services : List Service) : Decidable (Unhindered services) :=
  inferInstanceAs (Decidable (services.Pairwise _))

theorem unhindered_append {services : List Service} {service : Service} :
    Unhindered (services ++ [service]) ↔
      Unhindered services ∧ ∀ earlier ∈ services, ¬ earlier.Hinders service := by
  simp [Unhindered, List.pairwise_append]

namespace Rule

/-- A rule that announces its services, and the same rule without. All but the one for type tests do
the same whatever the width of branches. -/
inductive Matches : Rule Service → Rule ν → Prop where
  | member (name description : String) (serve : MemberTask → Edit Workspace Unit)
      (follow : ∀ chosen task, Workspace.Follow chosen (serve task) (serve task)) :
      Matches (onMember name description serve).announced (onMember name description serve)
  | body (name description : String) (serve : BodyTask → Edit Cursor Unit) (blind : Blind serve)
      (other : name ≠ "PatchTypeCheck") :
      Matches (onBody name description serve).announced (onBody name description serve)
  | typeTests (description : String) :
      Matches (onBody "PatchTypeCheck" description extendTypeTests).announced
        (onBody "PatchTypeCheck" description extendTypeTests)

theorem Matches.name_eq {watched : Rule Service} {rule : Rule ν} (same : watched.Matches rule) :
    watched.name = rule.name := by
  cases same <;> rfl

theorem matches_builtIn :
    List.Forall₂ Matches (builtIn.map announced) (builtIn : List (Rule ν)) :=
  .cons (.member _ _ _ follow_enterAt) <|
  .cons (.member _ _ _ follow_implementInterface) <|
  .cons (.member _ _ _ follow_renameTarget) <|
  .cons (.body _ _ _ (blind_substituteAll _ _) (by decide)) <|
  .cons (.body _ _ _ blind_substituteNamed (by decide)) <|
  .cons (.typeTests _) <|
  .cons (.body _ _ _ blind_widenCondition (by decide)) <|
  .cons (.body _ _ _ blind_loadFieldDirectly (by decide)) <|
  .cons (.body _ _ _ blind_guardCall (by decide)) .nil

end Rule

namespace Registry

/-- For every rule of the first registry the second has the same one, without announcements. -/
def Matches (watched : Registry Service) (registry : Registry ν) : Prop :=
  ∀ name announced, watched.get? name = some announced →
    ∃ rule, registry.get? name = some rule ∧ rule.name = name ∧ announced.Matches rule

theorem matches_builtIn : builtIn.announced.Matches (builtIn : Registry ν) := by
  intro name announced found
  have related := Rule.rel_find? (fun _ _ => Rule.Matches.name_eq) (@Rule.matches_builtIn ν) name
  rw [get?, Registry.announced, rules_builtIn] at found
  rw [found] at related
  rw [get?, rules_builtIn]
  generalize looked : Rule.builtIn.find? (fun rule : Rule ν => rule.name = name) = rule at related
  cases related with
  | some same =>
    have named := List.find?_some looked
    exact ⟨_, rfl, of_decide_eq_true named, same⟩

end Registry

namespace Patcher

open Cursor (SameButWidths)

variable {config : Config}

theorem editedMethod_lengthenedAt (config : Config) (chosen : MethodId → Bool) (module : Module)
    (target : MethodId) :
    editedMethod { config with policy := .allLong } (module.lengthenedAt chosen) target =
      editedMethod { config with policy := .fitting } module target := by
  rw [editedMethod, editedMethod, Module.stateMachine?_lengthenedAt]

theorem nameElsewhere_lengthenedAt (config : Config) (chosen : MethodId → Bool) (module : Module)
    (target : MethodId) :
    nameElsewhere { config with policy := .allLong } (module.lengthenedAt chosen) target =
      nameElsewhere { config with policy := .fitting } module target := by
  have name (id : MethodId) : (module.lengthenedAt chosen).methodName id = module.methodName id :=
    Module.nameOf_lengthenedAt chosen module (.method id)
  rw [nameElsewhere, nameElsewhere, editedMethod_lengthenedAt, name]

/-- Settled with all branches long, a body is what it is with fitting ones, up to their width. -/
theorem settle_allLong (finishes : config.finishBodies = true) {name : String}
    {left right cursor : Cursor} {widened : Option Nat} (same : SameButWidths left right)
    (settled : (settle { config with policy := .fitting } name).apply left =
      (.ok widened, cursor)) :
    ∃ again, (settle { config with policy := .allLong } name).apply right =
      (.ok again, { right with body := cursor.body.lengthened }) := by
  rw [settle, if_pos finishes] at settled ⊢
  obtain ⟨count, _, finished, ended⟩ := Edit.bind_eq_ok.1 settled
  cases ended
  rw [Cursor.apply_onBody] at finished
  obtain ⟨outcome, rfl⟩ := Prod.mk.inj finished
  obtain ⟨again, ran⟩ := Body.finish_allLong same.body (Prod.ext outcome rfl)
  exact ⟨some again, Edit.bind_eq_ok.2 ⟨again, _, by rw [Cursor.apply_onBody, ran], rfl⟩⟩

theorem outlined_taskFor (config : Config) (chosen : MethodId → Bool) (module : Module)
    (target : MethodId) (request : Request) :
    (taskFor { config with policy := .allLong } (module.lengthenedAt chosen) target
        request).outlined =
      (taskFor { config with policy := .fitting } module target request).outlined := by
  have bare (module : Module) (id : MethodId) :
      (module.withMethod id fun method => { method with body := none }).outline = module.outline :=
    Module.outline_withMethod module id fun _ => rfl
  simp only [taskFor, BodyTask.outlined, bare, Module.outline_lengthenedAt,
    editedMethod_lengthenedAt]

section Work

variable {serve : BodyTask → Edit Cursor Unit} {module : Module} {target : MethodId}
  {request : Request} {body other : Body} {widened : Option Nat} {cursor : Cursor}

/-- Work that begins in the same way is settled in the same way, up to the width of branches. -/
theorem workOn_of_serves (outlined : ∀ task : BodyTask, serve task.outlined = serve task)
    (serves : ∀ task method between, (serve task).apply { body, method } = (.ok (), between) →
      ∃ reached, (serve task).apply { body := other, method } = (.ok (), reached) ∧
        (reached = between ∨ config.finishBodies = true ∧ SameButWidths between reached))
    (worked : workOn { config with policy := .fitting } serve module target request body =
      (.ok widened, cursor)) (chosen : MethodId → Bool) :
    ∃ again reached, workOn { config with policy := .allLong } serve (module.lengthenedAt chosen)
        target request other = (.ok again, reached) ∧
      reached.body = if config.finishBodies then cursor.body.lengthened else cursor.body := by
  have task := outlined_taskFor config chosen module target request
  have name (id : MethodId) : (module.lengthenedAt chosen).methodName id = module.methodName id :=
    Module.nameOf_lengthenedAt chosen module (.method id)
  obtain ⟨_, between, served, settled⟩ := Edit.bind_eq_ok.1 worked
  obtain ⟨reached, again, same⟩ := serves _ _ _ served
  rw [workOn, ← outlined (taskFor _ (module.lengthenedAt chosen) target request), task, outlined,
    editedMethod_lengthenedAt, name]
  by_cases finishes : config.finishBodies = true
  · have widths : SameButWidths between reached := by
      rcases same with rfl | ⟨_, widths⟩
      · rfl
      · exact widths
    obtain ⟨count, ended⟩ := settle_allLong finishes widths settled
    exact ⟨count, _, Edit.bind_eq_ok.2 ⟨(), reached, again, ended⟩, (if_pos finishes).symm⟩
  · obtain rfl : reached = between := by
      rcases same with same | ⟨finished, _⟩
      · exact same
      · exact absurd finished finishes
    refine ⟨widened, cursor, Edit.bind_eq_ok.2 ⟨(), reached, again, ?_⟩, (if_neg finishes).symm⟩
    rw [settle, if_neg finishes] at settled ⊢
    exact settled

theorem workOn_again (outlined : ∀ task : BodyTask, serve task.outlined = serve task)
    (worked : workOn { config with policy := .fitting } serve module target request body =
      (.ok widened, cursor)) (chosen : MethodId → Bool) :
    ∃ again reached, workOn { config with policy := .allLong } serve (module.lengthenedAt chosen)
        target request body = (.ok again, reached) ∧
      reached.body = if config.finishBodies then cursor.body.lengthened else cursor.body :=
  workOn_of_serves outlined (fun _ _ between served => ⟨between, served, .inl rfl⟩) worked chosen

theorem workOn_lengthened (finishes : config.finishBodies = true) (blind : Rule.Blind serve)
    (worked : workOn { config with policy := .fitting } serve module target request body =
      (.ok widened, cursor)) (chosen : MethodId → Bool) :
    ∃ again reached, workOn { config with policy := .allLong } serve (module.lengthenedAt chosen)
        target request body.lengthened = (.ok again, reached) ∧
      reached.body = if config.finishBodies then cursor.body.lengthened else cursor.body := by
  refine workOn_of_serves blind.outlined (fun task method between served => ?_) worked chosen
  have alike := Cursor.sameButWidths_lengthened { body, method }
  obtain ⟨_, follows, reached, rfl, same⟩ :=
    blind.follow task _ _ ⟨_, rfl, alike⟩ () between served
  cases follows with
  | succeeds ran => exact ⟨reached, ran, .inr ⟨finishes, same⟩⟩

end Work

/-- The methods whose bodies have been finished in the course of some services. -/
def finished (config : Config) (services : List Service) (id : MethodId) : Bool :=
  config.finishBodies && services.any fun service => service.edited = some id

theorem finished_of_member {service : Service} (edits : service.edited = none)
    (services : List Service) :
    finished config (services ++ [service]) = finished config services := by
  funext id
  simp [finished, edits]

theorem finished_of_body {service : Service} {edited : MethodId}
    (edits : service.edited = some edited) (services : List Service) :
    finished config (services ++ [service]) = fun id =>
      if id = edited then config.finishBodies else finished config services id := by
  funext id
  by_cases same : id = edited
  · simp [finished, edits, same]
  · simp [finished, edits, same, Ne.symm same]

/-- A run that fits branches and one that makes them all long, at the same point. The second one has
come this far if no service was hindered, and its bodies are then those of the first one with all
branches long that were finished. -/
def BesideLong (config : Config) (left : Noted Service Progress) :
    Option (Noted ν Progress) → Prop
  | some right =>
    (config.finishBodies = true → Unhindered left.notes) ∧
      right.state.workspace = left.state.workspace.lengthenedAt (finished config left.notes)
  | none => config.finishBodies = true ∧ ¬ Unhindered left.notes

section Beside

variable {member : MemberId} {request : Request} {module : Module} {ledger : Ledger}
  {report other : Report} {services : List Service} {notes : List ν} {elsewhere : Option String}
  {final : Noted Service Progress}

theorem serve_allLong_member {handler : MemberTask → Edit Workspace Unit}
    {name description : String}
    (follow : ∀ chosen task, Workspace.Follow chosen (handler task) (handler task))
    (unhindered : config.finishBodies = true → Unhindered services)
    (served : (serve { config with policy := .fitting }
      (Rule.onMember name description handler).announced member request).apply
        ⟨⟨⟨module, ledger⟩, report⟩, services⟩ = (.ok elsewhere, final)) :
    ∃ reached, (serve { config with policy := .allLong }
        (Rule.onMember name description handler) member request).apply
          ⟨⟨⟨module.lengthenedAt (finished config services), ledger⟩, other⟩, notes⟩ =
        (.ok elsewhere, reached) ∧ BesideLong config final (some reached) := by
  obtain ⟨workspace, ran, rfl, rfl⟩ :=
    (serve_eq_ok_of_member rfl (Rule.performs_announced_member handler)).1 served
  obtain ⟨_, follows, _, rfl, rfl⟩ :=
    follow (finished config services) ⟨member, request⟩ _ _ ⟨_, rfl, rfl⟩ () workspace ran
  cases follows with
  | succeeds again =>
    refine ⟨_, (serve_eq_ok_of_member rfl fun task => Noted.performs_quietly (handler task)).2
      ⟨_, again, rfl, rfl⟩, fun finishes => ?_, ?_⟩
    · refine unhindered_append.2 ⟨unhindered finishes, fun earlier _ hinders => ?_⟩
      obtain ⟨_, edits, same⟩ := hinders
      rw [same] at edits
      cases edits
    · rw [finished_of_member rfl]

/-- A request on a body, which must not have been finished unless the rule works in either width. -/
theorem serveOnBody_allLong {handler : BodyTask → Edit Cursor Unit} {target : MethodId}
    (outlined : ∀ task : BodyTask, handler task.outlined = handler task)
    (blind : finished config services
      (editedMethod { config with policy := .fitting } module target) = true → Rule.Blind handler)
    (unhindered : ∀ body, config.finishBodies = true → Unhindered (services ++
      [.ofBody (taskFor { config with policy := .fitting } module target request) body]))
    (served : (serveOnBody { config with policy := .fitting }
        (fun task => do
          let noted ← get
          Noted.note (.ofBody task noted.state.body)
          Noted.quietly (handler task))
        (.method target) request).apply
        ⟨⟨⟨module, ledger⟩, report⟩, services⟩ = (.ok elsewhere, final)) :
    ∃ reached, (serveOnBody { config with policy := .allLong }
        (fun task => Noted.quietly (handler task)) (.method target) request).apply
          ⟨⟨⟨module.lengthenedAt (finished config services), ledger⟩, other⟩, notes⟩ =
        (.ok elsewhere, reached) ∧ BesideLong config final (some reached) := by
  obtain ⟨_, ⟨⟩, body, widened, cursor, found, worked, rfl, rfl⟩ :=
    (serveOnBody_eq_ok (Rule.performs_announced_body handler)).1 served
  have edited := editedMethod_lengthenedAt config (finished config services) module target
  have there := Module.bodyOf?_lengthenedAt (finished config services) module
    (editedMethod { config with policy := .fitting } module target)
  rw [found, Option.map_some, ← edited] at there
  have works : ∃ again reached, workOn { config with policy := .allLong } handler
      (module.lengthenedAt (finished config services)) target request
        (if finished config services (editedMethod { config with policy := .fitting } module target)
          then body.lengthened else body) = (.ok again, reached) ∧
      reached.body = if config.finishBodies then cursor.body.lengthened else cursor.body := by
    split
    · next before =>
      have finishes : config.finishBodies = true := (Bool.and_eq_true_iff.1 before).1
      exact workOn_lengthened finishes (blind before) worked _
    · exact workOn_again outlined worked _
  obtain ⟨again, reached, ran, bodies⟩ := works
  have named := nameElsewhere_lengthenedAt config (finished config services) module target
  have body := Module.lengthenedAt_withBody (finished config services) module
    (editedMethod { config with policy := .fitting } module target) config.finishBodies cursor.body
  rw [← edited] at ran
  refine ⟨_, (serveOnBody_eq_ok fun task => Noted.performs_quietly (handler task)).2
    ⟨target, rfl, _, again, reached, there, ran, named.symm, rfl⟩, unhindered _, ?_⟩
  rw [finished_of_body rfl, bodies, edited]
  exact congrArg (Workspace.mk · ledger) body.symm

/-- Type tests in a body that was finished cannot be extended when all its branches are long. -/
theorem serveOnBody_typeTests_ne_ok {chosen : MethodId → Bool} {target : MethodId}
    {reached : Noted ν Progress}
    (before : chosen (editedMethod { config with policy := .fitting } module target) = true) :
    (serveOnBody { config with policy := .allLong }
        (fun task => Noted.quietly (Rule.extendTypeTests task)) (.method target) request).apply
          ⟨⟨⟨module.lengthenedAt chosen, ledger⟩, other⟩, notes⟩ ≠ (.ok elsewhere, reached) := by
  intro served
  obtain ⟨_, ⟨⟩, body, _, _, found, worked, _⟩ :=
    (serveOnBody_eq_ok fun task => Noted.performs_quietly (Rule.extendTypeTests task)).1 served
  rw [editedMethod_lengthenedAt, Module.bodyOf?_lengthenedAt, before] at found
  obtain ⟨old, _, rfl⟩ := Option.map_eq_some_iff.1 found
  obtain ⟨_, between, extended, _⟩ := Edit.bind_eq_ok.1 worked
  exact (Rule.ensures_extendTypeTests_of_allLong _).of_eq_ok extended old.allLong_lengthened

theorem unhindered_ofBody (task : BodyTask) (body : Body) (unhindered : Unhindered services) :
    Unhindered (services ++ [.ofBody task body]) ↔
      (task.request.rule = "PatchTypeCheck" →
        ∀ earlier ∈ services, earlier.edited ≠ some task.method) := by
  rw [unhindered_append]
  constructor
  · rintro ⟨_, free⟩ named earlier listed same
    exact free earlier listed ⟨named, by rw [same]; rfl, same⟩
  · intro free
    exact ⟨unhindered, fun earlier listed hinders => free hinders.1 earlier listed hinders.2.2⟩

/-- The second run serves a request as the first one did, or has come to a hindered service. -/
theorem serve_allLong {watched : Rule Service} {rule : Rule ν} (twins : watched.Matches rule)
    (named : rule.name = request.rule)
    (unhindered : config.finishBodies = true → Unhindered services)
    (served : (serve { config with policy := .fitting } watched member request).apply
        ⟨⟨⟨module, ledger⟩, report⟩, services⟩ = (.ok elsewhere, final)) :
    ∃ reached, Edit.Reaches (serve { config with policy := .allLong } rule member request) elsewhere
        (some ⟨⟨⟨module.lengthenedAt (finished config services), ledger⟩, other⟩, notes⟩) reached ∧
      BesideLong config final reached := by
  cases twins with
  | member name description handler follow =>
    obtain ⟨reached, again, beside⟩ := serve_allLong_member follow unhindered served
    exact ⟨_, .succeeds again, beside⟩
  | body name description handler blind apart =>
    rw [serve_announced_onBody] at served
    obtain ⟨target, rfl, _⟩ :=
      (serveOnBody_eq_ok (Rule.performs_announced_body handler)).1 served
    have free (body : Body) (finishes : config.finishBodies = true) := (unhindered_ofBody
      (taskFor { config with policy := .fitting } module target request) body
        (unhindered finishes)).2 fun same => absurd (named.trans same) apart
    obtain ⟨reached, again, beside⟩ :=
      serveOnBody_allLong blind.outlined (fun _ => blind) free served
    exact ⟨_, .succeeds again, beside⟩
  | typeTests description =>
    rw [serve_announced_onBody] at served
    obtain ⟨target, rfl, _, _, _, _, _, _, ended⟩ :=
      (serveOnBody_eq_ok (Rule.performs_announced_body Rule.extendTypeTests)).1 served
    by_cases before : finished config services
        (editedMethod { config with policy := .fitting } module target) = true
    -- The second run has left no short branch here, so it fails, and a service was hindered.
    · refine ⟨none, .of_not_ok _ fun _ _ => serveOnBody_typeTests_ne_ok before, ?_⟩
      obtain ⟨finishes, edited⟩ := Bool.and_eq_true_iff.1 before
      obtain ⟨earlier, listed, same⟩ := List.any_eq_true.1 edited
      refine ⟨finishes, fun free => ?_⟩
      rw [ended, unhindered_ofBody _ _ (unhindered finishes)] at free
      exact free named.symm earlier listed (of_decide_eq_true same)
    · have free (body : Body) (finishes : config.finishBodies = true) := (unhindered_ofBody
        (taskFor { config with policy := .fitting } module target request) body
          (unhindered finishes)).2 fun _ earlier listed same => before (Bool.and_eq_true_iff.2
            ⟨finishes, List.any_eq_true.2 ⟨earlier, listed, decide_eq_true same⟩⟩)
      obtain ⟨reached, again, beside⟩ :=
        serveOnBody_allLong (fun _ => rfl) (fun was => absurd was before) free served
      exact ⟨_, .succeeds again, beside⟩

section Registries

variable {watched : Registry Service} {registry : Registry ν} {passes : List Pass}

theorem serveRequest_allLong (twins : watched.Matches registry)
    {left final : Noted Service Progress} {right : Noted ν Progress}
    (beside : BesideLong config left (some right))
    (served : (serveRequest ⟨watched, { config with policy := .fitting }, passes⟩ member
      request).apply left = (.ok (), final)) :
    ∃ reached, Edit.Reaches (serveRequest ⟨registry, { config with policy := .allLong }, passes⟩
        member request) () (some right) reached ∧ BesideLong config final reached := by
  obtain ⟨⟨⟨module, ledger⟩, report⟩, services⟩ := left
  obtain ⟨⟨workspace, other⟩, notes⟩ := right
  obtain ⟨unhindered, same⟩ := beside
  dsimp only [Workspace.lengthenedAt] at unhindered same
  subst same
  obtain ⟨announced, elsewhere, _, found, ran, rfl⟩ := serveRequest_eq_ok.1 served
  obtain ⟨rule, looked, named, twin⟩ := twins request.rule announced found
  obtain ⟨_, again, beside⟩ := serve_allLong twin named unhindered ran
  cases again with
  | succeeds again =>
    exact ⟨_, .succeeds (serveRequest_eq_ok.2 ⟨rule, elsewhere, _, looked, again, rfl⟩), beside⟩
  | fails failed =>
    refine ⟨none, .of_not_ok () fun _ _ succeeds => ?_, beside⟩
    obtain ⟨_, _, _, there, again, _⟩ := serveRequest_eq_ok.1 succeeds
    cases looked.symm.trans there
    rw [failed] at again
    cases again

theorem announced_of_serveRequest (twins : watched.Matches registry)
    {left final : Noted Service Progress}
    (served : (serveRequest ⟨watched, config, passes⟩ member request).apply left =
      (.ok (), final)) : ∃ service, final.notes = left.notes ++ [service] := by
  obtain ⟨announced, elsewhere, _, found, ran, rfl⟩ := serveRequest_eq_ok.1 served
  obtain ⟨rule, _, _, twin⟩ := twins request.rule announced found
  obtain ⟨⟨⟨module, ledger⟩, report⟩, services⟩ := left
  cases twin with
  | member name description handler follow =>
    obtain ⟨_, _, _, rfl⟩ :=
      (serve_eq_ok_of_member rfl (Rule.performs_announced_member handler)).1 ran
    exact ⟨_, rfl⟩
  | body name description handler blind apart =>
    rw [serve_announced_onBody] at ran
    obtain ⟨_, _, _, _, _, _, _, _, rfl⟩ :=
      (serveOnBody_eq_ok (Rule.performs_announced_body handler)).1 ran
    exact ⟨_, rfl⟩
  | typeTests description =>
    rw [serve_announced_onBody] at ran
    obtain ⟨_, _, _, _, _, _, _, _, rfl⟩ :=
      (serveOnBody_eq_ok (Rule.performs_announced_body Rule.extendTypeTests)).1 ran
    exact ⟨_, rfl⟩

theorem tracks_allLong (twins : watched.Matches registry) (passes : List Pass) :
    Tracks (BesideLong config) ⟨watched, { config with policy := .fitting }, passes⟩
      ⟨registry, { config with policy := .allLong }, passes⟩ where
  outlines := by
    rintro left right ⟨_, same⟩
    rw [same]
    exact Module.outline_lengthenedAt _ left.state.workspace.module
  dropServed := rfl
  serves member request := by
    rintro left (_ | right) beside _ final served
    · obtain ⟨service, noted⟩ := announced_of_serveRequest twins served
      refine ⟨none, .failed, beside.1, fun unhindered => beside.2 ?_⟩
      rw [noted, unhindered_append] at unhindered
      exact unhindered.1
    · exact serveRequest_allLong twins beside served
  drops member := by
    rintro ⟨⟨⟨module, ledger⟩, report⟩, services⟩ (_ | ⟨⟨workspace, other⟩, notes⟩) beside
      _ final done
    · rw [Step.apply_onModule] at done
      obtain ⟨_, rfl⟩ := Prod.mk.inj done
      exact ⟨none, .failed, beside⟩
    · obtain ⟨unhindered, same⟩ := beside
      dsimp only [Workspace.lengthenedAt] at unhindered same
      subst same
      have again : (Module.dropRequests member).apply (module.lengthenedAt _) = _ :=
        Module.ignoresWidths_changeInfo member _ (finished config services) module
      rw [Step.apply_onModule] at done
      obtain ⟨outcome, rfl⟩ := Prod.mk.inj done
      refine ⟨some _, .succeeds (Prod.ext ?_ rfl), unhindered, ?_⟩
      · exact (congrArg Prod.fst again).trans outcome
      · exact congrArg (Workspace.mk · ledger) (congrArg Prod.snd again)

end Registries

end Beside

/-- The same once the passes are under way. They make more branches long, so which bodies the second
run has in the long form is left open. -/
def AlongsideLong (config : Config) (left : Noted Service Progress) :
    Option (Noted ν Progress) → Prop
  | some right =>
    (config.finishBodies = true → Unhindered left.notes) ∧
      left.state.workspace.module.SomeLengthened right.state.workspace.module
  | none => config.finishBodies = true ∧ ¬ Unhindered left.notes

theorem follows_makePass_allLong {pass : Pass} (builtIn : pass.IsBuiltIn) :
    Edit.Follows (AlongsideLong config) (makePass { config with policy := .fitting } pass)
      (makePass { config with policy := .allLong } pass : Step ν Unit) (AlongsideLong config) := by
  rintro ⟨⟨⟨module, ledger⟩, report⟩, services⟩ (_ | ⟨⟨⟨other, claims⟩, told⟩, notes⟩) beside
    _ final done
  · obtain ⟨_, _, _, rfl⟩ := makePass_eq_ok.1 done
    exact ⟨none, .failed, beside⟩
  · obtain ⟨changed, after, made, rfl⟩ := makePass_eq_ok.1 done
    obtain ⟨again, reached, ran, same⟩ :=
      builtIn.keepsUp config module other beside.2 changed after made
    exact ⟨_, .succeeds (makePass_eq_ok.2 ⟨again, reached, ran, rfl⟩), beside.1, same⟩

theorem weaker_besideLong (left : Noted Service Progress) (right : Option (Noted ν Progress))
    (beside : BesideLong config left right) : AlongsideLong config left right := by
  cases right with
  | none => exact beside
  | some right =>
    obtain ⟨unhindered, same⟩ := beside
    exact ⟨unhindered, _, congrArg Workspace.module same⟩

/-- Where a run that fits branches succeeds, one that makes them all long does so, too, just where
no service is hindered: bodies are left alone, or no type tests are extended in a body that was
edited before. The modules are then the same up to the width of branches. -/
theorem run_allLong_iff (config : Config) {passes : List Pass} {module after : Module}
    {notes left : List ν} {report : Report} (builtIn : ∀ pass ∈ passes, pass.IsBuiltIn)
    (fits : (withBuiltIns { config with policy := .fitting } passes).run.apply ⟨module, notes⟩ =
      (.ok report, ⟨after, left⟩)) :
    ((∃ told reached, (withBuiltIns { config with policy := .allLong } passes).run.apply
        ⟨module, notes⟩ = (.ok told, reached)) ↔
      (config.finishBodies = true →
        Unhindered (services { config with policy := .fitting } passes module))) ∧
    ∀ told reached, (withBuiltIns { config with policy := .allLong } passes).run.apply
        ⟨module, notes⟩ = (.ok told, reached) →
      reached.state.lengthened = after.lengthened := by
  obtain ⟨done, stepped, rfl, ended⟩ := run_eq_ok.1 (announced_of_run fits)
  obtain ⟨rfl, noted⟩ := Noted.mk.inj ended
  have follows : Edit.Follows (BesideLong config)
      (announcing { config with policy := .fitting } passes).steps
      (withBuiltIns { config with policy := .allLong } passes : Patcher ν).steps
      (AlongsideLong config) :=
    (tracks_allLong Registry.matches_builtIn passes).steps weaker_besideLong rfl
      fun pass listed => follows_makePass_allLong (builtIn pass listed)
  have start : BesideLong config ⟨⟨⟨module, {}⟩, {}⟩, []⟩
      (some (⟨⟨⟨module, {}⟩, {}⟩, notes⟩ : Noted ν Progress)) := by
    refine ⟨fun _ => .nil, ?_⟩
    have none : finished config [] = fun _ => false := by
      funext id
      simp [finished]
    rw [none, Workspace.lengthenedAt, Module.lengthenedAt_none]
  obtain ⟨_, reaches, beside⟩ := follows _ _ start () done stepped
  rw [noted]
  cases reaches with
  | succeeds ran =>
    obtain ⟨unhindered, chosen, same⟩ := beside
    refine ⟨⟨fun _ => unhindered, fun _ => ⟨_, _, run_eq_ok.2 ⟨_, ran, rfl, rfl⟩⟩⟩, ?_⟩
    intro told reached again
    obtain ⟨final, stepped, _, rfl⟩ := run_eq_ok.1 again
    cases ran.symm.trans stepped
    dsimp only
    rw [same, Module.lengthened_lengthenedAt]
  | fails ran =>
    have never {told : Report} {reached : Noted ν Module} (again :
        (withBuiltIns { config with policy := .allLong } passes).run.apply ⟨module, notes⟩ =
          (.ok told, reached)) : False := by
      obtain ⟨final, stepped, _⟩ := run_eq_ok.1 again
      cases ran.symm.trans stepped
    refine ⟨⟨?_, fun free => absurd (free beside.1) beside.2⟩, fun _ _ again => (never again).elim⟩
    rintro ⟨_, _, again⟩
    exact (never again).elim

/-- A module whose only method goes on if a field is of one type, with requests on this method. -/
def guarded (requests : List Request) : Module where
  name := "Game"
  types :=
    [{ name := "FileSelect", space := "Game", flags := TypeDef.publicFlag, methods := [⟨0⟩] }]
  topLevel := [⟨0⟩]
  methods :=
    [{ name := "Check"
       requests
       returnType := "System.Boolean"
       declaringType := ⟨0⟩
       body := some (Body.after {} [.newLabel, .append ⟨.ldarg0, .none⟩,
         .append ⟨.ldfld, .member (.field "Game.FileSelect" "submenu" "Game.Menu")⟩,
         .append ⟨.isinst, .type "Game.AssistMode"⟩, .append ⟨.brfalseS, .label ⟨0⟩⟩,
         .append ⟨.ldnull, .none⟩, .append ⟨.ret, .none⟩, .append ⟨.ldnull, .none⟩,
         .append ⟨.ret, .none⟩, .placeLabel ⟨0⟩ 6]) }]

/-- The request to let the test in `guarded` pass for another type as well. -/
def acceptAlso (type : String) : Request where
  rule := "PatchTypeCheck"
  args := [.string "Game.AssistMode", .string type]

/-- The type test comes first, and what comes after it does not look at widths. -/
theorem run_allLong_guarded :
    ∃ report after notes told reached,
      (withBuiltIns {} [.formBranches]).run.apply
          (⟨guarded [acceptAlso "Game.Slot", { rule := "PatchInitblk" }], []⟩ : Noted Unit Module) =
        (.ok report, ⟨after, notes⟩) ∧
      (withBuiltIns { policy := .allLong } [.formBranches]).run.apply
          (⟨guarded [acceptAlso "Game.Slot", { rule := "PatchInitblk" }], []⟩ : Noted Unit Module) =
        (.ok told, reached) ∧
      reached.state.lengthened = after.lengthened := by
  have builtIn : ∀ pass ∈ [Pass.formBranches], pass.IsBuiltIn := by
    intro pass listed
    rw [List.mem_singleton.1 listed]
    exact .formBranches none
  have succeeds : ((withBuiltIns {} [.formBranches]).run.apply
      (⟨guarded [acceptAlso "Game.Slot", { rule := "PatchInitblk" }], []⟩ :
        Noted Unit Module)).1.isOk = true := by
    decide +kernel
  have unhindered : Unhindered (services {} [.formBranches]
      (guarded [acceptAlso "Game.Slot", { rule := "PatchInitblk" }])) := by
    decide +kernel
  rcases ran : (withBuiltIns {} [.formBranches]).run.apply
      (⟨guarded [acceptAlso "Game.Slot", { rule := "PatchInitblk" }], []⟩ : Noted Unit Module) with
    ⟨error | report, ⟨after, notes⟩⟩
  · rw [ran] at succeeds
    cases succeeds
  · obtain ⟨succeeds, same⟩ := run_allLong_iff {} builtIn ran
    obtain ⟨told, reached, again⟩ := succeeds.2 fun _ => unhindered
    exact ⟨report, after, notes, told, reached, rfl, again, same told reached again⟩

/-- Two requests to extend the same test are both served where branches are fitted. Where they are
all made long, the second finds no test any more. -/
theorem run_allLong_guarded_twice :
    ((withBuiltIns { policy := .fitting } []).run.apply
        (⟨guarded [acceptAlso "Game.Slot", acceptAlso "Game.Menu"], []⟩ :
          Noted Unit Module)).1.isOk = true ∧
    ((withBuiltIns { policy := .allLong } []).run.apply
        (⟨guarded [acceptAlso "Game.Slot", acceptAlso "Game.Menu"], []⟩ :
          Noted Unit Module)).1.isOk = false :=
  ⟨by decide +kernel, by decide +kernel⟩

end Patcher
end Retrofit

import Mathlib
import Retrofit.Proofs.Module.Nesting
import Retrofit.Proofs.Pass.BuiltIn
import Retrofit.Proofs.Run.Members
import Retrofit.Proofs.Run.Services

/-!
Which requests a run serves, and in which order: each request that is there at the start exactly once,
type by type in depth first order (`served_in_order`).
-/

namespace Retrofit

/-- Whether a rule is one for bodies. -/
def Rule.editsBodies (rule : Rule ν) : Bool :=
  match rule.handler with
  | .body _ => true
  | .member _ => false

/-- Whether the rule of a name is one for bodies. -/
def Registry.editsBodies (registry : Registry ν) (name : String) : Bool :=
  (registry.get? name).any Rule.editsBodies

/-- What a service was asked for. -/
def Service.asked (service : Service) : MemberId × Request := (service.member, service.request)

/-- The requests attached to a member, in order. -/
def Module.attached (module : Module) (member : MemberId) : List (MemberId × Request) :=
  match module.requests member with
  | .ok requests => requests.map (Prod.mk member)
  | .error _ => []

theorem Registry.AnnouncedBy.editsBodies_eq {registry : Registry ν} {watched : Registry Service}
    (announced : registry.AnnouncedBy watched) (name : String) :
    watched.editsBodies name = registry.editsBodies name := by
  have same := announced name
  rw [editsBodies, editsBodies]
  generalize registry.get? name = rule, watched.get? name = other at same
  cases same with
  | none => rfl
  | some same => cases same <;> rfl

namespace Patcher

/-- A run of which the members so far have been served, for what was asked of them. Nothing else has
happened to members and requests. -/
structure Underway (config : Config) (registry : Registry Service) (origin : Module)
    (served : List MemberId) (asked : List (MemberId × Request)) (passes : List String)
    (noted : Noted Service Progress) : Prop where
  parts : noted.state.workspace.module.types.map TypeDef.parts = origin.types.map TypeDef.parts
  requests : ∀ member, noted.state.workspace.module.requests member =
    (origin.requests member).map fun requests =>
      if config.dropServed = true ∧ member ∈ served then [] else requests
  asked : noted.notes.map Service.asked = asked
  applied : noted.state.report.applied = noted.notes.map Service.entry
  finished : noted.state.report.bodiesFinished =
    if config.finishBodies then noted.notes.countP fun service =>
      registry.editsBodies service.request.rule
    else 0
  passes : noted.state.report.passes.map Prod.fst = passes

open Edit (Ensures)

variable {config : Config} {registry : Registry ν} {watched : Registry Service} {origin : Module}
  {served : List MemberId} {asked : List (MemberId × Request)} {passes : List String}
  {made : List Pass}

theorem entry_onBody (module : Module) (target : MethodId) (request : Request) :
    (Service.mk module (.method target) request (some (editedMethod config module target))).entry =
      ⟨request.rule, module.nameOf (.method target), nameElsewhere config module target⟩ := by
  rw [Service.entry, nameElsewhere]
  by_cases same : editedMethod config module target = target <;> simp [Service.elsewhere, same]

/-- What a request is answered with in a module: a service, the workspace after it, and how many
branches became long in the body, if one was brought into form. -/
inductive Answer (config : Config) (watched : Registry Service) (request : Request)
    (module : Module) (ledger : Ledger) : Service → Workspace → Option Nat → Prop where
  | member (target : MemberId) {workspace : Workspace}
      (edits : watched.editsBodies request.rule = false)
      (keeps : ∀ {property : Module → Prop}, Rule.Indifferent property → property module →
        property workspace.module) :
      Answer config watched request module ledger (.ofMember module ⟨target, request⟩) workspace none
  | body (target : MethodId) {serve : BodyTask → Edit Cursor Unit} {body : Body}
      {widened : Option Nat} {cursor : Cursor} (edits : watched.editsBodies request.rule = true)
      (has : module.bodyOf? (editedMethod config module target) = some body)
      (worked : workOn config serve module target request body = (.ok widened, cursor)) :
      Answer config watched request module ledger
        ⟨module, .method target, request, some (editedMethod config module target)⟩
        ⟨module.withMethod (editedMethod config module target) fun method =>
          { method with body := some cursor.body }, ledger⟩ widened

/-- A rule with announcements that serves a request notes the service that it is answered with. -/
theorem answer_of_serveRequest {member : MemberId} {request : Request} {module : Module}
    {ledger : Ledger} {report : Report} {notes : List Service} {final : Noted Service Progress}
    (announced : registry.AnnouncedBy watched)
    (served : (serveRequest ⟨watched, config, made⟩ member request).apply
      ⟨⟨⟨module, ledger⟩, report⟩, notes⟩ = (.ok (), final)) :
    ∃ service workspace widened,
      Answer config watched request module ledger service workspace widened ∧
      service.asked = (member, request) ∧
      final = ⟨⟨workspace, { report.settled widened with
        applied := report.applied ++ [service.entry] }⟩, notes ++ [service]⟩ := by
  obtain ⟨rule, elsewhere, reached, found, took, rfl⟩ := serveRequest_eq_ok.1 served
  obtain ⟨plain, _, same⟩ := announced.get?_plain found
  have handled : watched.editsBodies request.rule = rule.editsBodies := by
    rw [Registry.editsBodies, found]
    rfl
  cases same with
  | member name description serve keeps =>
    obtain ⟨workspace, acted, rfl, rfl⟩ :=
      (serve_eq_ok_of_member rfl (Rule.performs_announced_member serve)).1 took
    refine ⟨_, workspace, none, .member member handled fun indifferent held => ?_, rfl, rfl⟩
    exact (keeps indifferent ⟨member, request⟩).of_eq_ok acted held
  | body name description serve =>
    obtain ⟨target, rfl, body, widened, cursor, has, worked, rfl, rfl⟩ :=
      (serveOnBody_eq_ok (Rule.performs_announced_body serve)).1 took
    refine ⟨_, _, widened, .body target handled has worked, rfl, ?_⟩
    rw [entry_onBody, cursorOn, ofBody_taskFor has]
    cases widened <;> rfl

theorem Underway.next {noted final : Noted Service Progress} (service : Service)
    (underway : Underway config watched origin served asked passes noted)
    (same : noted.state.workspace.module.SameMembers final.state.workspace.module)
    (notes : final.notes = noted.notes ++ [service])
    (applied : final.state.report.applied = noted.state.report.applied ++ [service.entry])
    (finished : final.state.report.bodiesFinished = noted.state.report.bodiesFinished +
      if config.finishBodies && watched.editsBodies service.request.rule then 1 else 0)
    (sameFinal : final.state.report.passes = noted.state.report.passes) :
    Underway config watched origin served (asked ++ [service.asked]) passes final where
  parts := same.parts.trans underway.parts
  requests member := (same.requests member).trans (underway.requests member)
  asked := by rw [notes, List.map_append, underway.asked]; rfl
  applied := by rw [applied, notes, List.map_append, underway.applied]; rfl
  finished := by
    rw [finished, notes, List.countP_append, List.countP_singleton, underway.finished]
    cases config.finishBodies <;> simp
  passes := by rw [sameFinal, underway.passes]

theorem ensures_serveRequest (announced : registry.AnnouncedBy watched) (member : MemberId)
    (request : Request) :
    Ensures (Underway config watched origin served asked passes)
      (serveRequest ⟨watched, config, made⟩ member request)
      fun _ => Underway config watched origin served (asked ++ [(member, request)]) passes := by
  refine Edit.ensures_of_eq_ok ?_
  rintro ⟨⟨⟨module, ledger⟩, report⟩, notes⟩ underway _ final ran
  obtain ⟨service, workspace, widened, answer, asks, rfl⟩ := answer_of_serveRequest announced ran
  rw [← asks]
  refine underway.next service ?_ rfl rfl ?_ (by simp)
  · cases answer with
    | member target edits keeps => exact keeps (Rule.indifferent_sameMembers module) (.refl module)
    | body target edits has worked => exact Module.sameMembers_withMethod module _ fun _ => rfl
  · cases answer with
    | member target edits keeps => simp [Service.ofMember, edits]
    | body target edits has worked => simp [edits, isSome_of_workOn worked]

theorem ensures_serveRequests (announced : registry.AnnouncedBy watched) (member : MemberId)
    (requests : List Request) :
    Ensures (Underway config watched origin served asked passes)
      (requests.forM (serveRequest ⟨watched, config, made⟩ member))
      fun _ => Underway config watched origin served (asked ++ requests.map (Prod.mk member))
        passes := by
  induction requests generalizing asked with
  | nil => exact .pure fun noted underway => by simpa using underway
  | cons request rest ih =>
    have later := @ih (asked ++ [(member, request)])
    rw [List.append_assoc] at later
    exact .bind (ensures_serveRequest announced member request) fun _ => later

/-- A member all of whose requests are gone, if they are to go, counts as served. -/
theorem Underway.done {noted : Noted Service Progress} {member : MemberId}
    (underway : Underway config watched origin served asked passes noted)
    (gone : config.dropServed = true → noted.state.workspace.module.requests member =
      (origin.requests member).map fun _ => []) :
    Underway config watched origin (served ++ [member]) asked passes noted :=
  { underway with
    requests := fun other => by
      by_cases drops : config.dropServed = true
      · by_cases same : other = member
        · subst same
          simpa [drops] using gone drops
        · simpa [drops, same] using underway.requests other
      · simpa [drops] using underway.requests other }

theorem ensures_dropRequests (member : MemberId) (drops : config.dropServed = true) :
    Ensures (Underway config watched origin served asked passes)
      (Step.onModule (Module.dropRequests member))
      fun _ => Underway config watched origin (served ++ [member]) asked passes := by
  rintro ⟨⟨⟨module, ledger⟩, report⟩, notes⟩ underway _ _
  rw [Step.apply_onModule]
  have kept := Module.requests_dropRequests module member
  have before := underway.requests
  dsimp only at before
  refine { underway with parts := ?_, requests := fun other => ?_ }
  · exact (Module.parts_changeInfo module member _).trans underway.parts
  · rw [kept, before]
    cases origin.requests other with
    | error error => rfl
    | ok requests =>
      by_cases same : other = member <;> simp [Except.map, same, drops]

/-- A member is served what was attached to it at the start. -/
theorem ensures_serveMember (announced : registry.AnnouncedBy watched) {member : MemberId}
    (fresh : member ∉ served) :
    Ensures (Underway config watched origin served asked passes)
      (serveMember ⟨watched, config, made⟩ member)
      fun _ => Underway config watched origin (served ++ [member]) (asked ++ origin.attached member)
        passes := by
  refine Step.ensures_module_bind fun noted underway => .demand_bind fun requests found => ?_
  have had : origin.requests member = .ok requests := by
    rw [underway.requests] at found
    cases had : origin.requests member with
    | error error => simp [had, Except.map] at found
    | ok attached => simpa [had, Except.map, fresh] using found
  have attached : origin.attached member = requests.map (Prod.mk member) := by
    rw [Module.attached, had]
  rw [attached]
  split
  · refine .bind (.at_state underway (ensures_serveRequests announced member requests)) fun _ => ?_
    split
    · next drops => exact ensures_dropRequests member drops
    · next keeps => exact .pure fun state underway => underway.done fun drops => absurd drops keeps
  · next empty =>
    obtain rfl : requests = [] := by simpa using empty
    refine .pure fun state same => ?_
    subst same
    rw [List.map_nil, List.append_nil]
    exact underway.done fun _ => by rw [underway.requests, had]; simp [Except.map]

theorem ensures_serveTypes (announced : registry.AnnouncedBy watched) (order : List TypeId)
    (fresh : (origin.membersAlong order).Nodup) :
    Ensures (Underway config watched origin [] [] passes)
      (order.forM (serveType ⟨watched, config, made⟩))
      fun _ => Underway config watched origin (origin.membersAlong order)
        ((origin.membersAlong order).flatMap origin.attached) passes := by
  have serving : Serving ⟨watched, config, made⟩ origin (origin.membersAlong order) fun served =>
      Underway config watched origin served (served.flatMap origin.attached) passes := by
    refine ⟨fun served noted underway => underway.parts, fun served member within => ?_⟩
    have once : (served ++ [member]).Nodup := within.sublist.nodup fresh
    have new : member ∉ served := by
      intro listed
      exact (List.nodup_append.1 once).2.2 member listed member (List.mem_singleton_self member) rfl
    rw [List.flatMap_append, List.flatMap_singleton]
    exact ensures_serveMember announced new
  exact serving.types order (List.prefix_refl _)

theorem ensures_makePass {pass : Pass} (builtIn : pass.IsBuiltIn) :
    Ensures (Underway config watched origin served asked passes) (makePass config pass)
      fun _ => Underway config watched origin served asked (passes ++ [pass.name]) := by
  refine Edit.ensures_of_eq_ok ?_
  rintro ⟨⟨⟨module, ledger⟩, report⟩, notes⟩ underway _ final ran
  obtain ⟨changed, after, made, rfl⟩ := makePass_eq_ok.1 ran
  have same := (builtIn.keepsMembers config module).of_eq_ok made (.refl module)
  exact { underway with
    parts := same.parts.trans underway.parts
    requests := fun member => (same.requests member).trans (underway.requests member)
    passes := by
      have before := underway.passes
      dsimp only at before ⊢
      rw [List.map_append, before]
      rfl }

theorem ensures_makePasses (builtIn : ∀ pass ∈ made, pass.IsBuiltIn) :
    Ensures (Underway config watched origin served asked passes) (made.forM (makePass config))
      fun _ => Underway config watched origin served asked (passes ++ made.map Pass.name) := by
  induction made generalizing passes with
  | nil => exact .pure fun noted underway => by simpa using underway
  | cons pass rest ih =>
    have later := @ih (passes ++ [pass.name]) fun other listed =>
      builtIn other (List.mem_cons_of_mem _ listed)
    rw [List.append_assoc] at later
    exact .bind (ensures_makePass (builtIn pass List.mem_cons_self)) fun _ => later

theorem underway_start (origin : Module) :
    Underway config watched origin [] [] [] ⟨⟨⟨origin, {}⟩, {}⟩, []⟩ where
  parts := rfl
  requests member := by cases origin.requests member <;> simp [Except.map]
  asked := rfl
  applied := rfl
  finished := by simp
  passes := rfl

/-- A run serves the members of all types and then makes its passes. -/
theorem ensures_steps (announced : registry.AnnouncedBy watched)
    (fresh : (origin.membersAlong origin.typesInOrder).Nodup)
    (builtIn : ∀ pass ∈ made, pass.IsBuiltIn) :
    Ensures (· = ⟨⟨⟨origin, {}⟩, {}⟩, []⟩) (steps ⟨watched, config, made⟩)
      fun _ => Underway config watched origin (origin.membersAlong origin.typesInOrder)
        ((origin.membersAlong origin.typesInOrder).flatMap origin.attached)
        (made.map Pass.name) := by
  refine Step.ensures_module_bind fun noted same => ?_
  subst same
  refine .bind (.at_state (underway_start origin)
    (ensures_serveTypes announced origin.typesInOrder fresh)) fun _ => ?_
  exact ensures_makePasses builtIn

section Run

variable {module after : Module} {notes left : List ν} {report : Report}

/-- A run that succeeds has served the members of all types, in their order, and made its passes. -/
theorem exists_underway (built : module.Built) (builtIn : ∀ pass ∈ made, pass.IsBuiltIn)
    (succeeds : (withBuiltIns config made).run.apply ⟨module, notes⟩ =
      (.ok report, ⟨after, left⟩)) :
    ∃ done, services config made module = done.notes ∧ report = done.state.report ∧
      after = done.state.workspace.module ∧
      Underway config Registry.builtIn.announced module
        (module.membersAlong module.typesInOrder)
        ((module.membersAlong module.typesInOrder).flatMap module.attached) (made.map Pass.name)
        done := by
  obtain ⟨done, stepped, rfl, ended⟩ := run_eq_ok.1 (announced_of_run succeeds)
  obtain ⟨rfl, noted⟩ := Noted.mk.inj ended
  have each := built.forest.perm_membersAlong
    (built.forest.perm_of_depthFirst built.forest.depthFirst)
  have announced : (Registry.builtIn : Registry ν).AnnouncedBy _ := Registry.announcedBy_builtIn
  have underway := (ensures_steps announced (each.nodup_iff.2 module.nodup_members)
    builtIn).of_eq_ok stepped rfl
  exact ⟨done, noted, rfl, rfl, underway⟩

/-- Each request is served as often as it is attached to a member. -/
theorem perm_asked (built : module.Built) (builtIn : ∀ pass ∈ made, pass.IsBuiltIn)
    (succeeds : (withBuiltIns config made).run.apply ⟨module, notes⟩ =
      (.ok report, ⟨after, left⟩)) :
    ((services config made module).map Service.asked).Perm
      (module.members.flatMap module.attached) := by
  obtain ⟨done, noted, _, _, underway⟩ := exists_underway built builtIn succeeds
  have each := built.forest.perm_membersAlong
    (built.forest.perm_of_depthFirst built.forest.depthFirst)
  rw [noted, underway.asked]
  exact each.flatMap_right _

end Run

/-- A run that succeeds on a module made by its builders has served each request that was there at
the start exactly once: the types depth first, with each its own requests, then those of its fields,
then those of its methods. The report has an entry for each service, which names another method just
where the edited one is not the annotated one, counts a body for each rule for bodies, and lists every
pass. The requests are gone if so configured, and otherwise as they were. -/
theorem served_in_order {passes : List Pass} {module after : Module} {notes left : List ν}
    {report : Report} (built : module.Built) (builtIn : ∀ pass ∈ passes, pass.IsBuiltIn)
    (succeeds : (withBuiltIns config passes).run.apply ⟨module, notes⟩ =
      (.ok report, ⟨after, left⟩)) :
    (announcing config passes).run.apply ⟨module, []⟩ =
        (.ok report, ⟨after, services config passes module⟩) ∧
      (∃ order, module.DepthFirst module.topLevel order ∧ order.Perm module.typeIds ∧
        (module.membersAlong order).Perm module.members ∧
        (services config passes module).map Service.asked =
          (module.membersAlong order).flatMap module.attached) ∧
      report.applied = (services config passes module).map Service.entry ∧
      report.bodiesFinished = (if config.finishBodies then
        report.applied.countP fun entry => (Registry.builtIn : Registry ν).editsBodies entry.rule
        else 0) ∧
      report.passes.map Prod.fst = passes.map Pass.name ∧
      ∀ member, after.requests member = (module.requests member).map fun requests =>
        if config.dropServed then [] else requests := by
  have ran := announced_of_run succeeds
  obtain ⟨done, noted, rfl, rfl, underway⟩ := exists_underway built builtIn succeeds
  have order := built.forest.depthFirst
  have all := built.forest.perm_of_depthFirst order
  have each := built.forest.perm_membersAlong all
  have announced : (Registry.builtIn : Registry ν).AnnouncedBy _ := Registry.announcedBy_builtIn
  refine ⟨ran, ⟨_, order, all, each, ?_⟩, ?_, ?_, underway.passes, fun member => ?_⟩
  · rw [noted, underway.asked]
  · rw [noted, underway.applied]
  · rw [underway.finished, underway.applied, List.countP_map]
    simp only [announced.editsBodies_eq, Function.comp_def, Service.entry]
  · rw [underway.requests, Module.requests]
    cases found : module.info member with
    | error error => rfl
    | ok info =>
      have listed := each.mem_iff.2 (Module.mem_members found)
      simp [Except.map, listed]

/-- A module with a nested type, made by its builders, with requests on both types and on a method. -/
def nested : Module :=
  let module : Module := ((Module.addType "Game" "Outer").apply { name := "Game" }).2
  let module := ((Module.addNestedType ⟨0⟩ "Inner").apply module).2
  let module := ((Module.addMethod ⟨0⟩
    { name := "Run", returnType := "void", declaringType := ⟨0⟩ }).apply module).2
  let module := ((Module.attachRequest (.type ⟨1⟩)
    { rule := "ForceName", args := [.string "Part"] }).apply module).2
  let module := ((Module.attachRequest (.method ⟨0⟩) { rule := "MakeEntryPoint" }).apply module).2
  ((Module.attachRequest (.type ⟨0⟩)
    { rule := "ForceName", args := [.string "Whole"] }).apply module).2

theorem built_nested : nested.Built :=
  .request (.request (.request (.method (.nestedType (.type (.empty "Game") _ _) _ _) _ _) _ _) _ _) _ _

/-- The inner type comes last, after the outer one and its method. -/
theorem served_in_nested :
    ∃ report after notes,
      (withBuiltIns {} [.synchronizeVersions]).run.apply (⟨nested, []⟩ : Noted Unit Module) =
          (.ok report, ⟨after, notes⟩) ∧
        report.applied = (services {} [.synchronizeVersions] nested).map Service.entry ∧
        (services {} [.synchronizeVersions] nested).map Service.member =
          [.type ⟨0⟩, .method ⟨0⟩, .type ⟨1⟩] ∧
        after.requests (.type ⟨1⟩) = .ok [] := by
  have succeeds : ((withBuiltIns {} [.synchronizeVersions]).run.apply
      (⟨nested, []⟩ : Noted Unit Module)).1.toOption.isSome = true := by
    rw [withBuiltIns, Registry.builtIn_eq]
    cbv
  have order : (services {} [.synchronizeVersions] nested).map Service.member =
      [.type ⟨0⟩, .method ⟨0⟩, .type ⟨1⟩] := by
    rw [services, announcing, Registry.builtIn_eq]
    cbv
  have builtIn : ∀ pass ∈ [Pass.synchronizeVersions], pass.IsBuiltIn := by
    intro pass listed
    rw [List.mem_singleton.1 listed]
    exact .synchronizeVersions
  rcases ran : (withBuiltIns {} [.synchronizeVersions]).run.apply
      (⟨nested, []⟩ : Noted Unit Module) with ⟨error | report, ⟨after, notes⟩⟩
  · rw [ran] at succeeds
    cases succeeds
  · obtain ⟨_, _, applied, _, _, gone⟩ := served_in_order built_nested builtIn ran
    exact ⟨report, after, notes, rfl, applied, order, gone _⟩

end Patcher
end Retrofit

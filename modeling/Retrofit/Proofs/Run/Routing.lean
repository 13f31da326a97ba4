import Retrofit.Proofs.Module.StateMachine
import Retrofit.Proofs.Rule.Making
import Retrofit.Proofs.Run.Order

/-!
Where requests on a method with a state machine go when some of them give it another name. Each one
is routed anew, under the name that the method has by then, so that a request behind a rename can miss
the state machine (`routed_iff`).
-/

namespace Retrofit

open Edit (Ensures)

namespace Rule

/-- A rule for bodies that, where it succeeds, leaves the types alone that code makes objects of. -/
def KeepsMade (serve : BodyTask → Edit Cursor Unit) : Prop :=
  ∀ task types, Ensures (Cursor.Makes types) (serve task) fun _ => Cursor.Makes types

/-- A rule that announces its services. It gives names, is another one for declarations, or keeps
what code makes. -/
inductive Routable : Rule Service → Prop where
  | rename (description : String) :
      Routable (onMember "ForceName" description renameTarget).announced
  | member (name description : String) (serve : MemberTask → Edit Workspace Unit)
      (other : name ≠ "ForceName") : Routable (onMember name description serve).announced
  | body (name description : String) (serve : BodyTask → Edit Cursor Unit)
      (keeps : KeepsMade serve) (other : name ≠ "ForceName") :
      Routable (onBody name description serve).announced

theorem routable_builtIn : ∀ rule ∈ (builtIn : List (Rule Service)), Routable rule.announced := by
  intro rule listed
  simp only [builtIn, forDeclarations, forSubstitution, forTypeTests, forThresholds, forFieldReads,
    forGuardedCalls, List.cons_append, List.nil_append, List.mem_cons, List.not_mem_nil,
    or_false] at listed
  rcases listed with rfl | rfl | rfl | rfl | rfl | rfl | rfl | rfl | rfl
  · exact .member _ _ _ (by decide)
  · exact .member _ _ _ (by decide)
  · exact .rename _
  · exact .body _ _ _ (fun _ types => ((upheld_made types).substituteAll _ _).discard.ensures)
      (by decide)
  · exact .body _ _ _ (fun task types => ((upheld_made types).substituteNamed task).discard.ensures)
      (by decide)
  · exact .body _ _ _ (fun task types => ((upheld_made types).extendTypeTests task).ensures)
      (by decide)
  · exact .body _ _ _ (fun task types => ((upheld_made types).widenCondition task).ensures)
      (by decide)
  · exact .body _ _ _ (fun task types => ((upheld_made types).loadFieldDirectly task).ensures)
      (by decide)
  · exact .body _ _ _ (fun task types => ((upheld_made types).guardCall task).ensures)
      (by decide)

end Rule

/-- The claims of a run that has given no name but, at most, one to a single method. -/
def Ledger.naming (id : MethodId) (given : Option String) : Ledger :=
  ⟨given.toList.map fun name => ⟨(MemberId.method id).text, "name", name⟩⟩

theorem Ledger.ensures_claimFor (id : MethodId) (current name : String) (given : Option String) :
    Ensures (· = naming id given) (claimFor (.method id) current "name" name) fun _ ledger =>
      (∀ old ∈ given, old = name) ∧ ledger = naming id (some name) := by
  refine .get_bind ?_
  rintro _ rfl
  cases given with
  | none =>
    rintro _ rfl _ _
    exact ⟨nofun, rfl⟩
  | some old =>
    have claimed : (naming id (some old)).value? (MemberId.method id).text "name" = some old := by
      simp [naming, value?]
    rw [claimed]
    dsimp only
    split
    · exact .throw
    · next same =>
      rintro _ rfl _ _
      have equal : old = name := not_not.1 same
      subst equal
      exact ⟨fun earlier held => (Option.mem_some.1 held).symm, rfl⟩

namespace Rule

theorem ensures_renameTarget (id : MethodId) (request : Request) (module : Module)
    (given : Option String) :
    Ensures (· = ⟨module, .naming id given⟩) (renameTarget ⟨.method id, request⟩) fun _ reached =>
      ∃ name, request.textArg 0 = .ok name ∧ (∀ old ∈ given, old = name) ∧
        reached = ⟨module.withName id name, .naming id (some name)⟩ := by
  refine .get_bind ?_
  rintro _ rfl
  refine .demand_bind fun name asked => ?_
  split
  · exact .throw
  · have claimed : Ensures (· = ⟨module, .naming id given⟩)
        (Workspace.onLedger (Ledger.claimFor (.method id) (module.nameOf (.method id)) "name" name))
        fun _ reached => (∀ old ∈ given, old = name) ∧
          reached = ⟨module, .naming id (some name)⟩ := by
      rintro _ rfl value done
      obtain ⟨same, ledger⟩ := Ledger.ensures_claimFor id _ name given _ rfl value done
      exact ⟨same, congrArg (Workspace.mk module) ledger⟩
    refine .bind claimed fun _ => ?_
    rintro _ ⟨same, rfl⟩ value done
    have renamed := Module.apply_changeMethod module id fun method => { method with name }
    exact ⟨name, asked, same, congrArg (Workspace.mk · _) (congrArg Prod.snd renamed)⟩

end Rule

/-- Where a service went: the request, and the method whose body was edited for it. -/
def Service.route (service : Service) : Request × Option MethodId :=
  (service.request, service.edited)

/-- The module in which a method goes by the name that it has been given, if any. -/
def Module.called (module : Module) (id : MethodId) : Option String → Module
  | none => module
  | some name => module.withName id name

theorem Module.withName_called (module : Module) (id : MethodId) (given : Option String)
    (name : String) : (module.called id given).withName id name = module.called id (some name) := by
  cases given with
  | none => rfl
  | some old => exact module.withName_withName id old name

namespace Patcher

/-- What has become of the requests on a method so far, and the name that they have given to it. Each
request on its code was routed under the name of that time. -/
inductive Routed (config : Config) (module : Module) (target : MethodId) :
    Option String → List (Request × Option MethodId) → Prop where
  | start : Routed config module target none []
  | rename {given : Option String} {trace : List (Request × Option MethodId)} {request : Request}
      {name : String} (routed : Routed config module target given trace)
      (renames : request.rule = "ForceName") (asked : request.textArg 0 = .ok name)
      (same : ∀ old ∈ given, old = name) :
      Routed config module target (some name) (trace ++ [(request, none)])
  | edit {given : Option String} {trace : List (Request × Option MethodId)} {request : Request}
      (routed : Routed config module target given trace) (edits : request.rule ≠ "ForceName") :
      Routed config module target given
        (trace ++ [(request, some (editedMethod config (module.called target given) target))])

/-- The earlier request gives the method a name under which the later one does not come to the given
code. -/
def Misleads (config : Config) (module : Module) (target code : MethodId)
    (earlier later : Request) : Prop :=
  earlier.rule = "ForceName" ∧ later.rule ≠ "ForceName" ∧
    ∃ name, earlier.textArg 0 = .ok name ∧
      editedMethod config (module.withName target name) target ≠ code

variable {config : Config} {module : Module} {target code : MethodId} {given : Option String}
  {trace : List (Request × Option MethodId)}

theorem Routed.given_eq (routed : Routed config module target given trace) :
    ∀ request ∈ trace.map Prod.fst, request.rule = "ForceName" →
      ∃ name, given = some name ∧ request.textArg 0 = .ok name := by
  induction routed with
  | start => nofun
  | @rename given trace request name routed renames asked same ih =>
    intro other listed names
    rw [List.map_append, List.mem_append, List.map_singleton, List.mem_singleton] at listed
    rcases listed with earlier | rfl
    · obtain ⟨old, held, had⟩ := ih other earlier names
      rw [same old held] at had
      exact ⟨name, rfl, had⟩
    · exact ⟨name, rfl, asked⟩
  | @edit given trace request routed edits ih =>
    intro other listed names
    rw [List.map_append, List.mem_append, List.map_singleton, List.mem_singleton] at listed
    rcases listed with earlier | rfl
    · exact ih other earlier names
    · exact absurd names edits

theorem Routed.exists_rename (routed : Routed config module target given trace) {name : String}
    (named : given = some name) :
    ∃ request ∈ trace.map Prod.fst, request.rule = "ForceName" ∧ request.textArg 0 = .ok name := by
  induction routed with
  | start => cases named
  | @rename given trace request other routed renames asked same ih =>
    cases named
    exact ⟨request, by simp, renames, asked⟩
  | @edit given trace request routed edits ih =>
    obtain ⟨rename, listed, asked⟩ := ih named
    exact ⟨rename, by simp [listed], asked⟩

/-- The next request on the code comes to the given method just if no earlier one misleads it. -/
theorem Routed.next_iff (routed : Routed config module target given trace)
    (before : editedMethod config module target = code) {request : Request}
    (edits : request.rule ≠ "ForceName") :
    editedMethod config (module.called target given) target = code ↔
      ∀ earlier ∈ trace.map Prod.fst, ¬ Misleads config module target code earlier request := by
  constructor
  · rintro comes earlier listed ⟨renames, _, name, asked, misses⟩
    obtain ⟨current, rfl, named⟩ := routed.given_eq earlier listed renames
    cases asked.symm.trans named
    exact misses comes
  · intro free
    cases given with
    | none => exact before
    | some name =>
      obtain ⟨rename, listed, renames, asked⟩ := routed.exists_rename rfl
      by_contra misses
      exact free rename listed ⟨renames, edits, name, asked, misses⟩

private theorem pairwise_requests_append {related : Request → Request → Prop}
    {entry : Request × Option MethodId} :
    ((trace ++ [entry]).map Prod.fst).Pairwise related ↔
      (trace.map Prod.fst).Pairwise related ∧
        ∀ earlier ∈ trace.map Prod.fst, related earlier entry.1 := by
  simp [List.pairwise_append]

/-- All requests on the code come to the given method just if none misleads a later one. -/
theorem Routed.all_iff (routed : Routed config module target given trace)
    (before : editedMethod config module target = code) :
    (∀ entry ∈ trace, entry.2 = if entry.1.rule = "ForceName" then none else some code) ↔
      (trace.map Prod.fst).Pairwise fun earlier later =>
        ¬ Misleads config module target code earlier later := by
  induction routed with
  | start => simp
  | @rename given trace request name routed renames asked same ih =>
    have free : ∀ earlier ∈ trace.map Prod.fst,
        ¬ Misleads config module target code earlier request :=
      fun _ _ misleads => misleads.2.1 renames
    rw [List.forall_mem_append, ih, pairwise_requests_append, and_iff_left free, and_iff_left]
    simp [renames]
  | @edit given trace request routed edits ih =>
    rw [List.forall_mem_append, ih, pairwise_requests_append, ← routed.next_iff before edits]
    simp [edits]

/-- A request that is made of the method, for a name or for its code. -/
def Asks (target : MethodId) (member : MemberId) (request : Request) : Prop :=
  member = .method target ∧ (request.rule = "ForceName" ∨
    (Registry.builtIn : Registry Service).editsBodies request.rule = true)

/-- A run in which requests are made of one method only. The search for its code would come where it
came at the start under the name that the method has now, and only edited bodies have changed. -/
structure Routing (config : Config) (origin : Module) (target : MethodId) (given : Option String)
    (noted : Noted Service Progress) : Prop where
  machines : (origin.called target given).SameMachines noted.state.workspace.module
  ledger : noted.state.workspace.ledger = .naming target given
  routed : Routed config origin target given (noted.notes.map Service.route)
  asks : ∀ member requests, noted.state.workspace.module.requests member = .ok requests →
    ∀ request ∈ requests, Asks target member request
  bodies : ∀ id, (∀ service ∈ noted.notes, service.edited ≠ some id) →
    noted.state.workspace.module.bodyOf? id = origin.bodyOf? id

variable {origin : Module} {member : MemberId} {request : Request} {passes : List Pass}

theorem Routing.rename {ledger : Ledger} {report : Report} {notes : List Service} {name : String}
    (routing : Routing config origin target given ⟨⟨⟨module, ledger⟩, report⟩, notes⟩)
    (renames : request.rule = "ForceName") (asked : request.textArg 0 = .ok name)
    (same : ∀ old ∈ given, old = name) (after : Report) :
    Routing config origin target (some name)
      ⟨⟨⟨module.withName target name, .naming target (some name)⟩, after⟩,
        notes ++ [.ofMember module ⟨.method target, request⟩]⟩ where
  machines := by
    rw [← Module.withName_called]
    exact routing.machines.withName target name
  ledger := rfl
  routed := by
    rw [List.map_append]
    exact .rename routing.routed renames asked same
  asks member requests had := by
    have kept : module.SameMembers (module.withName target name) :=
      Module.sameMembers_withMethod module target fun _ => rfl
    exact routing.asks member requests ((kept.requests member).symm.trans had)
  bodies id unedited := by
    have kept : module.SameBodies (module.withName target name) :=
      Module.sameBodies_withMethod module target fun _ => rfl
    refine (kept id).trans (routing.bodies id fun service listed => ?_)
    exact unedited service (List.mem_append_left _ listed)

theorem made_of_workOn {serve : BodyTask → Edit Cursor Unit} (keeps : Rule.KeepsMade serve)
    {body : Body} {widened : Option Nat} {cursor : Cursor}
    (worked : workOn config serve module target request body = (.ok widened, cursor)) :
    cursor.body.made = body.made := by
  obtain ⟨_, between, served, settled⟩ := Edit.bind_eq_ok.1 worked
  have kept := (keeps (taskFor config module target request) body.made).of_eq_ok served rfl
  refine Eq.trans ?_ kept
  rw [settle] at settled
  split at settled
  · obtain ⟨count, finished, ran, ended⟩ := Edit.bind_eq_ok.1 settled
    cases ended
    rw [Cursor.apply_onBody] at ran
    obtain ⟨_, rfl⟩ := Prod.mk.inj ran
    exact between.body.made_finish _ _ _
  · cases settled
    rfl

theorem Routing.edit {ledger : Ledger} {report : Report} {notes : List Service}
    (routing : Routing config origin target given ⟨⟨⟨module, ledger⟩, report⟩, notes⟩)
    (edits : request.rule ≠ "ForceName") {body edited : Body}
    (found : module.bodyOf? (editedMethod config module target) = some body)
    (made : edited.made = body.made) (after : Report) :
    Routing config origin target given
      ⟨⟨⟨module.withMethod (editedMethod config module target) fun method =>
          { method with body := some edited }, ledger⟩, after⟩,
        notes ++ [.ofBody (taskFor config module target request) body]⟩ where
  machines := by
    refine routing.machines.trans (Module.sameMachines_withMethod module _ fun method listed => ?_)
    rw [Module.bodyOf?, listed] at found
    have had : method.body = some body := found
    simp only [MethodDef.sketch, MethodDef.made, had, Option.map_some, made]
  ledger := routing.ledger
  routed := by
    have comes : editedMethod config module target =
        editedMethod config (origin.called target given) target := by
      rw [editedMethod, routing.machines.stateMachine?_eq, editedMethod]
    rw [List.map_append]
    have next := Routed.edit routing.routed edits
    rw [← comes] at next
    exact next
  asks member requests had := by
    have kept : module.SameMembers (module.withMethod (editedMethod config module target)
        fun method => { method with body := some edited }) :=
      Module.sameMembers_withMethod module _ fun _ => rfl
    exact routing.asks member requests ((kept.requests member).symm.trans had)
  bodies id unedited := by
    have other : editedMethod config module target ≠ id := by
      rintro rfl
      exact unedited _ (List.mem_append_right _ (List.mem_singleton.2 rfl)) rfl
    rw [← routing.bodies id fun service listed => unedited service (List.mem_append_left _ listed)]
    dsimp only
    rw [Module.bodyOf?_withMethod]
    simp only [if_neg other]
    rfl

/-- The run is one in which requests are made of one method only, under whatever name. -/
def OnOne (config : Config) (origin : Module) (target : MethodId)
    (noted : Noted Service Progress) : Prop :=
  ∃ given, Routing config origin target given noted

theorem routable_of_get? {rule : Rule Service}
    (found : (Registry.builtIn : Registry Service).announced.get? request.rule = some rule) :
    rule.name = request.rule ∧ rule.Routable := by
  rw [Registry.get?] at found
  have named := List.find?_some found
  have listed := List.mem_of_find?_eq_some found
  rw [Registry.announced, Registry.rules_builtIn, List.mem_map] at listed
  obtain ⟨plain, builtIn, rfl⟩ := listed
  exact ⟨of_decide_eq_true named, Rule.routable_builtIn plain builtIn⟩

theorem onOne_serveRequest (asks : Asks target member request) :
    Ensures (OnOne config origin target) (serveRequest (announcing config passes) member request)
      fun _ => OnOne config origin target := by
  refine Edit.ensures_of_eq_ok ?_
  rintro ⟨⟨⟨module, ledger⟩, report⟩, notes⟩ ⟨given, routing⟩ _ final ran
  obtain ⟨rule, elsewhere, reached, found, took, rfl⟩ := serveRequest_eq_ok.1 ran
  clear ran
  obtain ⟨rfl, kind⟩ := asks
  obtain ⟨named, routable⟩ := routable_of_get? found
  have edits : rule.editsBodies = (Registry.builtIn : Registry Service).editsBodies request.rule := by
    have looked : Registry.builtIn.announced.get? request.rule = some rule := found
    rw [← Registry.announcedBy_builtIn.editsBodies_eq, Registry.editsBodies, looked, Option.any_some]
  have took : (serve config rule (.method target) request).apply
      ⟨⟨⟨module, ledger⟩, report⟩, notes⟩ = (.ok elsewhere, reached) := took
  cases routable with
  | rename description =>
    obtain ⟨workspace, acted, rfl, rfl⟩ :=
      (serve_eq_ok_of_member rfl (Rule.performs_announced_member Rule.renameTarget)).1 took
    obtain rfl : ledger = .naming target given := routing.ledger
    obtain ⟨name, asked, same, rfl⟩ :=
      (Rule.ensures_renameTarget target request module given).of_eq_ok acted rfl
    exact ⟨some name, routing.rename named.symm asked same _⟩
  | member name description serve other =>
    rcases kind with renames | onBody
    · exact absurd (named.trans renames) other
    · rw [onBody] at edits
      cases edits
  | body name description serve keeps other =>
    rw [serve_announced_onBody] at took
    obtain ⟨_, ⟨⟩, body, widened, cursor, has, worked, rfl, rfl⟩ :=
      (serveOnBody_eq_ok (Rule.performs_announced_body serve)).1 took
    have code : request.rule ≠ "ForceName" := fun same => other (named.trans same)
    exact ⟨given, routing.edit code has (made_of_workOn keeps worked) _⟩

theorem onOne_dropRequests :
    Ensures (OnOne config origin target) (Step.onModule (Module.dropRequests (.method target)))
      fun _ => OnOne config origin target := by
  rintro ⟨⟨⟨module, ledger⟩, report⟩, notes⟩ ⟨given, routing⟩ _ _
  rw [Step.apply_onModule]
  refine ⟨given, { routing with machines := ?_, asks := ?_, bodies := ?_ }⟩
  · refine routing.machines.trans ?_
    rw [Module.dropRequests, Module.changeInfo, Module.apply_changeMethod]
    exact Module.sameMachines_withMethod module target fun _ _ => rfl
  · intro other requests had request listed
    dsimp only at had
    rw [Module.requests_dropRequests] at had
    cases before : module.requests other with
    | error error =>
      rw [before] at had
      cases had
    | ok attached =>
      rw [before, Except.map, Except.ok.injEq] at had
      subst had
      split at listed
      · cases listed
      · exact routing.asks other attached before request listed
  · intro id unedited
    exact (Module.sameBodies_changeInfo module _ _ id).trans (routing.bodies id unedited)

theorem onOne_serveMember (member : MemberId) :
    Ensures (OnOne config origin target) (serveMember (announcing config passes) member)
      fun _ => OnOne config origin target := by
  refine Step.ensures_module_bind fun noted one => .demand_bind fun requests found => ?_
  have asks : ∀ request ∈ requests, Asks target member request := by
    obtain ⟨given, routing⟩ := one
    exact routing.asks member requests found
  refine .at_state one ?_
  split
  · next some =>
    refine .bind (.forM fun request listed => onOne_serveRequest (asks request listed)) fun _ => ?_
    split
    · obtain ⟨request, listed⟩ := List.exists_mem_of_ne_nil requests (by simpa using some)
      rw [(asks request listed).1]
      exact onOne_dropRequests
    · exact .pure fun _ one => one
  · exact .pure fun _ one => one

theorem onOne_serveTypes (order : List TypeId) :
    Ensures (OnOne config origin target) (order.forM (serveType (announcing config passes)))
      fun _ => OnOne config origin target := by
  refine .forM fun id _ => .bind (onOne_serveMember _) fun _ => ?_
  refine Step.ensures_module_bind fun noted one => .demand_bind fun type _ => .at_state one ?_
  exact .bind (.forM fun field _ => onOne_serveMember (.field field)) fun _ =>
    .forM fun method _ => onOne_serveMember (.method method)

theorem notes_makePasses (made : List Pass) (services : List Service) :
    Ensures (fun noted : Noted Service Progress => noted.notes = services)
      (made.forM (makePass config)) fun _ noted => noted.notes = services := by
  refine .forM fun pass _ => Edit.ensures_of_eq_ok ?_
  rintro ⟨⟨⟨module, ledger⟩, report⟩, notes⟩ same _ final ran
  obtain ⟨_, _, _, rfl⟩ := makePass_eq_ok.1 ran
  exact same

theorem onOne_start {requests : List Request}
    (attached : origin.requests (.method target) = .ok requests)
    (alone : ∀ member, member ≠ .method target → origin.attached member = [])
    (mixed : ∀ request ∈ requests, request.rule = "ForceName" ∨
      (Registry.builtIn : Registry Service).editsBodies request.rule = true) :
    OnOne config origin target ⟨⟨⟨origin, {}⟩, {}⟩, []⟩ := by
  refine ⟨none, .refl origin, rfl, .start, fun member held had request listed => ?_, fun _ _ => rfl⟩
  by_cases same : member = .method target
  · subst same
    cases attached.symm.trans had
    exact ⟨rfl, mixed request listed⟩
  · have nothing := alone member same
    dsimp only at had
    rw [Module.attached, had] at nothing
    rw [List.map_eq_nil_iff.1 nothing] at listed
    cases listed

/-- The requests along a traversal are those of the only member that has any. -/
theorem flatMap_attached {requests : List Request} {members : List MemberId}
    (once : members.Nodup) (listed : MemberId.method target ∈ members)
    (attached : origin.requests (.method target) = .ok requests)
    (alone : ∀ member, member ≠ .method target → origin.attached member = []) :
    members.flatMap origin.attached = requests.map (Prod.mk (.method target)) := by
  obtain ⟨front, back, rfl⟩ := List.append_of_mem listed
  have apart := List.nodup_middle.1 once
  have nothing : ∀ member ∈ front ++ back, origin.attached member = [] := by
    intro member other
    refine alone member ?_
    rintro rfl
    exact (List.nodup_cons.1 apart).1 other
  have before : front.flatMap origin.attached = [] :=
    List.flatMap_eq_nil_iff.2 fun member held => nothing member (List.mem_append_left _ held)
  have behind : back.flatMap origin.attached = [] :=
    List.flatMap_eq_nil_iff.2 fun member held => nothing member (List.mem_append_right _ held)
  rw [List.flatMap_append, List.flatMap_cons, before, behind, List.append_nil, List.nil_append,
    Module.attached, attached]

/-- What a run on one method with requests comes to, before and after its passes. -/
theorem exists_served {module : Module} {requests : List Request} {done : Noted Service Progress}
    (built : module.Built) (attached : module.requests (.method target) = .ok requests)
    (alone : ∀ member, member ≠ .method target → module.attached member = [])
    (mixed : ∀ request ∈ requests, request.rule = "ForceName" ∨
      (Registry.builtIn : Registry Service).editsBodies request.rule = true)
    (stepped : (announcing config passes).steps.apply ⟨⟨⟨module, {}⟩, {}⟩, []⟩ = (.ok (), done)) :
    ∃ given served, Routing config module target given served ∧ served.notes = done.notes ∧
      served.notes.map Service.asked = requests.map (Prod.mk (.method target)) ∧
      (passes = [] → done = served) := by
  have depthFirst := built.forest.depthFirst
  have each := built.forest.perm_membersAlong (built.forest.perm_of_depthFirst depthFirst)
  have fresh := each.nodup_iff.2 module.nodup_members
  have listed : MemberId.method target ∈ module.membersAlong module.typesInOrder := by
    rw [each.mem_iff]
    cases found : module.info (.method target) with
    | error error =>
      rw [Module.requests, found] at attached
      cases attached
    | ok info => exact Module.mem_members found
  obtain ⟨_, _, ⟨⟩, worked⟩ := Edit.bind_eq_ok.1 stepped
  obtain ⟨_, served, types, made⟩ := Edit.bind_eq_ok.1 worked
  have start : OnOne config module target ⟨⟨⟨module, {}⟩, {}⟩, []⟩ :=
    onOne_start attached alone mixed
  obtain ⟨given, routing⟩ := (onOne_serveTypes module.typesInOrder).of_eq_ok types start
  have announced : (Registry.builtIn : Registry Service).AnnouncedBy _ := Registry.announcedBy_builtIn
  have underway := (ensures_serveTypes announced module.typesInOrder fresh).of_eq_ok types
    (underway_start module)
  have asked := underway.asked
  rw [flatMap_attached fresh listed attached alone] at asked
  have finished : (passes.forM (makePass config)).apply served = (.ok (), done) := made
  have notes := (notes_makePasses passes served.notes).of_eq_ok finished rfl
  refine ⟨given, served, routing, notes.symm, asked, ?_⟩
  rintro rfl
  cases made
  rfl

/-- In a run with requests for names and for code on a single method, which has a state machine, each
request on the code edits just the body of the state machine that the method had at the start, if and
only if no request in front of it gives the method a name under which that is not found. A run without
passes leaves all other bodies as they are. -/
theorem routed_iff {passes : List Pass} {module after : Module} {notes left : List ν}
    {report : Report} {target code : MethodId} {requests : List Request} (built : module.Built)
    (follows : config.intoStateMachines = true) (holds : module.stateMachine? target = some code)
    (attached : module.requests (.method target) = .ok requests)
    (alone : ∀ member, member ≠ .method target → module.attached member = [])
    (mixed : ∀ request ∈ requests, request.rule = "ForceName" ∨
      (Registry.builtIn : Registry Service).editsBodies request.rule = true)
    (succeeds : (withBuiltIns config passes).run.apply ⟨module, notes⟩ =
      (.ok report, ⟨after, left⟩)) :
    (services config passes module).map Service.asked = requests.map (Prod.mk (.method target)) ∧
      ((∀ service ∈ services config passes module, service.edited =
          if service.request.rule = "ForceName" then none else some code) ↔
        requests.Pairwise fun earlier later =>
          ¬ Misleads config module target code earlier later) ∧
      (passes = [] → ∀ id, (∀ service ∈ services config passes module, service.edited ≠ some id) →
        after.bodyOf? id = module.bodyOf? id) := by
  have ran := announced_of_run succeeds
  obtain ⟨done, stepped, rfl, ended⟩ := run_eq_ok.1 ran
  obtain ⟨rfl, noted⟩ := Noted.mk.inj ended
  obtain ⟨given, served, routing, same, asked, plain⟩ :=
    exists_served built attached alone mixed stepped
  have before : editedMethod config module target = code := by
    rw [editedMethod, if_pos follows, holds, Option.getD_some]
  have order : (served.notes.map Service.route).map Prod.fst = requests := by
    have both := congrArg (List.map Prod.snd) asked
    rw [List.map_map, List.map_map] at both
    rw [List.map_map]
    exact both.trans (List.map_id requests)
  have all := routing.routed.all_iff before
  rw [order, List.forall_mem_map] at all
  rw [noted, ← same]
  refine ⟨asked, all, fun bare id unedited => ?_⟩
  rw [plain bare]
  exact routing.bodies id unedited

/-- The request for another name. -/
def becomeTick : Request := { rule := "ForceName", args := [.string "Tick"] }

/-- The request to substitute an operation in the code. -/
def fillMemory : Request := { rule := "PatchInitblk" }

/-- A method whose code is in the nested type that has the right name, with the given attributes and
two requests: it is to be renamed, and then its code is to be patched. -/
def renamedIterator (attributes : List Attribute) : Module :=
  let module : Module := ((Module.addType "Game" "Menu").apply { name := "Game" }).2
  let module := ((Module.addNestedType ⟨0⟩ "<Update>d__12").apply module).2
  let module := ((Module.addMethod ⟨0⟩
    { name := "Update", attributes, returnType := "System.Collections.IEnumerator",
      declaringType := ⟨0⟩,
      body := some (.ofInstrs [⟨.ldnull, .none⟩, ⟨.ret, .none⟩]) }).apply module).2
  let module := ((Module.addMethod ⟨1⟩
    { name := "MoveNext", returnType := "System.Boolean", declaringType := ⟨1⟩,
      body := some (.ofInstrs [⟨.call, .member (.method "Game" "_initblk" "System.Void ()")⟩,
        ⟨.ldcI40, .none⟩, ⟨.ret, .none⟩]) }).apply module).2
  let module := ((Module.attachRequest (.method ⟨0⟩) becomeTick).apply module).2
  ((Module.attachRequest (.method ⟨0⟩) fillMemory).apply module).2

theorem built_renamedIterator (attributes : List Attribute) : (renamedIterator attributes).Built :=
  .request (.request (.method (.method (.nestedType (.type (.empty "Game") _ _) _ _) _ _) _ _) _ _) _ _

theorem attached_renamedIterator (attributes : List Attribute) (member : MemberId)
    (other : member ≠ .method ⟨0⟩) : (renamedIterator attributes).attached member = [] := by
  rcases member with ⟨_ | _ | _⟩ | ⟨_ | _ | _⟩ | ⟨_⟩
  · rfl
  · rfl
  · rfl
  · exact absurd rfl other
  · rfl
  · rfl
  · rfl

/-- The attribute that names the state machine. -/
def marked : List Attribute :=
  [{ type := "System.Runtime.CompilerServices.IteratorStateMachineAttribute",
     args := [.type "Game.Menu/<Update>d__12"] }]

/-- An attribute does not depend on the name of the method, so that the second request comes to the
state machine. -/
theorem routed_marked :
    (renamedIterator marked).stateMachine? ⟨0⟩ = some ⟨1⟩ ∧
      (services {} [] (renamedIterator marked)).map (fun service =>
          (service.request.rule, service.edited)) =
        [("ForceName", none), ("PatchInitblk", some ⟨1⟩)] := by
  have succeeds : ((withBuiltIns {} []).run.apply
      (⟨renamedIterator marked, []⟩ : Noted Unit Module)).1.toOption.isSome = true := by
    rw [withBuiltIns, Registry.builtIn_eq]
    cbv
  have holds : (renamedIterator marked).stateMachine? ⟨0⟩ = some ⟨1⟩ := by decide +kernel
  have attached : (renamedIterator marked).requests (.method ⟨0⟩) =
      .ok [becomeTick, fillMemory] := rfl
  have mixed : ∀ request ∈ [becomeTick, fillMemory], request.rule = "ForceName" ∨
      (Registry.builtIn : Registry Service).editsBodies request.rule = true := by
    intro request listed
    rcases List.mem_pair.1 listed with rfl | rfl
    · exact .inl rfl
    · right
      rw [Registry.builtIn_eq]
      rfl
  have unmisled : [becomeTick, fillMemory].Pairwise fun earlier later =>
      ¬ Misleads {} (renamedIterator marked) ⟨0⟩ ⟨1⟩ earlier later := by
    have straight : editedMethod {} ((renamedIterator marked).withName ⟨0⟩ "Tick") ⟨0⟩ = ⟨1⟩ := by
      decide +kernel
    refine List.pairwise_pair.2 ?_
    rintro ⟨_, _, name, asked, misses⟩
    cases asked
    exact misses straight
  refine ⟨holds, ?_⟩
  rcases ran : (withBuiltIns {} []).run.apply
      (⟨renamedIterator marked, []⟩ : Noted Unit Module) with ⟨error | report, ⟨after, notes⟩⟩
  · rw [ran] at succeeds
    cases succeeds
  · obtain ⟨asked, routed, _⟩ := routed_iff (built_renamedIterator marked) rfl holds attached
      (attached_renamedIterator marked) mixed ran
    have edited := routed.2 unmisled
    calc (services {} [] (renamedIterator marked)).map (fun service =>
            (service.request.rule, service.edited))
      _ = ((services {} [] (renamedIterator marked)).map Service.asked).map (fun asked =>
            (asked.2.rule, if asked.2.rule = "ForceName" then none else some ⟨1⟩)) := by
        rw [List.map_map]
        exact List.map_congr_left fun service served => congrArg (Prod.mk _) (edited service served)
      _ = [("ForceName", none), ("PatchInitblk", some ⟨1⟩)] := by
        rw [asked]
        rfl

/-- Without the attribute, the second request edits the method that was renamed, and not the state
machine that the method had at the start. -/
theorem misrouted_renamed :
    (renamedIterator []).stateMachine? ⟨0⟩ = some ⟨1⟩ ∧
      ((withBuiltIns {} []).run.apply
        (⟨renamedIterator [], []⟩ : Noted Unit Module)).1.isOk = true ∧
      (services {} [] (renamedIterator [])).map (fun service =>
          (service.request.rule, service.edited)) =
        [("ForceName", none), ("PatchInitblk", some ⟨0⟩)] := by
  refine ⟨by decide +kernel, by decide +kernel, ?_⟩
  rw [services, announcing, Registry.builtIn_eq]
  cbv

end Patcher
end Retrofit

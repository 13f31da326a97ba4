import Retrofit.Proofs.Run.Agreement
import Retrofit.Proofs.Run.Rerun

/-!
What requests come to in a run with the built-in rules. One that is served changes the workspace in one
of four ways (`effect_of_serveRequest`). If each that is served meets one more wish, then a run that
succeeds meets the wishes of all members before it makes its passes (`Fulfils.run`).
-/

namespace Retrofit.Patcher

open Edit (Ensures)

/-- What the service of a request does to the workspace: it carries out a rule for declarations, or it
puts another body into one method. -/
inductive Effect (member : MemberId) (request : Request) (workspace : Workspace) :
    Workspace → Prop where
  | enters {reached : Workspace} (asks : request.rule = "MakeEntryPoint")
      (ran : (Rule.enterAt ⟨member, request⟩).apply workspace = (.ok (), reached)) :
      Effect member request workspace reached
  | implements {reached : Workspace} (asks : request.rule = "PatchInterface")
      (ran : (Rule.implementInterface ⟨member, request⟩).apply workspace = (.ok (), reached)) :
      Effect member request workspace reached
  | renames {reached : Workspace} (asks : request.rule = "ForceName")
      (ran : (Rule.renameTarget ⟨member, request⟩).apply workspace = (.ok (), reached)) :
      Effect member request workspace reached
  | rewrites (other : request.rule ∉ ["MakeEntryPoint", "PatchInterface", "ForceName"])
      (id : MethodId) (body : Body) :
      Effect member request workspace
        ⟨workspace.module.withMethod id fun method => { method with body := some body },
          workspace.ledger⟩

section Effect

variable {config : Config} {passes : List Pass} {member : MemberId} {request : Request}
  {noted reached final : Noted ν Progress} {elsewhere : Option String}

theorem effect_of_serveOnBody {name description : String} {handler : BodyTask → Edit Cursor Unit}
    (other : request.rule ∉ ["MakeEntryPoint", "PatchInterface", "ForceName"])
    (took : (serve config (Rule.onBody name description handler) member request).apply noted =
      (.ok elsewhere, reached)) :
    Effect member request noted.state.workspace reached.state.workspace := by
  obtain ⟨⟨⟨module, ledger⟩, report⟩, notes⟩ := noted
  obtain ⟨_, rfl, _, _, cursor, _, _, _, rfl⟩ :=
    (serveOnBody_eq_ok fun task => Noted.performs_quietly (handler task)).1 took
  exact .rewrites other _ cursor.body

theorem effect_of_serveRequest
    (done : ((withBuiltIns config passes).serveRequest member request).apply noted =
      (.ok (), final)) :
    Effect member request noted.state.workspace final.state.workspace := by
  obtain ⟨rule, elsewhere, reached, found, took, rfl⟩ := serveRequest_eq_ok.1 done
  have carries : rule.name = request.rule := by simpa using List.find?_some found
  have listed : rule ∈ Rule.builtIn := by
    have listed := List.mem_of_find?_eq_some found
    rwa [withBuiltIns, Registry.rules_builtIn] at listed
  show Effect member request noted.state.workspace reached.state.workspace
  simp only [Rule.builtIn, Rule.forDeclarations, Rule.forSubstitution, Rule.forTypeTests,
    Rule.forThresholds, Rule.forFieldReads, Rule.forGuardedCalls, List.cons_append,
    List.nil_append, List.mem_cons, List.not_mem_nil, or_false] at listed
  rcases listed with rfl | rfl | rfl | rfl | rfl | rfl | rfl | rfl | rfl
  · obtain ⟨workspace, ran, _, rfl⟩ :=
      (serve_eq_ok_of_member rfl fun task => Noted.performs_quietly (Rule.enterAt task)).1 took
    exact .enters carries.symm ran
  · obtain ⟨workspace, ran, _, rfl⟩ :=
      (serve_eq_ok_of_member rfl fun task =>
        Noted.performs_quietly (Rule.implementInterface task)).1 took
    exact .implements carries.symm ran
  · obtain ⟨workspace, ran, _, rfl⟩ :=
      (serve_eq_ok_of_member rfl fun task => Noted.performs_quietly (Rule.renameTarget task)).1 took
    exact .renames carries.symm ran
  all_goals exact effect_of_serveOnBody (by simp [← carries, Rule.onBody]) took

end Effect

/-- A meaning of wishes in the workspace of a run. A request that is served meets its own besides
those that are met already, and taking requests away makes no difference. -/
structure Fulfils (meets : Wishes → Workspace → Prop) : Prop where
  serves : ∀ {wishes : Wishes} {member : MemberId} {request : Request} {workspace reached : Workspace},
    meets wishes workspace → Effect member request workspace reached →
      meets (wishes ++ [(member, request)]) reached
  drops : ∀ {wishes : Wishes} {module : Module} {ledger : Ledger} (member : MemberId),
    meets wishes ⟨module, ledger⟩ →
      meets wishes ⟨((Module.dropRequests member).apply module).2, ledger⟩

/-- A run that has served some members and met some wishes. The other members carry the requests
that they carried at the start. -/
structure Fulfilling (meets : Wishes → Workspace → Prop) (origin : Module) (served : List MemberId)
    (wishes : Wishes) (noted : Noted ν Progress) : Prop where
  parts : noted.state.workspace.module.types.map TypeDef.parts = origin.types.map TypeDef.parts
  requests : ∀ member ∉ served,
    noted.state.workspace.module.requests member = origin.requests member
  met : meets wishes noted.state.workspace

variable {meets : Wishes → Workspace → Prop} {config : Config} {passes : List Pass}
  {origin module after : Module} {served : List MemberId} {wishes : Wishes} {member : MemberId}
  {notes left : List ν} {report : Report}

theorem Fulfilling.insert {noted : Noted ν Progress}
    (fulfilling : Fulfilling meets origin served wishes noted) (member : MemberId) :
    Fulfilling meets origin (served ++ [member]) wishes noted :=
  { fulfilling with
    requests := fun other fresh =>
      fulfilling.requests other fun listed => fresh (List.mem_append_left _ listed) }

namespace Fulfils

variable (fulfils : Fulfils meets)

include fulfils

theorem serveRequests (member : MemberId) (requests : List Request) :
    Ensures (Fulfilling meets origin served wishes)
      (requests.forM ((withBuiltIns config passes : Patcher ν).serveRequest member))
      fun _ => Fulfilling meets origin served (wishes ++ requests.map (Prod.mk member)) := by
  induction requests generalizing wishes with
  | nil =>
    rw [List.map_nil, List.append_nil]
    exact .pure fun _ reached => reached
  | cons request rest ih =>
    rw [List.map_cons, List.append_cons]
    refine .bind (Edit.ensures_of_eq_ok fun noted fulfilling _ final ran => ?_) fun _ => ih
    -- serving moves no member and takes no request away, which is left to the end of the list
    have same := sameTree_serveRequest ran
    exact ⟨same.parts.trans fulfilling.parts,
      fun other fresh => (same.requests other).trans (fulfilling.requests other fresh),
      fulfils.serves fulfilling.met (effect_of_serveRequest ran)⟩

theorem dropRequests (member : MemberId) :
    Ensures (Fulfilling meets origin served wishes)
      (Step.onModule (Module.dropRequests member) : Step ν Unit)
      fun _ => Fulfilling meets origin (served ++ [member]) wishes := by
  rintro ⟨⟨⟨module, ledger⟩, report⟩, notes⟩ ⟨parts, requests, met⟩ _ _
  rw [Step.apply_onModule]
  refine ⟨(Module.parts_changeInfo module member _).trans parts, fun other fresh => ?_,
    fulfils.drops member met⟩
  have apart : other ≠ member := by
    rintro rfl
    exact fresh List.mem_concat_self
  refine (Module.requests_dropRequests module member other).trans ?_
  rw [← requests other fun listed => fresh (List.mem_append_left _ listed)]
  simp only [apart, if_false]
  cases module.requests other <;> rfl

/-- Serving a member meets the wishes that are attached to it. -/
theorem serveMember (fresh : member ∉ served) :
    Ensures (Fulfilling meets origin served wishes)
      ((withBuiltIns config passes : Patcher ν).serveMember member)
      fun _ => Fulfilling meets origin (served ++ [member]) (wishes ++ origin.attached member) := by
  refine Step.ensures_module_bind fun noted fulfilling => .demand_bind fun requests found => ?_
  rw [fulfilling.requests member fresh] at found
  have attached : origin.attached member = requests.map (Prod.mk member) := by
    rw [Module.attached, found]
  rw [attached]
  split
  · refine .bind (.at_state fulfilling (fulfils.serveRequests member requests)) fun _ => ?_
    split
    · exact fulfils.dropRequests member
    · exact .pure fun _ reached => reached.insert member
  · next empty =>
    obtain rfl : requests = [] := by simpa using empty
    rw [List.map_nil, List.append_nil]
    refine .pure fun state same => ?_
    subst same
    exact fulfilling.insert member

theorem serveTypes {order : List TypeId} (once : (origin.membersAlong order).Nodup) :
    Ensures (Fulfilling meets origin [] [])
      (order.forM (serveType (withBuiltIns config passes : Patcher ν)))
      fun _ => Fulfilling meets origin (origin.membersAlong order)
        ((origin.membersAlong order).flatMap origin.attached) := by
  have serving : (withBuiltIns config passes : Patcher ν).Serving origin (origin.membersAlong order)
      (fun served => Fulfilling meets origin served (served.flatMap origin.attached)) := by
    refine ⟨fun _ _ fulfilling => fulfilling.parts, fun served member within => ?_⟩
    have distinct := once.sublist within.sublist
    have fresh : member ∉ served := fun listed =>
      (List.nodup_append.1 distinct).2.2 member listed member (List.mem_singleton_self _) rfl
    rw [List.flatMap_append, List.flatMap_singleton]
    exact fulfils.serveMember fresh
  exact serving.types order (List.prefix_refl _)

/-- A run meets the wishes of all members, each in its turn, and then makes its passes. -/
theorem run (built : module.Built) (start : meets [] ⟨module, {}⟩)
    (succeeds : (withBuiltIns config passes).run.apply ⟨module, notes⟩ =
      (.ok report, ⟨after, left⟩)) :
    ∃ between ledger entries, ∃ order : List MemberId, order.Perm module.members ∧
      meets (order.flatMap module.attached) ⟨between, ledger⟩ ∧
      between.types.map TypeDef.parts = module.types.map TypeDef.parts ∧
      Pass.Series config passes between entries after := by
  have once := built.forest.perm_of_depthFirst built.forest.depthFirst
  have all := built.forest.perm_membersAlong once
  obtain ⟨done, stepped, _, ended⟩ := run_eq_ok.1 succeeds
  obtain ⟨rfl, _⟩ := Noted.mk.inj ended
  rw [Patcher.steps] at stepped
  obtain ⟨_, _, looked, went⟩ := Edit.bind_eq_ok.1 stepped
  cases looked
  obtain ⟨_, ⟨⟨⟨between, ledger⟩, halfway⟩, _⟩, served, made⟩ := Edit.bind_eq_ok.1 went
  obtain ⟨entries, after, series, rfl⟩ := makePasses_eq_ok.1 made
  have begun : Fulfilling meets module [] [] (⟨⟨⟨module, {}⟩, {}⟩, notes⟩ : Noted ν Progress) :=
    ⟨rfl, fun _ _ => rfl, start⟩
  have ensured : Ensures (Fulfilling meets module [] [])
      (module.typesInOrder.forM (serveType (withBuiltIns config passes : Patcher ν))) _ :=
    fulfils.serveTypes (all.nodup_iff.2 module.nodup_members)
  obtain ⟨parts, _, met⟩ := ensured.of_eq_ok served begun
  exact ⟨between, ledger, entries, _, all, met, parts, series⟩

end Fulfils

end Retrofit.Patcher

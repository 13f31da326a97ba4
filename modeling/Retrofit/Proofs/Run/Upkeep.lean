import Retrofit.Proofs.Rule.Declaration
import Retrofit.Proofs.Rule.Registry
import Retrofit.Proofs.Rule.Upkeep
import Retrofit.Proofs.Run.Step

/-!
What a run keeps up. A property of its notes and its module that outlives each request that is served
or dropped and each pass outlives the whole run (`Patcher.Keeps.run`). Requests for the built-in rules
keep a property of the module if the rules for declarations do, and bodies that come from the ones
there (`Patcher.keeps_serveRequest`).
-/

namespace Retrofit

open Edit (Ensures Maintains)

namespace Rule

theorem upheld_develops (start : Body) : Upheld start.Develops where
  labels _ held := held.trans (.of_lines rfl rfl)
  inserted index _ _ formed held := held.trans (Body.develops_inserted _ index formed)
  reworked reworks held := held.trans (Body.develops_changeAt reworks)
  erased _ held := held.trans (Body.develops_erased _ _)

/-- A rule without notes. If it is for declarations, it leaves what they do not matter to; if it is
for bodies, it leaves one that comes from the one before. -/
inductive Developing : Rule ν → Prop where
  | member (name description : String) (serve : MemberTask → Edit Workspace Unit)
      (keeps : ∀ {property : Module → Prop}, Indifferent property → ∀ task,
        (serve task).Keeps fun workspace => property workspace.module) :
      Developing (onMember name description serve)
  | body (name description : String) (serve : BodyTask → Edit Cursor Unit)
      (keeps : ∀ task start, Maintains (Cursor.Holds (Body.Develops start)) (serve task)) :
      Developing (onBody name description serve)

theorem developing_builtIn : ∀ rule ∈ (builtIn : List (Rule ν)), rule.Developing := by
  intro rule listed
  simp only [builtIn, forDeclarations, forSubstitution, forTypeTests, forThresholds, forFieldReads,
    forGuardedCalls, List.cons_append, List.nil_append, List.mem_cons, List.not_mem_nil,
    or_false] at listed
  rcases listed with rfl | rfl | rfl | rfl | rfl | rfl | rfl | rfl | rfl
  · exact .member _ _ _ fun indifferent => indifferent.enterAt
  · exact .member _ _ _ fun indifferent => indifferent.implementInterface
  · exact .member _ _ _ fun indifferent => indifferent.renameTarget
  · exact .body _ _ _ fun _ start => ((upheld_develops start).substituteAll _ _).discard
  · exact .body _ _ _ fun task start => ((upheld_develops start).substituteNamed task).discard
  · exact .body _ _ _ fun task start => (upheld_develops start).extendTypeTests task
  · exact .body _ _ _ fun task start => (upheld_develops start).widenCondition task
  · exact .body _ _ _ fun task start => (upheld_develops start).loadFieldDirectly task
  · exact .body _ _ _ fun task start => (upheld_develops start).guardCall task

end Rule

namespace Patcher

variable {patcher : Patcher ν} {property : Module → Prop} {config : Config} {passes : List Pass}
  {member : MemberId} {request : Request} {report : Report}

/-- What the rule and finishing keep up in a body, work on it keeps up, whether it succeeds or fails.
-/
theorem holds_workOn (property : Body → Prop) {serve : BodyTask → Edit Cursor Unit}
    (serves : ∀ task, Edit.Maintains (Cursor.Holds property) (serve task))
    (finishes : ∀ (body : Body) method policy passes, property body →
      property ((Body.finish method policy passes).apply body).2)
    (config : Config) (module : Module) (target : MethodId) (request : Request) {body : Body}
    (held : property body) : property (workOn config serve module target request body).2.body := by
  have settles (name : String) : Edit.Maintains (Cursor.Holds property) (settle config name) := by
    rw [settle]
    split
    · exact .bind (Cursor.holds_onBody fun later held => finishes later _ _ _ held) fun _ =>
        .pure fun _ _ _ => trivial
    · exact .pure fun _ _ _ => trivial
  let name := module.methodName (editedMethod config module target)
  have works := (serves (taskFor config module target request)).bind fun _ => settles name
  exact (works { body, method := name } held trivial).1

theorem develops_workOn {serve : BodyTask → Edit Cursor Unit}
    (serves : ∀ task start, Maintains (Cursor.Holds (Body.Develops start)) (serve task))
    (config : Config) (module : Module) (target : MethodId) (request : Request) (body : Body) :
    body.Develops (workOn config serve module target request body).2.body :=
  holds_workOn body.Develops (fun task => serves task body)
    (fun later _ _ _ held => held.trans (later.develops_finish _ _ _)) config module target request
    (.refl body)

/-- A property of modules outlives a request for a built-in rule if it outlives what the rules for
declarations do, and another body in a method that comes from the one there. -/
theorem keeps_serveRequest (indifferent : Rule.Indifferent property)
    (bodies : ∀ {module : Module} {id : MethodId} {start body : Body},
      module.bodyOf? id = some start → start.Develops body → property module →
        property (module.withMethod id fun method => { method with body := some body }))
    {noted final : Noted ν Progress}
    (served : ((withBuiltIns config passes).serveRequest member request).apply noted =
      (.ok (), final))
    (held : property noted.state.workspace.module) : property final.state.workspace.module := by
  obtain ⟨⟨⟨module, ledger⟩, report⟩, notes⟩ := noted
  obtain ⟨rule, elsewhere, reached, found, took, rfl⟩ := serveRequest_eq_ok.1 served
  have listed : rule ∈ Rule.builtIn := by
    have listed := List.mem_of_find?_eq_some found
    rwa [withBuiltIns, Registry.rules_builtIn] at listed
  cases Rule.developing_builtIn rule listed with
  | member name description serve keeps =>
    obtain ⟨workspace, acted, _, rfl⟩ :=
      (serve_eq_ok_of_member rfl fun task => Noted.performs_quietly (serve task)).1 took
    exact (keeps indifferent ⟨member, request⟩).of_eq_ok acted held
  | body name description serve keeps =>
    obtain ⟨target, _, body, _, cursor, was, worked, _, rfl⟩ :=
      (serveOnBody_eq_ok fun task => Noted.performs_quietly (serve task)).1 took
    have came : body.Develops cursor.body := by
      have came := develops_workOn keeps (withBuiltIns config passes : Patcher ν).config module target
        request body
      rwa [worked] at came
    exact bodies was came held

/-- The notes and the module of a run have the property. -/
def AtModule (property : List ν → Module → Prop) (noted : Noted ν Progress) : Prop :=
  property noted.notes noted.state.workspace.module

/-- A property of notes and modules that outlives every request that is served or dropped and every
pass. -/
structure Keeps (patcher : Patcher ν) (property : List ν → Module → Prop) : Prop where
  serves : ∀ {member : MemberId} {request : Request} {noted final : Noted ν Progress},
    (patcher.serveRequest member request).apply noted = (.ok (), final) →
      AtModule property noted → AtModule property final
  drops : ∀ member notes module, property notes module →
    property notes ((Module.dropRequests member).apply module).2
  makes : ∀ pass ∈ patcher.passes, ∀ notes, (pass.apply patcher.config).Keeps (property notes)

namespace Keeps

variable {property : List ν → Module → Prop} (keeps : patcher.Keeps property)

include keeps

theorem serveMember (member : MemberId) :
    Ensures (AtModule property) (patcher.serveMember member) fun _ => AtModule property := by
  refine Step.ensures_module_bind fun noted held => .demand_bind fun requests _ => ?_
  have served : Ensures (AtModule property) (requests.forM (patcher.serveRequest member))
      fun _ => AtModule property :=
    .forM fun request _ noted held _ done => keeps.serves (Prod.ext done rfl) held
  split
  · refine .bind (.at_state held served) fun _ => ?_
    split
    · exact fun noted held _ _ => keeps.drops member _ _ held
    · exact .pure fun _ held => held
  · exact .pure fun _ same => same ▸ held

theorem serveType (id : TypeId) :
    Ensures (AtModule property) (patcher.serveType id) fun _ => AtModule property := by
  refine .bind (keeps.serveMember _) fun _ => ?_
  refine Step.ensures_module_bind fun noted held => .at_state held (.demand_bind fun type _ => ?_)
  exact .bind (.forM fun field _ => keeps.serveMember _) fun _ =>
    .forM fun method _ => keeps.serveMember _

theorem makePass {pass : Pass} (listed : pass ∈ patcher.passes) :
    Ensures (AtModule property) (makePass patcher.config pass : Step ν Unit)
      fun _ => AtModule property := by
  refine Edit.ensures_of_eq_ok ?_
  rintro ⟨⟨⟨module, ledger⟩, report⟩, notes⟩ held _ final ran
  obtain ⟨changed, after, made, rfl⟩ := makePass_eq_ok.1 ran
  exact (keeps.makes pass listed notes).of_eq_ok made held

/-- A run that succeeds keeps what each of its steps keeps. -/
theorem run {noted final : Noted ν Module}
    (succeeds : patcher.run.apply noted = (.ok report, final))
    (held : property noted.notes noted.state) : property final.notes final.state := by
  have stepping : Ensures (AtModule property) patcher.steps fun _ => AtModule property := by
    refine Step.ensures_module_bind fun noted held => .at_state held ?_
    exact .bind (.forM fun id _ => keeps.serveType id) fun _ =>
      .forM fun pass listed => keeps.makePass listed
  obtain ⟨done, stepped, _, rfl⟩ := run_eq_ok.1 succeeds
  exact stepping.of_eq_ok stepped held

end Keeps

end Patcher
end Retrofit

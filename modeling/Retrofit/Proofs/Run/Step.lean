import Mathlib
import Retrofit.Proofs.Edit
import Retrofit.Proofs.Module.Bodies
import Retrofit.Run.Patcher

/-!
What the steps of a run do: one equation for each, and for those that serve a request what their
success means.
-/

namespace Retrofit

namespace Noted

theorem apply_note_bind (entry : ν) (rest : Unit → Edit (Noted ν σ) α) (noted : Noted ν σ) :
    (note entry >>= rest).apply noted = (rest ()).apply ⟨noted.state, noted.notes ++ [entry]⟩ := by
  rw [Edit.apply_bind, note]
  simp only [Edit.apply_modify]

/-- The edit does what the plain one does and leaves notes, which depend on the state where it begins
at most. -/
def Performs (entries : σ → List ν) (plain : Edit σ α) (edit : Edit (Noted ν σ) α) : Prop :=
  ∀ noted, edit.apply noted =
    ((plain.apply noted.state).1,
      ⟨(plain.apply noted.state).2, noted.notes ++ entries noted.state⟩)

theorem performs_quietly (edit : Edit σ α) : Performs (fun _ => ([] : List ν)) edit (quietly edit) := by
  intro noted
  rw [List.append_nil]
  rfl

theorem Performs.note_bind {entry : ν} {plain : Edit σ α} {edit : Edit (Noted ν σ) α}
    (quiet : Performs (fun _ => []) plain edit) :
    Performs (fun _ => [entry]) plain (note entry >>= fun _ => edit) := by
  intro noted
  rw [apply_note_bind, quiet, List.append_nil]

theorem Performs.get_bind {entries : σ → List ν} {plain : Edit σ α}
    {next : Noted ν σ → Edit (Noted ν σ) α}
    (performs : ∀ noted, Performs (fun _ => entries noted.state) plain (next noted)) :
    Performs entries plain (get >>= next) := by
  intro noted
  rw [Edit.apply_bind, Edit.apply_get]
  exact performs noted noted

theorem Performs.bind_quietly {entries : σ → List ν} {plain : Edit σ ι} {edit : Edit (Noted ν σ) ι}
    (performs : Performs entries plain edit) (next : Edit σ α) :
    Performs entries (plain >>= fun _ => next) (edit >>= fun _ => quietly next) := by
  intro noted
  rw [Edit.apply_bind, Edit.apply_bind, performs]
  rcases plain.apply noted.state with ⟨_ | _, _⟩ <;> rfl

end Noted

namespace Step

theorem apply_module (noted : Noted ν Progress) :
    (Step.module : Step ν Module).apply noted = (.ok noted.state.workspace.module, noted) := rfl

theorem ensures_module_bind {before : Noted ν Progress → Prop} {after : α → Noted ν Progress → Prop}
    {next : Module → Step ν α}
    (rest : ∀ noted, before noted →
      Edit.Ensures (· = noted) (next noted.state.workspace.module) after) :
    Edit.Ensures before (Step.module >>= next) after := by
  intro noted given value done
  rw [Edit.apply_bind, apply_module] at done ⊢
  exact rest noted given noted rfl value done

theorem apply_onBehalfOf (member rule : String) (step : Step ν α) (noted : Noted ν Progress) :
    (onBehalfOf member rule step).apply noted =
      ((step.apply noted).1.mapError (.ruleFailed member rule), (step.apply noted).2) := by
  rcases ran : step.apply noted with ⟨outcome, after⟩
  have here : step noted = (outcome, after) := ran
  unfold onBehalfOf Edit.apply
  simp only [tryCatch, tryCatchThe, MonadExceptOf.tryCatch, ExceptT.tryCatch, ExceptT.run_mk,
    StateT.run, bind, StateT.bind, here]
  cases outcome <;> rfl

theorem apply_onModule (edit : Edit Module α) (module : Module) (ledger : Ledger) (report : Report)
    (notes : List ν) :
    (onModule edit).apply ⟨⟨⟨module, ledger⟩, report⟩, notes⟩ =
      ((edit.apply module).1, ⟨⟨⟨(edit.apply module).2, ledger⟩, report⟩, notes⟩) := rfl

theorem apply_atBody (id : MethodId) (cursor : Cursor) (edit : Edit (Noted ν Cursor) α)
    (module : Module) (ledger : Ledger) (report : Report) (notes : List ν) :
    (atBody id cursor edit).apply ⟨⟨⟨module, ledger⟩, report⟩, notes⟩ =
      ((edit.apply ⟨cursor, notes⟩).1,
        ⟨⟨⟨module.withMethod id fun method =>
            { method with body := some (edit.apply ⟨cursor, notes⟩).2.state.body }, ledger⟩,
          report⟩, (edit.apply ⟨cursor, notes⟩).2.notes⟩) := rfl

end Step

/-- The report with one more settled body and the branches that became long in it. Where bodies are
left alone it stays. -/
def Report.settled (report : Report) : Option Nat → Report
  | none => report
  | some count =>
    { report with
      bodiesFinished := report.bodiesFinished + 1
      branchesLengthened := report.branchesLengthened + count }

@[simp] theorem Report.applied_settled (report : Report) (widened : Option Nat) :
    (report.settled widened).applied = report.applied := by
  cases widened <;> rfl

@[simp] theorem Report.passes_settled (report : Report) (widened : Option Nat) :
    (report.settled widened).passes = report.passes := by
  cases widened <;> rfl

@[simp] theorem Report.bodiesFinished_settled (report : Report) (widened : Option Nat) :
    (report.settled widened).bodiesFinished =
      report.bodiesFinished + if widened.isSome then 1 else 0 := by
  cases widened <;> rfl

namespace Patcher

/-- The task that a request on a method gives to its rule. -/
def taskFor (config : Config) (module : Module) (target : MethodId) (request : Request) : BodyTask :=
  let method := editedMethod config module target
  ⟨module.withMethod method fun method => { method with body := none }, method, target, request⟩

section Bodies

variable {config : Config} {handler : BodyTask → Edit (Noted ν Cursor) Unit}
  {serve : BodyTask → Edit Cursor Unit} {entries : BodyTask → Cursor → List ν} {module : Module}
  {target : MethodId} {request : Request} {elsewhere : Option String}
  {final : Noted ν Progress}

/-- Where work on the body of the edited method begins. -/
def cursorOn (config : Config) (module : Module) (target : MethodId) (body : Body) : Cursor :=
  { body, method := module.methodName (editedMethod config module target) }

/-- The rule and then the settling, on the body of the edited method. -/
def workOn (config : Config) (serve : BodyTask → Edit Cursor Unit) (module : Module)
    (target : MethodId) (request : Request) (body : Body) :
    Except PatchError (Option Nat) × Cursor :=
  let name := module.methodName (editedMethod config module target)
  (serve (taskFor config module target request) >>= fun _ => settle config name).apply
    { body, method := name }

theorem isSome_of_workOn {body : Body} {widened : Option Nat} {cursor : Cursor}
    (worked : workOn config serve module target request body = (.ok widened, cursor)) :
    widened.isSome = config.finishBodies := by
  obtain ⟨_, between, _, settled⟩ := Edit.bind_eq_ok.1 worked
  rw [settle] at settled
  split at settled
  · next finishes =>
    obtain ⟨_, _, _, ended⟩ := Edit.bind_eq_ok.1 settled
    cases ended
    exact finishes.symm
  · next leaves =>
    cases settled
    simpa using leaves

/-- The name of the edited method if it is not the annotated one. -/
def nameElsewhere (config : Config) (module : Module) (target : MethodId) : Option String :=
  let method := editedMethod config module target
  if method = target then none else some (module.methodName method)

theorem apply_serveOnBody
    (performs : ∀ task, Noted.Performs (entries task) (serve task) (handler task))
    {body : Body} (found : module.bodyOf? (editedMethod config module target) = some body)
    (ledger : Ledger) (report : Report) (notes : List ν) :
    (serveOnBody config handler (.method target) request).apply
        ⟨⟨⟨module, ledger⟩, report⟩, notes⟩ =
      let (outcome, cursor) := workOn config serve module target request body
      let after := module.withMethod (editedMethod config module target) fun method =>
        { method with body := some cursor.body }
      let notes := notes ++
        entries (taskFor config module target request) (cursorOn config module target body)
      match outcome with
      | .ok widened =>
        (.ok (nameElsewhere config module target), ⟨⟨⟨after, ledger⟩, report.settled widened⟩, notes⟩)
      | .error error => (.error error, ⟨⟨⟨after, ledger⟩, report⟩, notes⟩) := by
  obtain ⟨method, listed, has⟩ := Option.bind_eq_some_iff.1 found
  rw [serveOnBody, Edit.apply_bind, Step.apply_module]
  dsimp only
  rw [Edit.apply_bind, Edit.apply_demand, Module.methodAt, listed]
  dsimp only
  rw [has]
  dsimp only
  have worked : Edit.apply
      (handler (taskFor config module target request) >>= fun _ => Noted.quietly
        (settle config (module.methodName (editedMethod config module target))))
      ⟨{ body, method := module.methodName (editedMethod config module target) }, notes⟩ =
      ((workOn config serve module target request body).1,
        ⟨(workOn config serve module target request body).2,
          notes ++ entries (taskFor config module target request)
            (cursorOn config module target body)⟩) :=
    (performs _).bind_quietly _ _
  rw [taskFor] at worked
  rw [Edit.apply_bind, Step.apply_atBody, worked]
  rcases workOn config serve module target request body with ⟨error | widened, cursor⟩
  · rfl
  · cases widened <;> rfl

/-- A request on a body is served where the edited method has one and the work on it succeeds. -/
theorem serveOnBody_eq_ok
    (performs : ∀ task, Noted.Performs (entries task) (serve task) (handler task))
    {member : MemberId} {ledger : Ledger} {report : Report} {notes : List ν} :
    (serveOnBody config handler member request).apply ⟨⟨⟨module, ledger⟩, report⟩, notes⟩ =
        (.ok elsewhere, final) ↔
      ∃ target, member = .method target ∧ ∃ body widened cursor,
        module.bodyOf? (editedMethod config module target) = some body ∧
        workOn config serve module target request body = (.ok widened, cursor) ∧
        elsewhere = nameElsewhere config module target ∧
        final = ⟨⟨⟨module.withMethod (editedMethod config module target) fun method =>
              { method with body := some cursor.body }, ledger⟩, report.settled widened⟩,
            notes ++ entries (taskFor config module target request)
              (cursorOn config module target body)⟩ := by
  cases member with
  | type id => simp [serveOnBody, Edit.apply_bind, Step.apply_module]
  | field id => simp [serveOnBody, Edit.apply_bind, Step.apply_module]
  | method target =>
    simp only [MemberId.method.injEq, exists_eq_left']
    cases found : module.bodyOf? (editedMethod config module target) with
    | some body =>
      rw [apply_serveOnBody performs found]
      rcases worked : workOn config serve module target request body with ⟨error | widened, cursor⟩
      · refine ⟨nofun, ?_⟩
        rintro ⟨_, _, _, ⟨⟩, done, _⟩
        rw [worked] at done
        cases done
      · constructor
        · rintro ⟨⟩
          exact ⟨body, widened, cursor, rfl, worked, rfl, rfl⟩
        · rintro ⟨_, _, _, ⟨⟩, done, rfl, rfl⟩
          rw [worked] at done
          cases done
          rfl
    | none =>
      rw [serveOnBody, Edit.apply_bind, Step.apply_module]
      dsimp only
      rw [Edit.apply_bind, Edit.apply_demand, Module.methodAt]
      rw [Module.bodyOf?] at found
      cases listed : module.methods[(editedMethod config module target).index]? with
      | none => simp
      | some method =>
        rw [listed] at found
        change method.body = none at found
        simp [found]

end Bodies

/-- A request on a declaration is served where the rule succeeds. -/
theorem serve_eq_ok_of_member {config : Config} {rule : Rule ν}
    {handler : MemberTask → Edit (Noted ν Workspace) Unit} {serve : MemberTask → Edit Workspace Unit}
    {entries : MemberTask → Workspace → List ν} (handles : rule.handler = .member handler)
    (performs : ∀ task, Noted.Performs (entries task) (serve task) (handler task))
    {member : MemberId} {request : Request} {workspace : Workspace} {report : Report}
    {notes : List ν} {elsewhere : Option String} {final : Noted ν Progress} :
    (Patcher.serve config rule member request).apply ⟨⟨workspace, report⟩, notes⟩ =
        (.ok elsewhere, final) ↔
      ∃ reached, (serve ⟨member, request⟩).apply workspace = (.ok (), reached) ∧
        elsewhere = none ∧
        final = ⟨⟨reached, report⟩, notes ++ entries ⟨member, request⟩ workspace⟩ := by
  have served : (Step.onWorkspace (handler ⟨member, request⟩)).apply ⟨⟨workspace, report⟩, notes⟩ =
      (((serve ⟨member, request⟩).apply workspace).1,
        ⟨⟨((serve ⟨member, request⟩).apply workspace).2, report⟩,
          notes ++ entries ⟨member, request⟩ workspace⟩) := by
    rw [Step.onWorkspace, Noted.within, Edit.apply_within, performs]
  rw [Patcher.serve, handles]
  dsimp only
  rw [Edit.apply_bind, served]
  rcases (serve ⟨member, request⟩).apply workspace with ⟨error | ⟨⟩, reached⟩
  · simp
  · simp [eq_comm]

/-- Serving a request succeeds where there is a rule of its name that does. -/
theorem serveRequest_eq_ok {patcher : Patcher ν} {member : MemberId} {request : Request}
    {noted final : Noted ν Progress} :
    (patcher.serveRequest member request).apply noted = (.ok (), final) ↔
      ∃ rule elsewhere reached, patcher.registry.get? request.rule = some rule ∧
        (Patcher.serve patcher.config rule member request).apply noted = (.ok elsewhere, reached) ∧
        final = { reached with
          state.report.applied := reached.state.report.applied ++
            [⟨request.rule, noted.state.workspace.module.nameOf member, elsewhere⟩] } := by
  rw [serveRequest, Edit.apply_bind, Step.apply_module]
  dsimp only
  cases patcher.registry.get? request.rule with
  | none => simp
  | some rule =>
    dsimp only
    rw [Edit.apply_bind, Step.apply_onBehalfOf]
    simp only [Option.some.injEq, exists_and_left, exists_eq_left']
    rcases (Patcher.serve patcher.config rule member request).apply noted with
      ⟨error | elsewhere, reached⟩
    · simp [Except.mapError]
    · simp only [Except.mapError, Step.report, Edit.apply_modify, Prod.mk.injEq, Except.ok.injEq,
        true_and]
      constructor
      · rintro rfl
        exact ⟨elsewhere, reached, ⟨rfl, rfl⟩, rfl⟩
      · rintro ⟨_, _, ⟨rfl, rfl⟩, rfl⟩
        rfl

/-- A pass is made where its change of the module succeeds. -/
theorem makePass_eq_ok {config : Config} {pass : Pass} {module : Module} {ledger : Ledger}
    {report : Report} {notes : List ν} {final : Noted ν Progress} :
    (makePass config pass).apply ⟨⟨⟨module, ledger⟩, report⟩, notes⟩ = (.ok (), final) ↔
      ∃ changed after, (pass.apply config).apply module = (.ok changed, after) ∧
        final = ⟨⟨⟨after, ledger⟩,
          { report with passes := report.passes ++ [(pass.name, changed)] }⟩, notes⟩ := by
  rw [makePass, Edit.apply_bind, Step.apply_module]
  dsimp only
  rw [Edit.apply_bind, Step.apply_onBehalfOf, Step.apply_onModule]
  rcases (pass.apply config).apply module with ⟨error | changed, after⟩
  · simp [Except.mapError]
  · simp only [Except.mapError, Step.report, Edit.apply_modify, Prod.mk.injEq, Except.ok.injEq,
      true_and]
    constructor
    · rintro rfl
      exact ⟨changed, after, ⟨rfl, rfl⟩, rfl⟩
    · rintro ⟨_, _, ⟨rfl, rfl⟩, rfl⟩
      rfl

theorem apply_run (patcher : Patcher ν) (noted : Noted ν Module) :
    patcher.run.apply noted =
      match patcher.steps.apply ⟨⟨⟨noted.state, {}⟩, {}⟩, noted.notes⟩ with
      | (.ok (), done) => (.ok done.state.report, ⟨done.state.workspace.module, done.notes⟩)
      | (.error error, done) => (.error error, ⟨noted.state, done.notes⟩) := rfl

/-- A run succeeds where its steps do. -/
theorem run_eq_ok {patcher : Patcher ν} {noted after : Noted ν Module} {report : Report} :
    patcher.run.apply noted = (.ok report, after) ↔
      ∃ done, patcher.steps.apply ⟨⟨⟨noted.state, {}⟩, {}⟩, noted.notes⟩ = (.ok (), done) ∧
        report = done.state.report ∧ after = ⟨done.state.workspace.module, done.notes⟩ := by
  rw [apply_run]
  rcases patcher.steps.apply ⟨⟨⟨noted.state, {}⟩, {}⟩, noted.notes⟩ with ⟨error | ⟨⟩, done⟩
  · simp
  · simp [eq_comm]

end Patcher
end Retrofit

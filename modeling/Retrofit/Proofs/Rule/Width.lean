import Retrofit.Proofs.Cursor.Width
import Retrofit.Proofs.Module.Width
import Retrofit.Rule.BuiltIn

/-!
Rules and the width of branches. All but one of the built-in rules do the same whichever width the
branches of the module have; the one for type tests looks for short branches only.
-/

namespace Retrofit

open Cursor (Follow)

namespace Module

theorem ownerOf_outline (module : Module) (method : MethodId) :
    module.outline.ownerOf method = module.ownerOf method := by
  rw [ownerOf, ownerOf, methodAt_outline]
  cases module.methodAt method <;> rfl

theorem lacking_outline (module : Module) (owner : TypeId) (name : String) :
    module.outline.lacking owner name = module.lacking owner name := by
  rw [lacking, typeName_outline, lacking]

theorem fieldIn_outline (module : Module) (owner : TypeId) (name : String) :
    module.outline.fieldIn owner name = module.fieldIn owner name := by
  have found : module.outline.findField? owner name = module.findField? owner name := rfl
  rw [fieldIn, found, lacking_outline, fieldIn]

theorem pathFrom_outline (module : Module) (owner : TypeId) (names : List String) :
    module.outline.pathFrom owner names = module.pathFrom owner names := by
  induction names generalizing owner with
  | nil => rfl
  | cons name rest ih =>
    rw [pathFrom, pathFrom]
    simp only [fieldIn_outline, refToField_outline, findType?_outline, ih]

theorem methodFrom_outline (module : Module) (owner : TypeId) (name : String) :
    module.outline.methodFrom owner name = module.methodFrom owner name := by
  rw [methodFrom, methodFrom, methodNamed_outline, findMethod?_outline, lacking_outline]

end Module

/-- The workspace with the short branches of the chosen methods in their long form. -/
def Workspace.lengthenedAt (chosen : MethodId → Bool) (workspace : Workspace) : Workspace :=
  { workspace with module := workspace.module.lengthenedAt chosen }

/-- The edit does the same whichever bodies are in the long form. -/
abbrev Workspace.Follow (chosen : MethodId → Bool) (edit other : Edit Workspace α) : Prop :=
  Edit.Follows (Edit.Both fun left right => right = left.lengthenedAt chosen) edit other
    (Edit.Both fun left right => right = left.lengthenedAt chosen)

namespace Workspace

variable {chosen : MethodId → Bool}

theorem follow_onLedger (edit : Edit Ledger α) : Follow chosen (onLedger edit) (onLedger edit) := by
  refine .both ?_
  rintro ⟨module, ledger⟩ _ rfl value final done
  have outcome : (edit.apply ledger).1 = .ok value := congrArg Prod.fst done
  obtain rfl := congrArg Prod.snd done
  exact ⟨_, Prod.ext outcome rfl, rfl⟩

theorem follow_onModule {edit : Edit Module α} (ignores : Module.IgnoresWidths edit) :
    Follow chosen (onModule edit) (onModule edit) := by
  refine .both ?_
  rintro ⟨module, ledger⟩ _ rfl value final done
  have again := ignores chosen module
  have outcome : (edit.apply module).1 = .ok value := congrArg Prod.fst done
  obtain rfl := congrArg Prod.snd done
  refine ⟨⟨(edit.apply (module.lengthenedAt chosen)).2, ledger⟩, Prod.ext ?_ rfl, ?_⟩
  · exact (congrArg Prod.fst again).trans outcome
  · exact congrArg (Workspace.mk · ledger) (congrArg Prod.snd again)

end Workspace

namespace Rule

theorem methodTarget_lengthenedAt (task : MemberTask) (chosen : MethodId → Bool) (module : Module) :
    task.methodTarget (module.lengthenedAt chosen) = task.methodTarget module := by
  have names := Module.nameOf_lengthenedAt chosen module
  simp only [MemberTask.methodTarget, names]

theorem follow_enterAt (chosen : MethodId → Bool) (task : MemberTask) :
    Workspace.Follow chosen (enterAt task) (enterAt task) := by
  refine .get_bind ?_
  rintro ⟨module, ledger⟩ _ rfl
  dsimp only [Workspace.lengthenedAt]
  rw [methodTarget_lengthenedAt]
  refine .demand_bind fun method _ => .bind (Workspace.follow_onLedger _) fun _ => ?_
  exact Workspace.follow_onModule fun _ _ => rfl

theorem follow_implementInterface (chosen : MethodId → Bool) (task : MemberTask) :
    Workspace.Follow chosen (implementInterface task) (implementInterface task) := by
  refine .get_bind ?_
  rintro ⟨module, ledger⟩ _ rfl
  dsimp only [Workspace.lengthenedAt]
  rw [methodTarget_lengthenedAt]
  refine .demand_bind fun id _ => Workspace.follow_onModule ?_
  exact Module.ignoresWidths_changeMethod id fun _ => rfl

theorem follow_renameTarget (chosen : MethodId → Bool) (task : MemberTask) :
    Workspace.Follow chosen (renameTarget task) (renameTarget task) := by
  refine .get_bind ?_
  rintro ⟨module, ledger⟩ _ rfl
  dsimp only [Workspace.lengthenedAt]
  rw [Module.nameOf_lengthenedAt]
  refine .demand_bind fun name _ => .ite .throw ?_
  refine .bind (Workspace.follow_onLedger _) fun _ => Workspace.follow_onModule ?_
  exact Module.ignoresWidths_changeInfo task.target _

end Rule

/-- The task with the outline of its module. -/
def BodyTask.outlined (task : BodyTask) : BodyTask := { task with module := task.module.outline }

namespace Rule

/-- A rule that reads off the module what its outline says, and of a body everything but the width
of its branches. -/
structure Blind (serve : BodyTask → Edit Cursor Unit) : Prop where
  outlined : ∀ task : BodyTask, serve task.outlined = serve task
  follow : ∀ task, Follow (serve task) (serve task)

theorem follow_substituteNext (placeholder : String) (opcode : Opcode) (calls count : Nat) :
    Follow (substituteNext placeholder opcode calls count)
      (substituteNext placeholder opcode calls count) := by
  have blind : (placeholderCall placeholder).Blind :=
    Window.blind_singleton (Matcher.blind_memberAccess (by decide) _ _ _)
  induction calls generalizing count with
  | zero => exact .pure fun _ _ alike => alike
  | succ calls ih =>
    refine .bind (Cursor.follow_trySeek blind .next .before) fun found => .ite ?_ ?_
    · exact .bind (Cursor.follow_overwrite rfl .none) fun _ => ih _
    · exact .pure fun _ _ alike => alike

theorem follow_substituteAll (placeholder : String) (opcode : Opcode) :
    Follow (substituteAll placeholder opcode) (substituteAll placeholder opcode) := by
  refine .get_bind fun left right alike => ?_
  rw [alike.length]
  exact follow_substituteNext placeholder opcode _ _

theorem blind_substituteAll (placeholder : String) (opcode : Opcode) :
    Blind fun _ => discard (substituteAll placeholder opcode) where
  outlined _ := rfl
  follow _ := (follow_substituteAll placeholder opcode).discard

theorem blind_substituteNamed : Blind fun task => discard (substituteNamed task) where
  outlined _ := rfl
  follow task := by
    have follow : Follow (substituteNamed task) (substituteNamed task) :=
      .demand_bind fun placeholder _ => .demand_bind fun _ _ => .demand_bind fun opcode _ =>
        follow_substituteAll placeholder opcode
    exact follow.discard

theorem follow_emitPath (path : List MemberRef) : Follow (emitPath path) (emitPath path) :=
  .forM fun _ _ => .bind (Cursor.follow_emit rfl _) fun _ => .pure fun _ _ alike => alike

/-- The jump that is reworked keeps its width, and so does the one that is added. -/
theorem follow_widenThreshold (path : List MemberRef) :
    Follow (widenThreshold path) (widenThreshold path) := by
  refine .get_bind fun left right alike => ?_
  have reads (index : Nat) : (left.body.instrAt? index).map Instr.widened =
      (right.body.instrAt? index).map Instr.widened := by
    rw [← Body.instrAt?_lengthened, alike.body, Body.instrAt?_lengthened]
  have threshold (index : Nat) : (left.body.instrAt? index).map Instr.operand =
      (right.body.instrAt? index).map Instr.operand := by
    have carried := congrArg (Option.map Instr.operand) (reads index)
    rwa [Option.map_map, Option.map_map] at carried
  have jumps := reads (left.index + 2)
  rw [threshold, ← alike.index]
  dsimp only
  cases present : left.body.instrAt? (left.index + 2) with
  | none => exact .throw
  | some skip =>
    rw [present] at jumps
    obtain ⟨other, there, same⟩ := Option.map_eq_some_iff.1 jumps.symm
    obtain ⟨opcode, operand⟩ := Instr.mk.inj same
    rw [there]
    dsimp only
    rw [operand]
    have admits : Opcode.lengthened (if skip.opcode.isShortJump then .bgtS else .bgt) =
        Opcode.lengthened (if other.opcode.isShortJump then .bgtS else .bgt) := by
      split <;> split <;> rfl
    exact
      .bind (Cursor.follow_moveTo _) fun _ =>
      .bind Cursor.follow_newLabel fun _ =>
      .bind (Cursor.follow_overwrite admits _) fun _ =>
      .bind (Cursor.follow_moveTo _) fun _ =>
      .bind (Cursor.follow_emit rfl _) fun _ =>
      .bind (follow_emitPath path) fun _ =>
      .bind (Cursor.follow_emit rfl _) fun _ =>
      .bind (Cursor.follow_emit opcode.symm _) fun _ =>
      Cursor.follow_placeLabelHere _

theorem blind_widenCondition : Blind widenCondition where
  outlined task := by
    simp only [widenCondition, BodyTask.outlined, BodyTask.editedName, Module.ownerOf_outline,
      Module.typeName_outline, Module.pathFrom_outline, Module.methodName_outline]
  follow task := by
    refine .demand_bind fun field _ => .demand_bind fun alternate _ => ?_
    refine .demand_bind fun owner _ => .demand_bind fun path _ => ?_
    refine .bind (Cursor.follow_trySeek ?_ .next .before) fun found => ?_
    · exact Window.blind_cons (Matcher.blind_memberAccess (by decide) _ _ _) <|
        Window.blind_cons (Matcher.blind_opcode rfl rfl) <|
        Window.blind_singleton (Matcher.blind_branch .bleUn)
    · exact .ite (follow_widenThreshold path) .throw

theorem blind_getterWindow (getter : String) : (getterWindow getter).Blind :=
  Window.blind_cons (Matcher.blind_opcode rfl rfl) <|
    Window.blind_singleton (Matcher.blind_memberAccess (by decide) _ _ _)

theorem follow_replaceNextReads (getter : String) (field : MemberRef) (reads count : Nat) :
    Follow (replaceNextReads getter field reads count)
      (replaceNextReads getter field reads count) := by
  induction reads generalizing count with
  | zero => exact .pure fun _ _ alike => alike
  | succ reads ih =>
    refine .bind (Cursor.follow_trySeek (blind_getterWindow getter) .next .before) fun found =>
      .ite ?_ (.pure fun _ _ alike => alike)
    refine .bind (Cursor.follow_overwrite rfl _) fun _ => .get_bind fun left right alike => ?_
    rw [alike.index]
    exact .bind (Cursor.follow_moveTo _) fun _ => Cursor.follow_erase_bind (ih (count + 1))

theorem blind_loadFieldDirectly : Blind loadFieldDirectly where
  outlined task := by
    simp only [loadFieldDirectly, BodyTask.outlined, Module.ownerOf_outline, Module.fieldIn_outline,
      Module.refToField_outline]
  follow task := by
    refine .demand_bind fun getter _ => .demand_bind fun name _ => .demand_bind fun owner _ => ?_
    refine .demand_bind fun field _ => .demand_bind fun ref _ => ?_
    refine .get_bind fun left right alike => ?_
    rw [alike.length]
    exact .bind (follow_replaceNextReads getter ref _ 0) fun count =>
      .ite .throw (.pure fun _ _ alike => alike)

theorem resolveFlag_outline (module : Module) (owner : TypeId) (name : String) :
    resolveFlag module.outline owner name = resolveFlag module owner name := by
  simp only [resolveFlag, Module.fieldIn_outline, Module.refToField_outline]
  rfl

theorem resolveHook_outline (module : Module) (owner : TypeId) (name : String) :
    resolveHook module.outline owner name = resolveHook module owner name := by
  simp only [resolveHook, Module.methodFrom_outline, Module.refToMethod_outline,
    Module.methodAt_outline]
  refine congrArg (module.methodFrom owner name >>= ·) (funext fun id => ?_)
  cases module.methodAt id <;> rfl

theorem follow_emitGuardedCall (flag hook : Resolved) :
    Follow (emitGuardedCall flag hook) (emitGuardedCall flag hook) := by
  refine .bind Cursor.follow_newLabel fun skip => ?_
  have called : Follow
      (do
        let _ ← Cursor.emit .call (.member hook.ref)
        Cursor.placeLabelHere skip)
      (do
        let _ ← Cursor.emit .call (.member hook.ref)
        Cursor.placeLabelHere skip) :=
    .bind (Cursor.follow_emit rfl _) fun _ => Cursor.follow_placeLabelHere skip
  have guarded : Follow
      (do
        let _ ← Cursor.emit .brfalseS (.label skip)
        if !hook.isStatic then
          let _ ← Cursor.emit .ldarg0
        let _ ← Cursor.emit .call (.member hook.ref)
        Cursor.placeLabelHere skip)
      (do
        let _ ← Cursor.emit .brfalseS (.label skip)
        if !hook.isStatic then
          let _ ← Cursor.emit .ldarg0
        let _ ← Cursor.emit .call (.member hook.ref)
        Cursor.placeLabelHere skip) :=
    .bind (Cursor.follow_emit rfl _) fun _ =>
      .ite (.bind (Cursor.follow_emit rfl _) fun _ => called) called
  refine .ite ?_ ?_
  · exact .bind (Cursor.follow_emit rfl _) fun _ => guarded
  · refine .bind (Cursor.follow_emit rfl _) fun _ => ?_
    exact .bind (Cursor.follow_emit rfl _) fun _ => guarded

theorem blind_guardCall : Blind guardCall where
  outlined task := by
    simp only [guardCall, BodyTask.outlined, BodyTask.editedName, Module.ownerOf_outline,
      resolveFlag_outline, resolveHook_outline, Module.methodName_outline]
  follow task := by
    refine .demand_bind fun target _ => .demand_bind fun flagName _ => ?_
    refine .demand_bind fun hookName _ => .demand_bind fun owner _ => ?_
    refine .demand_bind fun flag _ => .demand_bind fun hook _ => ?_
    refine .bind (Cursor.follow_trySeek ?_ .next .behind) fun found => ?_
    · exact Window.blind_singleton (Matcher.blind_memberAccess (by decide) _ _ _)
    · exact .ite (follow_emitGuardedCall flag hook) .throw

theorem exists_of_opensAt {body : Body} {window : Window} {index : Nat}
    (opens : window.opensAt body index = true) {matcher : Matcher} (listed : matcher ∈ window) :
    ∃ instr ∈ body.instrs, matcher instr = true := by
  induction window generalizing index with
  | nil => cases listed
  | cons first rest ih =>
    rw [Window.opensAt, Bool.and_eq_true, Body.instrAt?_eq, Option.any_eq_true] at opens
    obtain ⟨⟨instr, here, satisfied⟩, later⟩ := opens
    rcases List.mem_cons.1 listed with rfl | listed
    · exact ⟨instr, List.mem_of_getElem? here, satisfied⟩
    · exact ih later listed

/-- In a body all of whose branches are long no window with a short branch opens. -/
theorem opensAt_of_allLong {body : Body} (long : body.AllLong) {window : Window} (opcode : Opcode)
    (short : opcode.isShortJump = true) (listed : Matcher.opcode opcode ∈ window) (index : Nat) :
    window.opensAt body index = false := by
  by_contra opens
  obtain ⟨instr, held, same⟩ := exists_of_opensAt (Bool.of_not_eq_false opens) listed
  rw [← of_decide_eq_true same, long instr held] at short
  cases short

theorem nextTest?_of_allLong {cursor : Cursor} (long : cursor.body.AllLong) (anchor : String) :
    nextTest? cursor anchor = none := by
  have chain (index : Nat) : (chainWindow anchor).opensAt cursor.body index = false :=
    opensAt_of_allLong long .brtrueS rfl (by simp [chainWindow]) index
  have guard (index : Nat) : (guardWindow anchor).opensAt cursor.body index = false :=
    opensAt_of_allLong long .brfalseS rfl (by simp [guardWindow]) index
  simp [nextTest?, chain, guard, Cursor.nearest?_eq]

theorem ensures_extendTypeTests_of_allLong (task : BodyTask) :
    Edit.Ensures (fun cursor : Cursor => cursor.body.AllLong) (extendTypeTests task) fun _ _ =>
      False := by
  refine .demand_bind fun anchor _ => .demand_bind fun extra _ => .get_bind fun cursor long => ?_
  have none : (extendNextTests anchor extra (cursor.body.length + 1) 0).apply cursor =
      (.ok 0, cursor) := by
    rw [extendNextTests, Edit.apply_bind, Edit.apply_get]
    dsimp only
    rw [nextTest?_of_allLong long]
    rfl
  rintro _ rfl _ done
  rw [Edit.apply_bind, none] at done
  cases done

end Rule
end Retrofit

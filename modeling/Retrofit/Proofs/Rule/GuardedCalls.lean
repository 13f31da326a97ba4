import Retrofit.Proofs.Body.Control
import Retrofit.Proofs.Cursor.Emission
import Retrofit.Proofs.Rule.Frame

/-!
What guarded calls do. Behind the first call of the target come a load of the flag, a jump over the
rest, and a call of the hook. If the flag is unset they change nothing. If it is set the hook is called
once, with whatever is on the stack for its arguments, and leaves there what it returns.
-/

namespace Retrofit

namespace Rule

/-- What loads a flag. -/
def Resolved.loading (flag : Resolved) : List Instr :=
  if flag.isStatic then [⟨.ldsfld, .member flag.ref⟩]
  else [⟨.ldarg0, .none⟩, ⟨.ldfld, .member flag.ref⟩]

/-- What loads the object on which a hook is called. -/
def Resolved.receiver (hook : Resolved) : List Instr :=
  if hook.isStatic then [] else [⟨.ldarg0, .none⟩]

/-- A call of the hook that is skipped unless the flag is set. -/
def guardedCode (flag hook : Resolved) (skip : LabelId) : List Instr :=
  flag.loading ++ ⟨.brfalseS, .label skip⟩ :: (hook.receiver ++ [⟨.call, .member hook.ref⟩])

section Insertion

variable {body : Body} {method : String} {front back : List Line} {instrs : List Instr}

theorem ensures_emitGuardedCall_spliced (flag hook : Resolved) :
    Edit.Ensures (· = Cursor.between body method front back) (emitGuardedCall flag hook)
      fun _ cursor =>
        body.Spliced front (guardedCode flag hook ⟨body.labels.size⟩) back cursor.body := by
  let skip : LabelId := ⟨body.labels.size⟩
  let Reached (instrs : List Instr) := Cursor.Emitted body.withLabel method front back instrs
  have called (instrs : List Instr) : Edit.Ensures (Reached instrs)
      (do
        let _ ← Cursor.emit .call (.member hook.ref)
        Cursor.placeLabelHere skip)
      fun _ cursor =>
        body.Spliced front (instrs ++ [⟨.call, .member hook.ref⟩]) back cursor.body :=
    .bind (Cursor.ensures_emit_emitted _ _) fun _ => Cursor.ensures_placeLabelHere_emitted
  have guarded (instrs : List Instr) : Edit.Ensures (Reached instrs)
      (do
        let _ ← Cursor.emit .brfalseS (.label skip)
        if !hook.isStatic then
          let _ ← Cursor.emit .ldarg0
        let _ ← Cursor.emit .call (.member hook.ref)
        Cursor.placeLabelHere skip)
      fun _ cursor => body.Spliced front
        (instrs ++ ⟨.brfalseS, .label skip⟩ :: (hook.receiver ++ [⟨.call, .member hook.ref⟩])) back
        cursor.body := by
    refine .bind (Cursor.ensures_emit_emitted _ _) fun _ => ?_
    cases static : hook.isStatic with
    | false =>
      have made := Edit.Ensures.bind (Cursor.ensures_emit_emitted .ldarg0 .none) fun _ =>
        called (instrs ++ [⟨.brfalseS, .label skip⟩] ++ [⟨.ldarg0, .none⟩])
      simpa [Resolved.receiver, static] using made
    | true =>
      have made := called (instrs ++ [⟨.brfalseS, .label skip⟩])
      simpa [Resolved.receiver, static] using made
  refine .bind Cursor.ensures_newLabel_emitted fun label => .of_known ?_
  rintro rfl
  dsimp only
  split
  · next static =>
    rw [guardedCode, Resolved.loading, if_pos static]
    exact .bind (Cursor.ensures_emit_emitted _ _) fun _ => guarded [⟨.ldsfld, .member flag.ref⟩]
  · next bound =>
    rw [guardedCode, Resolved.loading, if_neg bound]
    exact .bind (Cursor.ensures_emit_emitted _ _) fun _ =>
      .bind (Cursor.ensures_emit_emitted _ _) fun _ =>
      guarded [⟨.ldarg0, .none⟩, ⟨.ldfld, .member flag.ref⟩]

theorem targetCall_ne_nil (target : String) : targetCall target ≠ [] := List.cons_ne_nil _ _

theorem opens_targetCall (target : String) (instr : Instr) (rest : List Instr) :
    (targetCall target).opens (instr :: rest) = (targetCall target).opens [instr] := rfl

/-- What a request that succeeds has put in, and where: behind the first call of the target. -/
theorem exists_spliced_of_guardCall {task : BodyTask} {finish : Cursor}
    (served : (guardCall task).apply { body, method } = (.ok (), finish)) :
    ∃ target flagName hookName owner flag hook front call back,
      task.request.textArg 0 = .ok target ∧ task.request.textArg 1 = .ok flagName ∧
      task.request.textArg 2 = .ok hookName ∧ task.module.ownerOf task.method = .ok owner ∧
      resolveFlag task.module owner flagName = .ok flag ∧
      resolveHook task.module owner hookName = .ok hook ∧
      body.lines.toList = front ++ call :: back ∧ (targetCall target).opens [call.instr] = true ∧
      (∀ line ∈ front, (targetCall target).opens [line.instr] = false) ∧
      body.Spliced (front ++ [call]) (guardedCode flag hook ⟨body.labels.size⟩) back finish.body := by
  obtain ⟨target, first, served⟩ := Edit.demand_bind_eq_ok.1 served
  obtain ⟨flagName, second, served⟩ := Edit.demand_bind_eq_ok.1 served
  obtain ⟨hookName, third, served⟩ := Edit.demand_bind_eq_ok.1 served
  obtain ⟨owner, owned, served⟩ := Edit.demand_bind_eq_ok.1 served
  obtain ⟨flag, flagged, served⟩ := Edit.demand_bind_eq_ok.1 served
  obtain ⟨hook, hooked, served⟩ := Edit.demand_bind_eq_ok.1 served
  rw [Cursor.eq_between] at served
  obtain ⟨absent, -⟩ | ⟨skipped, rest, lines, opens, closed, sought⟩ :=
    Cursor.apply_trySeek_between (targetCall_ne_nil target) .behind body method [] body.lines.toList
  · rw [Edit.apply_bind_of_ok absent] at served
    cases served
  · obtain ⟨call, back, rfl⟩ : ∃ call back, rest = call :: back :=
      List.exists_cons_of_ne_nil (by rintro rfl; cases opens)
    have landed : (Cursor.between body method [] body.lines.toList).landed .behind
        (targetCall target) ([] ++ skipped).length =
          Cursor.between body method (skipped ++ [call]) back := by
      rw [lines]
      exact Cursor.landed_behind_between body method [] skipped [call] back rfl
    rw [Edit.apply_bind_of_ok sought, landed, if_pos rfl] at served
    have spliced := (ensures_emitGuardedCall_spliced flag hook).of_eq_ok served rfl
    refine ⟨target, flagName, hookName, owner, flag, hook, skipped, call, back, first, second, third,
      owned, flagged, hooked, lines, ?_, ?_, spliced⟩
    · rwa [List.map_cons, opens_targetCall] at opens
    · intro line listed
      obtain ⟨place, inside, rfl⟩ := List.getElem_of_mem listed
      have shut := closed place inside
      rw [lines, List.drop_append_of_le_length (Nat.le_of_lt inside),
        List.drop_eq_getElem_cons inside] at shut
      exact shut

end Insertion

end Rule

namespace Machine

variable {α : Type}

/-- What a flag holds. -/
def held (machine : Machine α) (flag : Rule.Resolved) : α :=
  if flag.isStatic then machine.shared flag.ref
  else machine.field flag.ref machine.argument

/-- The stack on which a hook is called. -/
def receiving (machine : Machine α) (hook : Rule.Resolved) (stack : List α) : List α :=
  if hook.isStatic then stack else machine.argument :: stack

variable (machine : Machine α)

theorem run_loading (flag : Rule.Resolved) (stack : List α) :
    machine.perform.run flag.loading stack = some (none, machine.held flag :: stack) := by
  unfold Rule.Resolved.loading held
  split <;> rfl

theorem run_receiver (hook : Rule.Resolved) (stack : List α) :
    machine.perform.run hook.receiver stack = some (none, machine.receiving hook stack) := by
  unfold Rule.Resolved.receiver receiving
  split <;> rfl

/-- A hook takes its arguments off the stack, and leaves what it returns. The object on which it is
called has been put there for it. -/
theorem call_receiving {definition : MethodDef} {hook : Rule.Resolved}
    (called : machine.called hook.ref = definition)
    (static : hook.isStatic = definition.flags.isStatic) (stack : List α) :
    machine.call hook.ref (machine.receiving hook stack) =
      if definition.params.length ≤ stack.length then
        some (List.replicate definition.given
          (machine.result hook.ref ((machine.receiving hook stack).take definition.taken)) ++
            stack.drop definition.params.length)
      else none := by
  have dropped : (machine.receiving hook stack).drop definition.taken =
      stack.drop definition.params.length := by
    rw [receiving, MethodDef.taken, ← static]
    split <;> rfl
  have enough : definition.taken ≤ (machine.receiving hook stack).length ↔
      definition.params.length ≤ stack.length := by
    rw [receiving, MethodDef.taken, ← static]
    split
    · exact Iff.rfl
    · exact Nat.succ_le_succ_iff
  simp only [call, called, dropped, enough]

end Machine

namespace Rule

/-- What a body does from one place to another if it calls a hook there in case a flag is set. Where
there is too little on the stack for the arguments of the hook, it stops. -/
structure GuardsHook {α : Type} (body : Body) (machine : Machine α) (flag hook : Resolved)
    (definition : MethodDef) (start stop : LabelPlace) : Prop where
  unset : machine.isSet (machine.held flag) = false → ∀ stack, ∃ trace,
    body.Leads machine.perform (start, stack) trace (stop, stack) ∧ timesCalled hook.ref trace = 0
  set : machine.isSet (machine.held flag) = true →
    ∀ stack, definition.params.length ≤ stack.length → ∃ trace left,
      body.Leads machine.perform (start, stack) trace (stop, left) ∧
      timesCalled hook.ref trace = 1 ∧
      left.drop definition.given = stack.drop definition.params.length ∧
      left.length + definition.params.length = stack.length + definition.given ∧
      (left.length = stack.length ↔ definition.params.length = definition.given)
  stuck : machine.isSet (machine.held flag) = true →
    ∀ stack, stack.length < definition.params.length → ∃ trace last,
      body.Leads machine.perform (start, stack) trace last ∧ timesCalled hook.ref trace = 0 ∧
      body.advance? machine.perform last = none

section Control

variable {α : Type} (machine : Machine α) {body : Body} {flag hook : Resolved} {skip : LabelId}
  {front loads receives back : List Line} {jump call next : Line}

section Lines

variable (distinct : body.ids.Nodup)
  (lines : body.lines.toList = front ++ (loads ++ jump :: (receives ++ call :: next :: back)))

include distinct lines

/-- The flag decides whether control gets to the call or behind it. -/
theorem leads_guard (loading : loads.map Line.instr = flag.loading)
    (jumping : jump.instr = ⟨.brfalseS, .label skip⟩)
    (placed : body.placeOf? skip = some (.line next.id)) (stack : List α) :
    body.Leads machine.perform
      (.before ((loads ++ jump :: (receives ++ call :: next :: back)).head?.map Line.id), stack)
      (loads ++ [jump])
      (if machine.isSet (machine.held flag) then
        .before ((receives ++ call :: next :: back).head?.map Line.id) else .line next.id, stack) := by
  have around : body.lines.toList =
      front ++ loads ++ jump :: (receives ++ call :: next :: back) := by simp [lines]
  have loaded : machine.perform.run (loads.map Line.instr) stack =
      some (none, machine.held flag :: stack) := by rw [loading, machine.run_loading]
  have branches : machine.perform jump.instr (machine.held flag :: stack) =
      some (if !machine.isSet (machine.held flag) then some skip else none, stack) := by
    rw [jumping, Machine.perform]
    cases machine.isSet (machine.held flag) <;> rfl
  have guarded :=
    (Body.Leads.straight distinct around loaded).trans (.branch distinct around branches placed)
  cases set : machine.isSet (machine.held flag) <;> rw [set] at guarded <;> exact guarded

theorem leads_receiver (receiving : receives.map Line.instr = hook.receiver) (stack : List α) :
    body.Leads machine.perform
      (.before ((receives ++ call :: next :: back).head?.map Line.id), stack) receives
      (.line call.id, machine.receiving hook stack) := by
  have around : body.lines.toList =
      front ++ loads ++ [jump] ++ receives ++ call :: next :: back := by simp [lines]
  have ran : machine.perform.run (receives.map Line.instr) stack =
      some (none, machine.receiving hook stack) := by rw [receiving, machine.run_receiver]
  exact .straight distinct around ran

end Lines

theorem timesCalled_loads (ref : MemberRef) (loading : loads.map Line.instr = flag.loading)
    (jumping : jump.instr = ⟨.brfalseS, .label skip⟩) : timesCalled ref (loads ++ [jump]) = 0 := by
  rw [timesCalled_append, timesCalled, timesCalled, loading, List.map_singleton, jumping,
    Resolved.loading]
  split <;> rfl

theorem timesCalled_receiver (ref : MemberRef)
    (receiving : receives.map Line.instr = hook.receiver) : timesCalled ref receives = 0 := by
  rw [timesCalled, receiving, Resolved.receiver]
  split <;> rfl

/-- Lines with a guarded call call the hook if the flag is set. -/
theorem guardsHook_of_lines {definition : MethodDef} {new : List Line} (distinct : body.ids.Nodup)
    (lines : body.lines.toList = front ++ (new ++ next :: back))
    (coded : new.map Line.instr = guardedCode flag hook skip)
    (placed : body.placeOf? skip = some (.line next.id))
    (called : machine.called hook.ref = definition)
    (static : hook.isStatic = definition.flags.isStatic) :
    GuardsHook body machine flag hook definition
      (.before ((new ++ next :: back).head?.map Line.id)) (.line next.id) := by
  obtain ⟨loads, rest, rfl, loading, coded⟩ := List.map_eq_append_iff.1 coded
  obtain ⟨jump, rest, rfl, jumping, coded⟩ := List.map_eq_cons_iff.1 coded
  obtain ⟨receives, rest, rfl, receiving, coded⟩ := List.map_eq_append_iff.1 coded
  obtain ⟨call, _, rfl, calling, last⟩ := List.map_eq_cons_iff.1 coded
  cases List.map_eq_nil_iff.1 last
  have joined : loads ++ jump :: (receives ++ [call]) ++ next :: back =
      loads ++ jump :: (receives ++ call :: next :: back) := by simp
  rw [joined] at lines ⊢
  have guard := leads_guard machine distinct lines loading jumping placed
  have receiver := leads_receiver machine distinct lines receiving
  have quiet : timesCalled hook.ref (loads ++ [jump] ++ receives) = 0 := by
    rw [timesCalled_append, timesCalled_loads _ loading jumping, timesCalled_receiver _ receiving]
  have around : body.lines.toList =
      front ++ loads ++ [jump] ++ receives ++ call :: next :: back := by simp [lines]
  have performed (stack : List α) : machine.perform call.instr (machine.receiving hook stack) =
      (machine.call hook.ref (machine.receiving hook stack)).map fun left => (none, left) := by
    rw [calling]
    rfl
  refine ⟨fun unset stack => ?_, fun set stack enough => ?_, fun set stack few => ?_⟩
  · have passed := guard stack
    rw [if_neg (by simp [unset])] at passed
    exact ⟨_, passed, timesCalled_loads _ loading jumping⟩
  · have arrived := guard stack
    rw [if_pos set] at arrived
    have leaves : machine.perform call.instr (machine.receiving hook stack) =
        some (none, List.replicate definition.given (machine.result hook.ref
          ((machine.receiving hook stack).take definition.taken)) ++
            stack.drop definition.params.length) := by
      rw [performed, machine.call_receiving called static, if_pos enough]
      rfl
    have once : timesCalled hook.ref [call] = 1 := by simp [timesCalled, calling, Opcode.isCall]
    have through := (arrived.trans (receiver stack)).trans (.fall distinct around leaves)
    refine ⟨_, _, through, ?_, ?_, ?_⟩
    · rw [timesCalled_append, quiet, once]
    · exact List.drop_left' List.length_replicate
    · simp only [List.length_append, List.length_replicate, List.length_drop]
      omega
  · have arrived := guard stack
    rw [if_pos set] at arrived
    refine ⟨_, _, arrived.trans (receiver stack), quiet, ?_⟩
    rw [Body.advance?_of_lines distinct around, performed, machine.call_receiving called static,
      if_neg (Nat.not_le.2 few)]
    rfl

end Control

/-- A hook is called as its definition says. -/
theorem exists_definition_of_resolveHook {module : Module} {owner : TypeId} {name : String}
    {hook : Resolved} (hooked : resolveHook module owner name = .ok hook) :
    ∃ id definition, module.methodFrom owner name = .ok id ∧ module.methodAt id = .ok definition ∧
      hook.isStatic = definition.flags.isStatic := by
  rw [resolveHook] at hooked
  cases found : module.methodFrom owner name with
  | error => rw [found] at hooked; cases hooked
  | ok id =>
    rw [found] at hooked
    have resolved : ((module.refToMethod id).bind fun ref => (module.methodAt id).map
        fun definition => (⟨ref, definition.flags.isStatic⟩ : Resolved)) = .ok hook := hooked
    cases defined : module.methodAt id with
    | error => rw [Module.refToMethod, defined] at resolved; cases resolved
    | ok definition =>
      rw [Module.refToMethod, defined] at resolved
      cases resolved
      exact ⟨id, definition, rfl, defined, rfl⟩

/-- A request for a guarded call that succeeds, and leaves a body that passes its check, puts a call of
the hook behind the first call of the target: new lines that nothing jumps to, as all labels stay where
they are. If the flag is unset, control goes on behind them as if they were not there. If it is set,
the hook is called once, and the stack is as deep as before just if the hook returns as many values as
it has parameters. With less than its parameters on the stack, control gets no further than the call.
-/
theorem guardsHook_of_guardCall (α : Type) (task : BodyTask) {body : Body} {method name : String}
    (reachable : body.Reachable) {finish : Cursor}
    (served : (guardCall task).apply { body, method } = (.ok (), finish))
    (valid : finish.body.check name = .ok ()) :
    ∃ target flagName hookName owner flag hook id definition front call next back,
      task.request.textArg 0 = .ok target ∧ task.request.textArg 1 = .ok flagName ∧
      task.request.textArg 2 = .ok hookName ∧ task.module.ownerOf task.method = .ok owner ∧
      resolveFlag task.module owner flagName = .ok flag ∧
      resolveHook task.module owner hookName = .ok hook ∧
      task.module.methodFrom owner hookName = .ok id ∧ task.module.methodAt id = .ok definition ∧
      body.lines.toList = front ++ call :: next :: back ∧
      (targetCall target).opens [call.instr] = true ∧
      (∀ line ∈ front, (targetCall target).opens [line.instr] = false) ∧
      let new := numbered body.nextId (guardedCode flag hook ⟨body.labels.size⟩)
      finish.body =
        { body with
          lines := (front ++ call :: (new ++ next :: back)).toArray
          nextId := body.nextId + new.length
          labels := body.labels.push (.line next.id) } ∧
      ∀ machine : Machine α, machine.called hook.ref = definition →
        GuardsHook finish.body machine flag hook definition
          (.before (finish.body.idAt? (front.length + 1))) (.line next.id) := by
  obtain ⟨target, flagName, hookName, owner, flag, hook, front, call, back, first, second, third,
    owned, flagged, hooked, lines, opens, closed, spliced⟩ := exists_spliced_of_guardCall served
  obtain ⟨id, definition, found, defined, static⟩ := exists_definition_of_resolveHook hooked
  have jumped : ⟨body.labels.size⟩ ∈ finish.body.jumps := by
    refine Body.mem_jumps.2 ⟨⟨.brfalseS, .label ⟨body.labels.size⟩⟩, ?_, List.mem_singleton_self _⟩
    rw [Body.instrs, spliced.lines]
    simp [guardedCode]
  obtain ⟨next, back, rfl, whole⟩ := spliced.exists_next valid jumped
  have distinct : finish.body.ids.Nodup := by
    have framing := (@ensures_guardCall (fun _ => False) task { body, method }
      reachable.wellFormed).of_eq_ok served rfl
    exact framing.frame.formed.distinct
  let new := numbered body.nextId (guardedCode flag hook ⟨body.labels.size⟩)
  have after : finish.body.lines.toList = (front ++ [call]) ++ (new ++ next :: back) := by
    rw [spliced.lines, List.append_assoc]
  have placed : finish.body.placeOf? ⟨body.labels.size⟩ = some (.line next.id) := spliced.placed
  have behind : finish.body.idAt? (front.length + 1) = (new ++ next :: back).head?.map Line.id := by
    rw [Body.idAt?, ← Array.getElem?_toList, after, List.getElem?_append_right (by simp)]
    simp [List.head?_eq_getElem?]
  refine ⟨target, flagName, hookName, owner, flag, hook, id, definition, front, call, next, back,
    first, second, third, owned, flagged, hooked, found, defined, lines, opens, closed, ?_,
    fun machine called => ?_⟩
  · rw [whole]
    simp [numbered]
  · rw [behind]
    exact guardsHook_of_lines machine distinct after (map_instr_numbered ..) placed called static

/-- The request to call a hook behind the first sound that is played, if sounds are counted. Of the
hooks one returns nothing, and the other a number. -/
def countSounds (hook : String) : BodyTask where
  module :=
    { name := "Game"
      types :=
        [{ name := "Menu", space := "Game", flags := TypeDef.publicFlag, fields := [⟨0⟩],
           methods := [⟨0⟩, ⟨1⟩, ⟨2⟩] }]
      fields := [{ name := "counting", type := "System.Boolean", flags := FieldDef.privateFlag,
                   declaringType := ⟨0⟩ }]
      methods := [{ name := "Open", returnType := "System.Void", declaringType := ⟨0⟩ },
        { name := "Count", returnType := "System.Void", declaringType := ⟨0⟩ },
        { name := "Total", returnType := "System.Int32", declaringType := ⟨0⟩ }]
      topLevel := [⟨0⟩] }
  method := ⟨0⟩
  target := ⟨0⟩
  request := ⟨"PatchGuardedCall", [.string "Game.Audio::Play", .string "counting", .string hook]⟩

def playSound : Instr := ⟨.call, .member (.method "Game.Audio" "Play" "System.Void Play()")⟩

/-- A body that plays a sound, and goes back behind that as long as its argument is set. -/
def soundPlayed : Body :=
  Body.after {} [.newLabel, .append playSound, .append ⟨.ldarg1, .none⟩,
    .append ⟨.brtrueS, .label ⟨0⟩⟩, .append ⟨.ret, .none⟩, .placeLabel ⟨0⟩ 1]

theorem lines_soundPlayed :
    soundPlayed.lines.toList = [⟨⟨0⟩, playSound⟩, ⟨⟨1⟩, .ldarg1, .none⟩,
      ⟨⟨2⟩, .brtrueS, .label ⟨0⟩⟩, ⟨⟨3⟩, .ret, .none⟩] := by
  decide +kernel

/-- What becomes of the body when sounds are to be counted. -/
def soundCounted (hook : String) : Except PatchError Unit × Cursor :=
  (guardCall (countSounds hook)).apply { body := soundPlayed, method := "Open" }

/-- A machine in which everything is set and all calls are of one method. -/
def calling (definition : MethodDef) : Machine Bool where
  argument := true
  field _ _ := true
  shared _ := true
  constant _ := true
  exceeds _ _ := true
  isSet value := value
  called _ := definition
  result _ _ := true

/-- A hook that returns nothing is called once, and the stack keeps its depth. The jump still goes
behind the new lines. -/
theorem guardsHook_of_soundPlayed :
    (soundCounted "Count").1 = .ok () ∧
      (soundCounted "Count").2.body.labels = #[.line ⟨1⟩, .line ⟨1⟩] ∧
      ∀ stack, ∃ trace left, (soundCounted "Count").2.body.Leads (calling
          { name := "Count", returnType := "System.Void", declaringType := ⟨0⟩ }).perform
            (.line ⟨4⟩, stack) trace (.line ⟨1⟩, left) ∧
        timesCalled (.method "Game.Menu" "Count" "System.Void Count()") trace = 1 ∧
        left.length = stack.length := by
  have reachable : soundPlayed.Reachable := .after .empty _
  have served : (soundCounted "Count").1 = .ok () := by cbv
  have valid : (soundCounted "Count").2.body.check "Open" = .ok () := by cbv
  obtain ⟨target, flagName, hookName, owner, flag, hook, id, definition, front, call, next, back,
    first, second, third, owned, flagged, hooked, found, defined, lines, opens, closed, same, guards⟩ :=
    guardsHook_of_guardCall Bool (countSounds "Count") reachable (Prod.ext served rfl) valid
  cases first
  cases second
  cases third
  cases owned
  cases flagged
  cases hooked
  cases found
  cases defined
  have split := lines_soundPlayed.symm.trans lines
  cases front with
  | cons line front =>
    obtain ⟨rfl, -⟩ := List.cons.inj split
    exact absurd (closed _ List.mem_cons_self) (by decide +kernel)
  | nil =>
    cases split
    refine ⟨served, ?_, fun stack => ?_⟩
    · rw [soundCounted, same]
      decide +kernel
    · have start : (soundCounted "Count").2.body.idAt? 1 = some ⟨4⟩ := by decide +kernel
      obtain ⟨trace, left, leads, once, -, -, kept⟩ := (guards (calling
        { name := "Count", returnType := "System.Void", declaringType := ⟨0⟩ }) rfl).set rfl stack
          (Nat.zero_le _)
      rw [List.length_nil, Nat.zero_add, ← soundCounted, start] at leads
      exact ⟨trace, left, leads, once, kept.2 rfl⟩

/-- A hook that returns a number leaves it on the stack, whatever is there. -/
theorem unbalanced_soundPlayed :
    (soundCounted "Total").1 = .ok () ∧ (soundCounted "Total").2.body.check "Open" = .ok () ∧
      ∀ stack, ∃ trace left, (soundCounted "Total").2.body.Leads (calling
          { name := "Total", returnType := "System.Int32", declaringType := ⟨0⟩ }).perform
            (.line ⟨4⟩, stack) trace (.line ⟨1⟩, left) ∧
        left.length = stack.length + 1 := by
  let flag : Resolved := ⟨.field "Game.Menu" "counting" "System.Boolean", false⟩
  let hook : Resolved := ⟨.method "Game.Menu" "Total" "System.Int32 Total()", false⟩
  let total : MethodDef := { name := "Total", returnType := "System.Int32", declaringType := ⟨0⟩ }
  have lines : (soundCounted "Total").2.body.lines.toList =
      [⟨⟨0⟩, playSound⟩] ++ (numbered 4 (guardedCode flag hook ⟨1⟩) ++
        ⟨⟨1⟩, .ldarg1, .none⟩ :: [⟨⟨2⟩, .brtrueS, .label ⟨0⟩⟩, ⟨⟨3⟩, .ret, .none⟩]) := by
    decide +kernel
  have distinct : (soundCounted "Total").2.body.ids.Nodup := by
    rw [Body.ids, lines]
    decide
  have placed : (soundCounted "Total").2.body.placeOf? ⟨1⟩ = some (.line ⟨1⟩) := by decide +kernel
  have guards : GuardsHook (soundCounted "Total").2.body (calling total) flag hook total _ _ :=
    guardsHook_of_lines _ distinct lines (map_instr_numbered ..) placed rfl (by decide)
  refine ⟨by cbv, by cbv, fun stack => ?_⟩
  obtain ⟨trace, left, leads, -, -, deeper, -⟩ := guards.set rfl stack (Nat.zero_le _)
  exact ⟨trace, left, leads, deeper⟩

end Rule
end Retrofit

import Retrofit.Proofs.Body.Control
import Retrofit.Proofs.Cursor.Emission
import Retrofit.Proofs.Rule.Frame

/-!
What widened threshold tests decide. Of the first test the jump is turned around, so that it goes to the
code behind the test, and a second test follows that skips this code as the old one did. However control
comes to the old test, it goes on behind the new one if one of the two values exceeds the constant, and
otherwise where it was skipped to before.
-/

namespace Retrofit

namespace Rule

/-- The jump that a test gets to the code which it admits. It is as wide as the one that it had. -/
def admitting (skip : Opcode) (admitted : LabelId) : Instr :=
  ⟨if skip.isShortJump then .bgtS else .bgt, .label admitted⟩

/-- What loads the value along a path and a constant. -/
def loadingAlternative (path : List MemberRef) (threshold : Operand) : List Instr :=
  ⟨.ldarg0, .none⟩ ::
    ((path.map fun field => ⟨.ldfld, .member field⟩) ++ [⟨.ldcR4, threshold⟩])

/-- A test of the value along a path. -/
def alternative (path : List MemberRef) (threshold : Operand) (skip : Instr) : List Instr :=
  loadingAlternative path threshold ++ [skip]

section Insertion

variable {body : Body} {method : String} {front back : List Line} {instrs : List Instr}
  {load constant skip : Line}

theorem ensures_emitPath_emitted (path : List MemberRef) :
    Edit.Ensures (Cursor.Emitted body method front back instrs) (emitPath path)
      fun _ => Cursor.Emitted body method front back
        (instrs ++ path.map fun field => ⟨.ldfld, .member field⟩) :=
  Cursor.ensures_forM_emitted _ fun _ _ _ =>
    .bind (Cursor.ensures_emit_emitted _ _) fun _ => .pure fun _ emitted => emitted

/-- The jump of a test is turned around, and what follows is emitted behind it. -/
theorem apply_widenThreshold (path : List MemberRef) :
    (widenThreshold path).apply
        (Cursor.between body method front (load :: constant :: skip :: back)) =
      (do
        let _ ← Cursor.emit .ldarg0
        emitPath path
        let _ ← Cursor.emit .ldcR4 constant.instr.operand
        let _ ← Cursor.emit skip.instr.opcode skip.instr.operand
        Cursor.placeLabelHere ⟨body.labels.size⟩).apply
          (Cursor.between body.withLabel method
            (front ++ [load, constant, ⟨skip.id, admitting skip.instr.opcode ⟨body.labels.size⟩⟩])
            back) := by
  let start := Cursor.between body method front (load :: constant :: skip :: back)
  let turned : Line := ⟨skip.id, admitting skip.instr.opcode ⟨body.labels.size⟩⟩
  have compared : start.body.instrAt? (start.index + 1) = some constant.instr :=
    Cursor.instrAt?_between body method front (load :: constant :: skip :: back) 1
  have skips : start.body.instrAt? (start.index + 2) = some skip.instr :=
    Cursor.instrAt?_between body method front (load :: constant :: skip :: back) 2
  have entered : (Cursor.moveTo (start.index + 2)).apply start =
      (.ok (), Cursor.between body method (front ++ [load, constant]) (skip :: back)) :=
    Cursor.apply_moveTo_between (List.append_assoc front [load, constant] _).symm
      (by simp [start, Cursor.between])
  have labelled : Cursor.newLabel.apply
      (Cursor.between body method (front ++ [load, constant]) (skip :: back)) =
        (.ok ⟨body.labels.size⟩, Cursor.between body.withLabel method (front ++ [load, constant])
          (skip :: back)) := rfl
  have fits : (Operand.label ⟨body.labels.size⟩).fits
      (if skip.instr.opcode.isShortJump then Opcode.bgtS else .bgt).operandShape = true := by
    split <;> rfl
  have overwritten : (Cursor.overwrite
      (if skip.instr.opcode.isShortJump then Opcode.bgtS else .bgt) (.label ⟨body.labels.size⟩)).apply
        (Cursor.between body.withLabel method (front ++ [load, constant]) (skip :: back)) =
      (.ok (), Cursor.between body.withLabel method (front ++ [load, constant]) (turned :: back)) :=
    Cursor.apply_overwrite_between fits
  have passed : (Cursor.moveTo (start.index + 3)).apply
      (Cursor.between body.withLabel method (front ++ [load, constant]) (turned :: back)) =
        (.ok (), Cursor.between body.withLabel method (front ++ [load, constant, turned]) back) :=
    Cursor.apply_moveTo_between (by simp [Cursor.between]) (by simp [start, Cursor.between])
  rw [widenThreshold, Edit.apply_bind_of_ok (Edit.apply_get _)]
  dsimp only
  rw [skips, compared]
  dsimp only
  rw [Edit.apply_bind_of_ok entered, Edit.apply_bind_of_ok labelled,
    Edit.apply_bind_of_ok overwritten, Edit.apply_bind_of_ok passed]
  rfl

/-- The second test is put in behind the first one, whose jump is turned around. -/
theorem ensures_widenThreshold_spliced (path : List MemberRef) :
    Edit.Ensures (· = Cursor.between body method front (load :: constant :: skip :: back))
      (widenThreshold path) fun _ cursor => body.Spliced
        (front ++ [load, constant, ⟨skip.id, admitting skip.instr.opcode ⟨body.labels.size⟩⟩])
        (alternative path constant.instr.operand skip.instr) back cursor.body := by
  rintro _ rfl value done
  rw [apply_widenThreshold] at done ⊢
  let ahead := front ++
    [load, constant, ⟨skip.id, admitting skip.instr.opcode ⟨body.labels.size⟩⟩]
  have emitted : Edit.Ensures (Cursor.Emitted body.withLabel method ahead back [])
      (do
        let _ ← Cursor.emit .ldarg0
        emitPath path
        let _ ← Cursor.emit .ldcR4 constant.instr.operand
        let _ ← Cursor.emit skip.instr.opcode skip.instr.operand
        Cursor.placeLabelHere ⟨body.labels.size⟩)
      fun _ cursor => body.Spliced ahead
        (alternative path constant.instr.operand skip.instr) back cursor.body := by
    have code : alternative path constant.instr.operand skip.instr =
        [] ++ [⟨.ldarg0, .none⟩] ++ (path.map fun field => ⟨.ldfld, .member field⟩) ++
          [⟨.ldcR4, constant.instr.operand⟩] ++ [⟨skip.instr.opcode, skip.instr.operand⟩] := by
      simp [alternative, loadingAlternative]
    rw [code]
    exact .bind (Cursor.ensures_emit_emitted _ _) fun _ =>
      .bind (ensures_emitPath_emitted path) fun _ =>
      .bind (Cursor.ensures_emit_emitted _ _) fun _ =>
      .bind (Cursor.ensures_emit_emitted _ _) fun _ => Cursor.ensures_placeLabelHere_emitted
  exact emitted _ .refl value done

theorem thresholdWindow_ne_nil (owner field : String) : thresholdWindow owner field ≠ [] :=
  List.cons_ne_nil _ _

theorem exists_of_ldfld_named {owner field : String} {instr : Instr}
    (loads : Matcher.ldfld owner field instr = true) :
    ∃ ref, instr = ⟨.ldfld, .member ref⟩ ∧ ref.isNamed owner field = true := by
  obtain ⟨opcode, operand⟩ := instr
  obtain ⟨listed, found⟩ := (Bool.and_eq_true ..).mp loads
  obtain ⟨ref, names, is⟩ := (Option.any_eq_true ..).mp found
  have named := ((Bool.and_eq_true ..).mp is).2
  cases List.mem_singleton.1 (of_decide_eq_true listed)
  cases operand with
  | member held =>
    cases names
    exact ⟨ref, rfl, named⟩
  | _ => cases names

theorem opcode_of_skip {instr : Instr} (skips : Matcher.branch .bleUn instr = true) :
    instr.opcode = .bleUn ∨ instr.opcode = .bleUnS := by
  obtain short | long := (Bool.or_eq_true ..).mp skips
  · exact .inr (of_decide_eq_true short)
  · exact .inl (of_decide_eq_true long)

theorem exists_of_threshold {owner field : String} {lines : List Line}
    (opens : (thresholdWindow owner field).opens (lines.map Line.instr) = true) :
    ∃ load constant skip back, lines = load :: constant :: skip :: back ∧
      Matcher.ldfld owner field load.instr = true ∧ constant.instr.opcode = .ldcR4 ∧
      (skip.instr.opcode = .bleUn ∨ skip.instr.opcode = .bleUnS) := by
  rcases lines with _ | ⟨load, _ | ⟨constant, _ | ⟨skip, back⟩⟩⟩ <;>
    simp [thresholdWindow, Window.opens, Matcher.anyLdcR4, Matcher.opcode] at opens
  exact ⟨load, constant, skip, back, rfl, opens.1, opens.2.1, opcode_of_skip opens.2.2⟩

/-- What a request that succeeds has put in, and where: behind the first test of the field. -/
theorem exists_spliced_of_widenCondition {task : BodyTask} {finish : Cursor}
    (served : (widenCondition task).apply { body, method } = (.ok (), finish)) :
    ∃ field alternate owner path front load constant skip back,
      task.request.textArg 0 = .ok field ∧ task.request.textArg 1 = .ok alternate ∧
      task.module.ownerOf task.method = .ok owner ∧
      task.module.pathFrom owner ((Text.pieces '.' alternate.toList).map String.ofList) = .ok path ∧
      body.lines.toList = front ++ load :: constant :: skip :: back ∧
      (∀ index < front.length, (thresholdWindow (task.module.typeName owner) field).opensAt body index =
        false) ∧
      Matcher.ldfld (task.module.typeName owner) field load.instr = true ∧
      constant.instr.opcode = .ldcR4 ∧ (skip.instr.opcode = .bleUn ∨ skip.instr.opcode = .bleUnS) ∧
      body.Spliced
        (front ++ [load, constant, ⟨skip.id, admitting skip.instr.opcode ⟨body.labels.size⟩⟩])
        (alternative path constant.instr.operand skip.instr) back finish.body := by
  obtain ⟨field, first, served⟩ := Edit.demand_bind_eq_ok.1 served
  obtain ⟨alternate, second, served⟩ := Edit.demand_bind_eq_ok.1 served
  obtain ⟨owner, owned, served⟩ := Edit.demand_bind_eq_ok.1 served
  obtain ⟨path, found, served⟩ := Edit.demand_bind_eq_ok.1 served
  let window := thresholdWindow (task.module.typeName owner) field
  rw [Cursor.eq_between] at served
  obtain ⟨absent, -⟩ | ⟨skipped, rest, lines, opens, closed, sought⟩ :=
    Cursor.apply_trySeek_between (thresholdWindow_ne_nil _ _) .before body method []
      body.lines.toList
  · rw [Edit.apply_bind_of_ok absent] at served
    cases served
  · obtain ⟨load, constant, skip, back, rfl, loads, compares, skips⟩ := exists_of_threshold opens
    have landed : (Cursor.between body method [] body.lines.toList).landed .before window
        ([] ++ skipped).length =
          Cursor.between body method skipped (load :: constant :: skip :: back) := by
      rw [lines]
      exact Cursor.placed_between body method [] ..
    rw [Edit.apply_bind_of_ok sought, landed, if_pos rfl] at served
    have spliced := (ensures_widenThreshold_spliced path).of_eq_ok served rfl
    refine ⟨field, alternate, owner, path, skipped, load, constant, skip, back, first, second, owned,
      found, lines, fun index inside => ?_, loads, compares, skips, spliced⟩
    rw [Window.opensAt_eq, Body.instrs, ← List.map_drop]
    exact closed index inside

theorem exists_bits_of_shaped {operand : Operand}
    (shaped : (⟨.ldcR4, operand⟩ : Instr).wellShaped = true) : ∃ bits, operand = .float32 bits := by
  cases operand with
  | float32 bits => exact ⟨bits, rfl⟩
  | _ => cases shaped

theorem exists_label_of_shaped {instr : Instr}
    (skips : instr.opcode = .bleUn ∨ instr.opcode = .bleUnS) (shaped : instr.wellShaped = true) :
    ∃ label, instr.operand = .label label := by
  obtain ⟨opcode, operand⟩ := instr
  obtain rfl | rfl := skips <;> cases operand with
  | label label => exact ⟨label, rfl⟩
  | _ => cases shaped

end Insertion

/-- How control comes to a test: to the load with an object on the stack, to the constant with a value,
or to the jump with a value and what it is compared with. -/
inductive TestEntry (α : Type) where
  | load (object : α)
  | constant (value : α)
  | jump (value limit : α)

namespace TestEntry

variable {α : Type}

def line (load constant jump : InstrId) : TestEntry α → InstrId
  | .load _ => load
  | .constant _ => constant
  | .jump _ _ => jump

def on (rest : List α) : TestEntry α → List α
  | .load object => object :: rest
  | .constant value => value :: rest
  | .jump value limit => limit :: value :: rest

/-- What is compared when control has come to the jump. -/
def value (machine : Machine α) (field : MemberRef) : TestEntry α → α
  | .load object => machine.field field object
  | .constant value => value
  | .jump value _ => value

/-- What it is compared with. -/
def limit (machine : Machine α) (bits : UInt32) : TestEntry α → α
  | .load _ | .constant _ => machine.constant bits
  | .jump _ limit => limit

/-- Whether the test lets control through. -/
def exceeds (machine : Machine α) (field : MemberRef) (bits : UInt32) (entry : TestEntry α) : Bool :=
  machine.exceeds (entry.value machine field) (entry.limit machine bits)

end TestEntry

section Control

variable {α : Type} (machine : Machine α) {body : Body} {front back : List Line}
  {load constant : InstrId} {jump next : Line} {ref : MemberRef} {bits : UInt32} {opcode : Opcode}
  {target : LabelId}

theorem perform_skip (skips : opcode = .bleUn ∨ opcode = .bleUnS) (target : LabelId)
    (value limit : α) (stack : List α) :
    machine.perform ⟨opcode, .label target⟩ (limit :: value :: stack) =
      some (if !machine.exceeds value limit then some target else none, stack) := by
  obtain rfl | rfl := skips <;> rw [Machine.perform] <;> cases machine.exceeds value limit <;> rfl

theorem perform_admitting (skip : Opcode) (admitted : LabelId) (value limit : α) (stack : List α) :
    machine.perform (admitting skip admitted) (limit :: value :: stack) =
      some (if machine.exceeds value limit then some admitted else none, stack) := by
  unfold admitting
  split <;> rfl

/-- Loads along a path replace the object by the value at its end. -/
theorem run_path (path : List MemberRef) (rest : List Instr) (object : α) (stack : List α) :
    machine.perform.run ((path.map fun field => ⟨.ldfld, .member field⟩) ++ rest) (object :: stack) =
      machine.perform.run rest
        (path.foldl (fun object field => machine.field field object) object :: stack) := by
  induction path generalizing object with
  | nil => rfl
  | cons field path ih => exact ih (machine.field field object)

/-- However control comes to a test, it gets to the jump with both sides of the comparison. -/
theorem exists_leads_to_jump (distinct : body.ids.Nodup)
    (lines : body.lines.toList = front ++
      ⟨load, .ldfld, .member ref⟩ :: ⟨constant, .ldcR4, .float32 bits⟩ :: jump :: back)
    (entry : TestEntry α) (stack : List α) :
    ∃ trace, body.Leads machine.perform (.line (entry.line load constant jump.id), entry.on stack) trace
      (.line jump.id, entry.limit machine bits :: entry.value machine ref :: stack) := by
  have around : body.lines.toList = front ++ [⟨load, .ldfld, .member ref⟩] ++
      ⟨constant, .ldcR4, .float32 bits⟩ :: jump :: back := by simp [lines]
  have compares (value : α) : body.Leads machine.perform (.line constant, value :: stack)
      [⟨constant, .ldcR4, .float32 bits⟩] (.line jump.id, machine.constant bits :: value :: stack) :=
    .fall distinct around rfl
  cases entry with
  | load object =>
    have loads : body.Leads machine.perform (.line load, object :: stack)
        [⟨load, .ldfld, .member ref⟩] (.line constant, machine.field ref object :: stack) :=
      .fall distinct lines rfl
    exact ⟨_, loads.trans (compares _)⟩
  | constant value => exact ⟨_, compares value⟩
  | jump value limit => exact ⟨[], .here _⟩

theorem exists_leads_test (distinct : body.ids.Nodup)
    (lines : body.lines.toList = front ++
      ⟨load, .ldfld, .member ref⟩ :: ⟨constant, .ldcR4, .float32 bits⟩ :: jump :: back)
    {condition : α → α → Bool} (performs : ∀ value limit stack,
      machine.perform jump.instr (limit :: value :: stack) =
        some (if condition value limit then some target else none, stack))
    {place : LabelPlace} (placed : body.placeOf? target = some place) (entry : TestEntry α)
    (stack : List α) :
    ∃ trace, body.Leads machine.perform (.line (entry.line load constant jump.id), entry.on stack) trace
      (if condition (entry.value machine ref) (entry.limit machine bits) then place
        else .before (back.head?.map Line.id), stack) := by
  obtain ⟨trace, leads⟩ := exists_leads_to_jump machine distinct lines entry stack
  have around : body.lines.toList = front ++
      [⟨load, .ldfld, .member ref⟩, ⟨constant, .ldcR4, .float32 bits⟩] ++ jump :: back := by
    simp [lines]
  exact ⟨_, leads.trans (.branch distinct around (performs ..) placed)⟩

/-- The second test leads to the code that it admits if the value along the path exceeds the constant,
and otherwise where the first one skipped to. -/
theorem exists_leads_alternative {new : List Line} {path : List MemberRef} (distinct : body.ids.Nodup)
    (lines : body.lines.toList = front ++ (new ++ next :: back))
    (coded : new.map Line.instr = alternative path (.float32 bits) ⟨opcode, .label target⟩)
    (skips : opcode = .bleUn ∨ opcode = .bleUnS) {place : LabelPlace}
    (placed : body.placeOf? target = some place) (stack : List α) :
    ∃ trace, body.Leads machine.perform
      (.before ((new ++ next :: back).head?.map Line.id), stack) trace
      (if machine.exceeds (machine.along path) (machine.constant bits) then .line next.id else place,
        stack) := by
  obtain ⟨loads, jumps, rfl, loading, coded⟩ := List.map_eq_append_iff.1 coded
  obtain ⟨jump, _, rfl, jumping, last⟩ := List.map_eq_cons_iff.1 coded
  cases List.map_eq_nil_iff.1 last
  have loaded : machine.perform.run (loads.map Line.instr) stack =
      some (none, machine.constant bits :: machine.along path :: stack) := by
    rw [loading]
    exact run_path machine path [⟨.ldcR4, .float32 bits⟩] machine.argument stack
  have joined : loads ++ [jump] ++ next :: back = loads ++ jump :: next :: back := by simp
  have around : body.lines.toList = front ++ loads ++ jump :: next :: back := by simp [lines]
  have branches : machine.perform jump.instr
      (machine.constant bits :: machine.along path :: stack) =
        some (if !machine.exceeds (machine.along path) (machine.constant bits) then some target
          else none, stack) := by
    rw [jumping, perform_skip machine skips]
  have leads := (Body.Leads.straight distinct around loaded).trans
    (.branch distinct around branches placed)
  rw [joined]
  refine ⟨loads ++ [jump], ?_⟩
  cases exceeds : machine.exceeds (machine.along path) (machine.constant bits) <;>
    rw [exceeds] at leads <;> exact leads

theorem exists_leads_skipping {skip : InstrId} (distinct : body.ids.Nodup)
    (lines : body.lines.toList = front ++ ⟨load, .ldfld, .member ref⟩ ::
      ⟨constant, .ldcR4, .float32 bits⟩ :: ⟨skip, opcode, .label target⟩ :: next :: back)
    (skips : opcode = .bleUn ∨ opcode = .bleUnS) {place : LabelPlace}
    (placed : body.placeOf? target = some place) (entry : TestEntry α) (stack : List α) :
    ∃ trace, body.Leads machine.perform (.line (entry.line load constant skip), entry.on stack) trace
      (if entry.exceeds machine ref bits then .line next.id else place, stack) := by
  obtain ⟨trace, leads⟩ :=
    exists_leads_test machine distinct lines (perform_skip machine skips target) placed entry stack
  refine ⟨trace, ?_⟩
  rw [TestEntry.exceeds]
  cases exceeds : machine.exceeds (entry.value machine ref) (entry.limit machine bits) <;>
    rw [exceeds] at leads <;> exact leads

/-- Where a test admits the code behind a second one, control gets there if one of the values exceeds
what it is compared with. -/
theorem exists_leads_admitting {skip : InstrId} {new : List Line} {path : List MemberRef}
    {admitted : LabelId} (distinct : body.ids.Nodup)
    (lines : body.lines.toList = front ++ ⟨load, .ldfld, .member ref⟩ ::
      ⟨constant, .ldcR4, .float32 bits⟩ :: ⟨skip, admitting opcode admitted⟩ :: (new ++ next :: back))
    (coded : new.map Line.instr = alternative path (.float32 bits) ⟨opcode, .label target⟩)
    (skips : opcode = .bleUn ∨ opcode = .bleUnS)
    (admits : body.placeOf? admitted = some (.line next.id)) {place : LabelPlace}
    (placed : body.placeOf? target = some place) (entry : TestEntry α) (stack : List α) :
    ∃ trace, body.Leads machine.perform (.line (entry.line load constant skip), entry.on stack) trace
      (if entry.exceeds machine ref bits || machine.exceeds (machine.along path) (machine.constant bits)
        then .line next.id else place, stack) := by
  obtain ⟨trace, leads⟩ := exists_leads_test machine distinct lines
    (perform_admitting machine opcode admitted) admits entry stack
  rw [TestEntry.exceeds]
  cases exceeds : machine.exceeds (entry.value machine ref) (entry.limit machine bits) with
  | true =>
    rw [exceeds] at leads
    exact ⟨trace, leads⟩
  | false =>
    rw [exceeds] at leads
    have around : body.lines.toList = front ++ [⟨load, .ldfld, .member ref⟩,
        ⟨constant, .ldcR4, .float32 bits⟩, ⟨skip, admitting opcode admitted⟩] ++
          (new ++ next :: back) := by simp [lines]
    obtain ⟨more, later⟩ :=
      exists_leads_alternative machine distinct around coded skips placed stack
    exact ⟨trace ++ more, leads.trans later⟩

end Control

/-- A request to widen a test that succeeds, and leaves a body that passes its check, turns around the
jump of the first test of the field, and puts a test of the value along the path behind it. Nothing
else changes, and all labels stay. However control comes to the old test, it goes on at the line behind
it if one of the values exceeds what it is compared with, and otherwise at the label of the old jump,
with the stack that the old test left. That label has stayed as well, if the body had it before. -/
theorem leads_of_widenCondition (α : Type) (task : BodyTask) {body : Body} {method name : String}
    (reachable : body.Reachable) {finish : Cursor}
    (served : (widenCondition task).apply { body, method } = (.ok (), finish))
    (valid : finish.body.check name = .ok ()) :
    ∃ field alternate owner path front load constant skip ref bits opcode target next back goal,
      task.request.textArg 0 = .ok field ∧ task.request.textArg 1 = .ok alternate ∧
      task.module.ownerOf task.method = .ok owner ∧
      task.module.pathFrom owner ((Text.pieces '.' alternate.toList).map String.ofList) = .ok path ∧
      ref.isNamed (task.module.typeName owner) field = true ∧
      (opcode = .bleUn ∨ opcode = .bleUnS) ∧
      body.lines.toList = front ++ ⟨load, .ldfld, .member ref⟩ ::
        ⟨constant, .ldcR4, .float32 bits⟩ :: ⟨skip, opcode, .label target⟩ :: next :: back ∧
      (∀ index < front.length,
        (thresholdWindow (task.module.typeName owner) field).opensAt body index = false) ∧
      let new := numbered body.nextId (alternative path (.float32 bits) ⟨opcode, .label target⟩)
      finish.body =
        { body with
          lines := (front ++ ⟨load, .ldfld, .member ref⟩ :: ⟨constant, .ldcR4, .float32 bits⟩ ::
            ⟨skip, admitting opcode ⟨body.labels.size⟩⟩ :: (new ++ next :: back)).toArray
          nextId := body.nextId + new.length
          labels := body.labels.push (.line next.id) } ∧
      finish.body.placeOf? target = some (.line goal) ∧
      ∀ (machine : Machine α) (entry : TestEntry α) (stack : List α),
        let start := (LabelPlace.line (entry.line load constant skip), entry.on stack)
        let first := entry.exceeds machine ref bits
        let second := machine.exceeds (machine.along path) (machine.constant bits)
        (∀ place, body.placeOf? target = some place → place = .line goal ∧
          ∃ trace, body.Leads machine.perform start trace
            (if first then .line next.id else .line goal, stack)) ∧
        ∃ trace, finish.body.Leads machine.perform start trace
          (if first || second then .line next.id else .line goal, stack) := by
  obtain ⟨field, alternate, owner, path, front, ⟨load, _⟩, ⟨constant, comparing⟩, ⟨skip, skipping⟩,
    back, first, second, owned, found, lines, closed, loads, compares, skips, spliced⟩ :=
    exists_spliced_of_widenCondition served
  dsimp only at loads compares skips spliced
  obtain ⟨ref, rfl, named⟩ := exists_of_ldfld_named loads
  obtain ⟨_, threshold⟩ := comparing
  obtain ⟨opcode, operand⟩ := skipping
  cases compares
  obtain ⟨bits, rfl⟩ := exists_bits_of_shaped
    (spliced.shaped ⟨.ldcR4, threshold⟩ (by simp [alternative, loadingAlternative]))
  obtain ⟨target, rfl⟩ := exists_label_of_shaped skips
    (spliced.shaped ⟨opcode, operand⟩ (by simp [alternative]))
  let new := numbered body.nextId (alternative path (.float32 bits) ⟨opcode, .label target⟩)
  have distinct : finish.body.ids.Nodup := by
    obtain ⟨_, _, _, _, framing⟩ := (@ensures_widenCondition task { body, method }
      reachable.wellFormed).of_eq_ok served rfl
    exact framing.frame.formed.distinct
  have admits : (⟨body.labels.size⟩ : LabelId) ∈ finish.body.jumps := by
    refine Body.mem_jumps.2 ⟨admitting opcode ⟨body.labels.size⟩, ?_, List.mem_singleton_self _⟩
    rw [Body.instrs, spliced.lines]
    simp
  have skipsTo : target ∈ finish.body.jumps := by
    refine Body.mem_jumps.2 ⟨⟨opcode, .label target⟩, ?_, List.mem_singleton_self _⟩
    rw [Body.instrs, spliced.lines]
    simp [alternative]
  obtain ⟨next, back, rfl, whole⟩ := spliced.exists_next valid admits
  obtain ⟨goal, placed⟩ := Body.exists_line_of_check valid skipsTo
  have after : finish.body.lines.toList = front ++ ⟨load, .ldfld, .member ref⟩ ::
      ⟨constant, .ldcR4, .float32 bits⟩ :: ⟨skip, admitting opcode ⟨body.labels.size⟩⟩ ::
        (new ++ next :: back) := by
    rw [spliced.lines]
    simp [new]
  refine ⟨field, alternate, owner, path, front, load, constant, skip, ref, bits, opcode, target, next,
    back, goal, first, second, owned, found, named, skips, lines, closed, ?_, placed,
    fun machine entry stack => ⟨fun place stands => ?_, ?_⟩⟩
  · rw [whole]
    simp [numbered]
  · have kept : finish.body.placeOf? target = some place :=
      Body.placeOf?_of_push (by rw [whole]) stands
    obtain rfl : place = .line goal := Option.some.inj (kept.symm.trans placed)
    exact ⟨rfl,
      exists_leads_skipping machine reachable.wellFormed.distinct lines skips stands entry stack⟩
  · exact exists_leads_admitting machine distinct after (map_instr_numbered ..) skips spliced.placed
      placed entry stack

/-- The request to light up a slot as well while its details are shown. -/
def lightDetails : BodyTask where
  module :=
    { name := "Game"
      types :=
        [{ name := "Slot", space := "Game", flags := TypeDef.publicFlag, fields := [⟨0⟩, ⟨1⟩],
           methods := [⟨0⟩] },
         { name := "Panel", space := "Game", flags := TypeDef.publicFlag, fields := [⟨2⟩] }]
      fields := [{ name := "ease", type := "System.Single", flags := FieldDef.privateFlag,
                   declaringType := ⟨0⟩ },
        { name := "panel", type := "Game.Panel", flags := FieldDef.privateFlag, declaringType := ⟨0⟩ },
        { name := "shown", type := "System.Single", flags := FieldDef.privateFlag,
          declaringType := ⟨1⟩ }]
      methods := [{ name := "Render", returnType := "System.Void", declaringType := ⟨0⟩ }]
      topLevel := [⟨0⟩, ⟨1⟩] }
  method := ⟨0⟩
  target := ⟨0⟩
  request := ⟨"PatchOrCondition", [.string "ease", .string "panel.shown"]⟩

/-- A body that does something if a field of `this` exceeds zero. -/
def slotLit : Body :=
  Body.after {} [.newLabel, .append ⟨.ldarg0, .none⟩,
    .append ⟨.ldfld, .member (.field "Game.Slot" "ease" "System.Single")⟩,
    .append ⟨.ldcR4, .float32 0⟩, .append ⟨.bleUnS, .label ⟨0⟩⟩, .append ⟨.nop, .none⟩,
    .append ⟨.ret, .none⟩, .placeLabel ⟨0⟩ 5]

theorem lines_slotLit :
    slotLit.lines.toList = [⟨⟨0⟩, .ldarg0, .none⟩,
      ⟨⟨1⟩, .ldfld, .member (.field "Game.Slot" "ease" "System.Single")⟩,
      ⟨⟨2⟩, .ldcR4, .float32 0⟩, ⟨⟨3⟩, .bleUnS, .label ⟨0⟩⟩, ⟨⟨4⟩, .nop, .none⟩,
      ⟨⟨5⟩, .ret, .none⟩] := by
  decide +kernel

/-- A machine in which the details are shown, and all else is zero. -/
def showing : Machine Nat where
  argument := 0
  field ref _ := if ref.name = "shown" then 1 else 0
  shared _ := 0
  constant _ := 0
  exceeds value limit := limit < value
  isSet value := value ≠ 0
  called _ := { name := "Render", returnType := "System.Void", declaringType := ⟨0⟩ }
  result _ _ := 0

/-- While its details are shown the slot is lit, which it was not before. -/
theorem leads_of_slotLit :
    ∃ finish, (widenCondition lightDetails).apply { body := slotLit, method := "Render" } =
        (.ok (), finish) ∧
      (∃ trace, slotLit.Leads showing.perform (.line ⟨1⟩, [0]) trace (.line ⟨5⟩, [])) ∧
      ∃ trace, finish.body.Leads showing.perform (.line ⟨1⟩, [0]) trace (.line ⟨4⟩, []) := by
  have reachable : slotLit.Reachable := .after .empty _
  have served : ((widenCondition lightDetails).apply
      { body := slotLit, method := "Render" }).1 = .ok () := by cbv
  have valid : ((widenCondition lightDetails).apply
      { body := slotLit, method := "Render" }).2.body.check "Render" = .ok () := by cbv
  obtain ⟨field, alternate, owner, path, front, load, constant, skip, ref, bits, opcode, target, next,
    back, goal, first, second, owned, found, named, skips, lines, closed, same, placed, leads⟩ :=
    leads_of_widenCondition Nat lightDetails reachable (Prod.ext served rfl) valid
  cases first
  cases second
  cases owned
  have split := lines_slotLit.symm.trans lines
  rcases front with _ | ⟨line, _ | ⟨other, front⟩⟩
  · cases split
  · cases split
    obtain ⟨old, new⟩ := leads showing (.load 0) []
    have goes : slotLit.placeOf? ⟨0⟩ = some (.line ⟨5⟩) := by decide +kernel
    obtain ⟨there, before⟩ := old _ goes
    cases there
    have resolved : lightDetails.module.pathFrom ⟨0⟩ ((Text.pieces '.' "panel.shown".toList).map
        String.ofList) = .ok [.field "Game.Slot" "panel" "Game.Panel",
          .field "Game.Panel" "shown" "System.Single"] := by cbv
    cases resolved.symm.trans found
    exact ⟨_, Prod.ext served rfl, before, new⟩
  · have shut := closed 1 (by simp)
    exact absurd shut (by decide +kernel)

end Rule
end Retrofit

import Mathlib
import Retrofit.Proofs.Body.Frame
import Retrofit.Proofs.Cursor.Operation
import Retrofit.Proofs.Edit
import Retrofit.Proofs.Reachable
import Retrofit.Rule.BuiltIn

/-!
The rules that insert code into a body or substitute operations in it leave everything else alone
(`Rule.frame_of_serve`). They work their way forward: all lines from the cursor on are as old as the
request, so a label placed there stands at an old line.
-/

namespace Retrofit

namespace Cursor

/-- A body is being changed at a cursor, and all lines from the cursor on were there before. -/
structure Framing (rewritten : InstrId → Prop) (pending : Option LabelId) (start : Body)
    (cursor : Cursor) : Prop where
  frame : Body.Frame rewritten pending start cursor.body
  ahead : ∀ index id, cursor.index ≤ index → cursor.body.idAt? index = some id → id ∈ start.ids

/-- At such a cursor lines can be put in: in front of labels, and under no new one. -/
structure Inserting (rewritten : InstrId → Prop) (pending : Option LabelId) (start : Body)
    (cursor : Cursor) : Prop extends Framing rewritten pending start cursor where
  front : cursor.behindLabels = false
  room : cursor.index = cursor.body.length → start.NoneBehind cursor.body

variable {rewritten : InstrId → Prop} {pending : Option LabelId} {start : Body} {cursor : Cursor}
  {label : LabelId}

theorem Framing.refl (cursor : Cursor) (formed : cursor.body.WellFormed) :
    Framing rewritten none cursor.body cursor where
  frame := .refl formed
  ahead _ _ _ here := Body.mem_ids_of_idAt? here

theorem Framing.placed (framing : Framing rewritten pending start cursor) {index : Nat}
    (forward : cursor.index ≤ index) (behindLabels : Bool) :
    Framing rewritten pending start (cursor.placed index behindLabels) where
  frame := framing.frame
  ahead place id reached := framing.ahead place id (Nat.le_trans forward reached)

theorem Inserting.placed (framing : Framing rewritten pending start cursor) {index : Nat}
    (forward : cursor.index ≤ index)
    (room : index = cursor.body.length → start.NoneBehind cursor.body) :
    Inserting rewritten pending start (cursor.placed index) where
  toFraming := framing.placed forward false
  front := rfl
  room := room

theorem ensures_moveTo (index : Nat) :
    Edit.Ensures
      (fun cursor => Framing rewritten pending start cursor ∧ cursor.index ≤ index ∧
        (index = cursor.body.length → start.NoneBehind cursor.body))
      (moveTo index) fun _ => Inserting rewritten pending start := by
  rintro cursor ⟨framing, forward, room⟩ _ done
  rw [apply_moveTo] at done ⊢
  split at done
  · cases done
  · next inside =>
    rw [if_neg inside]
    exact .placed framing forward room

theorem ensures_insertBefore (instr : Instr) :
    Edit.Ensures (Inserting rewritten pending start) (insertBefore instr)
      fun _ => Inserting rewritten pending start := by
  intro cursor inserting _ done
  rw [apply_insertBefore] at done ⊢
  split at done
  · cases done
  · next inside =>
    rw [if_neg inside]
    have within : cursor.index ≤ cursor.body.length := Nat.le_of_not_lt inside
    have body : cursor.bodyInserting instr = cursor.body.inserted cursor.index instr := by
      rw [bodyInserting, inserting.front]
    rw [body]
    refine ⟨⟨inserting.frame.inserted instr within inserting.room, ?_⟩, inserting.front, ?_⟩
    · intro place id reached here
      dsimp only at reached here
      obtain ⟨index, rfl⟩ : ∃ index, place = index + 1 :=
        ⟨place - 1, (Nat.sub_add_cancel (Nat.le_trans (Nat.le_add_left _ _) reached)).symm⟩
      rw [Body.idAt?_eq, Body.ids_inserted, List.getElem?_insertIdx_of_gt (by omega)] at here
      exact inserting.ahead index id (Nat.le_of_succ_le_succ reached) (by
        rw [Body.idAt?_eq]
        exact here)
    · intro atEnd
      dsimp only at atEnd ⊢
      rw [Body.length_eq, Body.ids_inserted, List.length_insertIdx] at atEnd
      rw [Body.length_eq] at within
      rw [if_pos within] at atEnd
      refine Body.noneBehind_inserted instr ?_
      rw [Body.length_eq]
      exact Nat.succ.inj atEnd

theorem ensures_emit (opcode : Opcode) (operand : Operand) :
    Edit.Ensures (Inserting rewritten pending start) (emit opcode operand)
      fun _ => Inserting rewritten pending start :=
  .demand_bind fun instr _ => ensures_insertBefore instr

theorem ensures_newLabel :
    Edit.Ensures (Inserting rewritten none start) newLabel
      fun label => Inserting rewritten (some label) start := by
  intro cursor inserting label made
  cases made
  exact ⟨⟨inserting.frame.withLabel, inserting.ahead⟩, inserting.front,
    fun atEnd => (inserting.room atEnd).withLabel⟩

theorem ensures_placeLabelHere :
    Edit.Ensures (Inserting rewritten (some label) start) (placeLabelHere label)
      fun _ => Framing rewritten none start := by
  intro cursor inserting _ done
  rw [apply_placeLabelHere, apply_onBody, Body.apply_placeLabel] at done ⊢
  split at done
  · cases done
  · next inside =>
    rw [Body.apply_setPlace] at done
    rw [if_neg inside, Body.apply_setPlace]
    split at done
    · cases done
    · next known =>
      rw [if_neg known]
      exact ⟨inserting.frame.placed fun id here => inserting.ahead _ id (Nat.le_refl _) here,
        inserting.ahead⟩

theorem ensures_trySeek (cursor : Cursor) (direction : Direction) (window : Window)
    (landing : Landing) :
    Edit.Ensures (· = cursor) (trySeek direction window landing) fun found after =>
      match found with
      | true => ∃ place, cursor.nearest? direction (window.opensAt cursor.body) = some place ∧
          after = cursor.landed landing window place
      | false => after = cursor := by
  rintro _ rfl found done
  rw [apply_trySeek] at done ⊢
  split at done
  · cases done
    rfl
  · next place nearest =>
    cases done
    exact ⟨place, nearest, rfl⟩

end Cursor

namespace Rule

variable {start : Body} {rewritten : InstrId → Prop} {pending : Option LabelId}

theorem ensures_operandOfLine {before : Cursor → Prop} (index : Nat) :
    Edit.Ensures before (operandOfLine index) fun _ => before := by
  refine .get_bind fun cursor given => ?_
  cases cursor.body.instrAt? index with
  | none => exact .throw
  | some instr =>
    refine .pure ?_
    rintro _ rfl
    exact given

theorem ensures_skipWindowRest :
    Edit.Ensures (Cursor.Inserting rewritten pending start) skipWindowRest
      fun _ => Cursor.Framing rewritten pending start := by
  refine .get_bind fun cursor inserting => ?_
  rintro _ rfl _ done
  rw [Cursor.apply_moveTo] at done ⊢
  split at done
  · cases done
  · next inside =>
    rw [if_neg inside]
    exact inserting.toFraming.placed (Nat.le_add_right _ _) false

/-- In front of a type test, which is four old lines at an index. -/
structure AtTest (rewritten : InstrId → Prop) (pending : Option LabelId) (start : Body) (index : Nat)
    (cursor : Cursor) : Prop extends cursor.Framing rewritten pending start where
  forward : cursor.index ≤ index
  inside : index + 4 ≤ cursor.body.length

theorem ensures_enterTest (index : Nat) :
    Edit.Ensures (AtTest rewritten none start index) (Cursor.moveTo (index + 1))
      fun _ => Cursor.Inserting rewritten none start := by
  refine (Cursor.ensures_moveTo (index + 1)).mono (fun cursor test => ?_) fun _ _ reached => reached
  have inside := test.inside
  exact ⟨test.toFraming, Nat.le_succ_of_le test.forward, by omega⟩

theorem ensures_insertChainTest (index : Nat) (extra : String) :
    Edit.Ensures (AtTest rewritten none start index) (insertChainTest index extra)
      fun _ => Cursor.Framing rewritten none start :=
  .bind (ensures_operandOfLine _) fun _ =>
  .bind (ensures_operandOfLine _) fun _ =>
  .bind (ensures_enterTest index) fun _ =>
  .bind (Cursor.ensures_emit _ _) fun _ =>
  .bind (Cursor.ensures_emit _ _) fun _ =>
  .bind (Cursor.ensures_emit _ _) fun _ =>
  .bind (Cursor.ensures_emit _ _) fun _ =>
  ensures_skipWindowRest

theorem ensures_newLabelAtTest (index : Nat) :
    Edit.Ensures (AtTest rewritten none start index) Cursor.newLabel
      fun label => AtTest rewritten (some label) start index := by
  intro cursor test label made
  cases made
  exact ⟨⟨test.frame.withLabel, test.ahead⟩, test.forward, test.inside⟩

/-- The label behind a guard goes to an old line, or to the end. -/
theorem ensures_placeBehindTest (label : LabelId) (index : Nat) :
    Edit.Ensures (AtTest rewritten (some label) start index)
      (Cursor.onBody (Body.placeLabel label (index + 4)))
      fun _ => AtTest rewritten none start index := by
  intro cursor test _ done
  rw [Cursor.apply_onBody, Body.apply_placeLabel, if_neg (Nat.not_lt.2 test.inside),
    Body.apply_setPlace] at done ⊢
  split at done
  · cases done
  · next known =>
    rw [if_neg known]
    have old (id : InstrId) (here : cursor.body.idAt? (index + 4) = some id) : id ∈ start.ids :=
      test.ahead _ id (Nat.le_add_right_of_le test.forward) here
    exact ⟨⟨test.frame.placed old, test.ahead⟩, test.forward, test.inside⟩

theorem ensures_insertGuardTest (index : Nat) (extra : String) :
    Edit.Ensures (AtTest rewritten none start index) (insertGuardTest index extra)
      fun _ => Cursor.Framing rewritten none start :=
  .bind (ensures_operandOfLine _) fun _ =>
  .bind (ensures_newLabelAtTest index) fun label =>
  .bind (ensures_placeBehindTest label index) fun _ =>
  .bind (ensures_enterTest index) fun _ =>
  .bind (Cursor.ensures_emit _ _) fun _ =>
  .bind (Cursor.ensures_emit _ _) fun _ =>
  .bind (Cursor.ensures_emit _ _) fun _ =>
  .bind (Cursor.ensures_emit _ _) fun _ =>
  ensures_skipWindowRest

/-- Every step of the loop begins and ends in front of old lines only. -/
theorem ensures_extendNextTests (anchor extra : String) (tests count : Nat) :
    Edit.Ensures (Cursor.Framing rewritten none start) (extendNextTests anchor extra tests count)
      fun _ => Cursor.Framing rewritten none start := by
  induction tests generalizing count with
  | zero => exact .pure fun _ framing => framing
  | succ tests ih =>
    refine .get_bind fun cursor framing => ?_
    cases found : nextTest? cursor anchor with
    | none =>
      refine .pure ?_
      rintro _ rfl
      exact framing
    | some test =>
      obtain ⟨index, shape⟩ := test
      obtain ⟨place, nearest, here⟩ := Option.map_eq_some_iff.1 found
      obtain ⟨rfl, rfl⟩ := Prod.ext_iff.1 here
      have inside : place + 4 ≤ cursor.body.length := by
        rcases Bool.or_eq_true_iff.1 (Cursor.opensAt_of_nearest? nearest) with chain | guard
        · exact Window.length_of_opensAt chain nofun
        · exact Window.length_of_opensAt guard nofun
      have test : ∀ state, state = cursor → AtTest rewritten none start place state := by
        rintro _ rfl
        exact ⟨framing, Cursor.le_of_nearest? nearest, inside⟩
      dsimp only
      split
      · exact .bind ((ensures_insertChainTest place extra).mono test fun _ _ done => done)
          fun _ => ih (count + 1)
      · exact .bind ((ensures_insertGuardTest place extra).mono test fun _ _ done => done)
          fun _ => ih (count + 1)

theorem ensures_extendTypeTests (task : BodyTask) :
    Edit.Ensures (Cursor.Framing rewritten none start) (extendTypeTests task)
      fun _ => Cursor.Framing rewritten none start := by
  refine .demand_bind fun anchor _ => .demand_bind fun extra _ => .get_bind fun cursor framing => ?_
  have extended : Edit.Ensures (· = cursor)
      (extendNextTests anchor extra (cursor.body.length + 1) 0)
      fun _ => Cursor.Framing rewritten none start := by
    refine (ensures_extendNextTests anchor extra _ 0).mono ?_ fun _ _ done => done
    rintro _ rfl
    exact framing
  refine extended.bind fun count => ?_
  split
  · exact .throw
  · exact .pure fun _ done => done

/-- In front of the jump of a threshold test, which stands at an index and may be rewritten. -/
structure AtSkip (rewritten : InstrId → Prop) (pending : Option LabelId) (start : Body) (index : Nat)
    (cursor : Cursor) : Prop extends cursor.Framing rewritten pending start where
  here : cursor.index = index
  quiet : start.NoneBehind cursor.body
  turned : ∀ id, cursor.body.idAt? index = some id → rewritten id

theorem ensures_newLabelAtSkip (index : Nat) :
    Edit.Ensures (AtSkip rewritten none start index) Cursor.newLabel
      fun label => AtSkip rewritten (some label) start index := by
  intro cursor skip label made
  cases made
  exact ⟨⟨skip.frame.withLabel, skip.ahead⟩, skip.here, skip.quiet.withLabel, skip.turned⟩

theorem ensures_overwriteSkip (index : Nat) (opcode : Opcode) (operand : Operand) :
    Edit.Ensures (AtSkip rewritten pending start index) (Cursor.overwrite opcode operand)
      fun _ => AtSkip rewritten pending start index := by
  intro cursor skip _ done
  rw [Cursor.apply_overwrite] at done ⊢
  split at done
  · next instr made =>
    split at done
    · cases done
    · next inside =>
      rw [if_neg inside]
      have turned := skip.turned
      rw [← skip.here] at turned
      have frame := skip.frame.changeAt (fun _ => instr) turned
      refine ⟨⟨frame, fun place id reached present => ?_⟩, skip.here, skip.quiet,
        fun id present => ?_⟩
      · rw [Body.idAt?_changeAt] at present
        exact skip.ahead place id reached present
      · rw [Body.idAt?_changeAt] at present
        exact skip.turned id present
  · cases done

theorem ensures_emitPath (path : List MemberRef) :
    Edit.Ensures (Cursor.Inserting rewritten pending start) (emitPath path)
      fun _ => Cursor.Inserting rewritten pending start :=
  .forM fun _ _ => .bind (Cursor.ensures_emit _ _) fun _ => .pure fun _ inserting => inserting

theorem ensures_widenThreshold (path : List MemberRef) {cursor : Cursor}
    (framing : cursor.Framing rewritten none start) (quiet : start.NoneBehind cursor.body)
    (turned : ∀ id, cursor.body.idAt? (cursor.index + 2) = some id → rewritten id) :
    Edit.Ensures (· = cursor) (widenThreshold path) fun _ => Cursor.Framing rewritten none start := by
  refine .get_bind ?_
  rintro cursor rfl
  dsimp only
  cases cursor.body.instrAt? (cursor.index + 2) with
  | none => exact .throw
  | some skip =>
    have entered : Edit.Ensures (· = cursor) (Cursor.moveTo (cursor.index + 2))
        fun _ => AtSkip rewritten none start (cursor.index + 2) := by
      rintro _ rfl _ done
      rw [Cursor.apply_moveTo] at done ⊢
      split at done
      · cases done
      · next inside =>
        rw [if_neg inside]
        exact ⟨framing.placed (Nat.le_add_right _ _) false, rfl, quiet, turned⟩
    have passed (label : LabelId) :
        Edit.Ensures (AtSkip rewritten (some label) start (cursor.index + 2))
          (Cursor.moveTo (cursor.index + 3))
          fun _ => Cursor.Inserting rewritten (some label) start := by
      refine (Cursor.ensures_moveTo _).mono (fun state skip => ?_) fun _ _ reached => reached
      exact ⟨skip.toFraming, by rw [skip.here]; exact Nat.le_succ _, fun _ => skip.quiet⟩
    exact .bind entered fun _ =>
      .bind (ensures_newLabelAtSkip _) fun label =>
      .bind (ensures_overwriteSkip _ _ _) fun _ =>
      .bind (passed label) fun _ =>
      .bind (Cursor.ensures_emit _ _) fun _ =>
      .bind (ensures_emitPath path) fun _ =>
      .bind (Cursor.ensures_emit _ _) fun _ =>
      .bind (Cursor.ensures_emit _ _) fun _ =>
      Cursor.ensures_placeLabelHere

/-- The jump of the first threshold test behind a cursor. -/
def IsSkip (cursor : Cursor) (owner field : String) (id : InstrId) : Prop :=
  ∃ place, cursor.nearest? .next ((thresholdWindow owner field).opensAt cursor.body) = some place ∧
    cursor.body.idAt? (place + 2) = some id

/-- Only the jump of the first threshold test is rewritten. -/
theorem ensures_widenCondition (task : BodyTask) {cursor : Cursor}
    (formed : cursor.body.WellFormed) :
    Edit.Ensures (· = cursor) (widenCondition task) fun _ after =>
      ∃ owner field, task.module.ownerOf task.method = .ok owner ∧
        task.request.textArg 0 = .ok field ∧
        after.Framing (IsSkip cursor (task.module.typeName owner) field) none cursor.body := by
  refine .demand_bind fun field given => .demand_bind fun alternate _ =>
    .demand_bind fun owner declared => .demand_bind fun path _ => ?_
  refine (Cursor.ensures_trySeek cursor _ _ _).bind fun found => ?_
  cases found with
  | false => exact .throw
  | true =>
    refine .of_each ?_
    rintro _ ⟨place, nearest, rfl⟩
    refine (ensures_widenThreshold path ?_ .refl fun id here => ⟨place, nearest, here⟩).mono
      (fun _ same => same) fun _ _ framing => ⟨owner, field, declared, given, framing⟩
    exact (Cursor.Framing.refl cursor formed).placed (Cursor.le_of_nearest? nearest) false

theorem ensures_emitGuardedCall (flag hook : Resolved) :
    Edit.Ensures (Cursor.Inserting rewritten none start) (emitGuardedCall flag hook)
      fun _ => Cursor.Framing rewritten none start := by
  refine .bind Cursor.ensures_newLabel fun skip => ?_
  have called : Edit.Ensures (Cursor.Inserting rewritten (some skip) start)
      (do
        let _ ← Cursor.emit .call (.member hook.ref)
        Cursor.placeLabelHere skip)
      fun _ => Cursor.Framing rewritten none start :=
    .bind (Cursor.ensures_emit _ _) fun _ => Cursor.ensures_placeLabelHere
  have guarded : Edit.Ensures (Cursor.Inserting rewritten (some skip) start)
      (do
        let _ ← Cursor.emit .brfalseS (.label skip)
        if !hook.isStatic then
          let _ ← Cursor.emit .ldarg0
        let _ ← Cursor.emit .call (.member hook.ref)
        Cursor.placeLabelHere skip)
      fun _ => Cursor.Framing rewritten none start := by
    refine .bind (Cursor.ensures_emit _ _) fun _ => ?_
    split
    · exact .bind (Cursor.ensures_emit _ _) fun _ => called
    · exact called
  dsimp only
  split
  · exact .bind (Cursor.ensures_emit _ _) fun _ => guarded
  · exact .bind (Cursor.ensures_emit _ _) fun _ => .bind (Cursor.ensures_emit _ _) fun _ => guarded

theorem ensures_guardCall (task : BodyTask) {cursor : Cursor} (formed : cursor.body.WellFormed) :
    Edit.Ensures (· = cursor) (guardCall task)
      fun _ => Cursor.Framing rewritten none cursor.body := by
  refine .demand_bind fun target _ => .demand_bind fun flagName _ => .demand_bind fun hookName _ =>
    .demand_bind fun owner _ => .demand_bind fun flag _ => .demand_bind fun hook _ => ?_
  refine (Cursor.ensures_trySeek cursor _ _ _).bind fun found => ?_
  cases found with
  | false => exact .throw
  | true =>
    refine (ensures_emitGuardedCall flag hook).mono ?_ fun _ _ framing => framing
    rintro _ ⟨place, nearest, rfl⟩
    exact .placed (.refl cursor formed)
      (Nat.le_add_right_of_le (Cursor.le_of_nearest? nearest)) fun _ => .refl

/-- A line of a body is a call of the placeholder. -/
def IsCall (body : Body) (placeholder : String) (id : InstrId) : Prop :=
  ∃ instr, body.get? id = some instr ∧ Matcher.call "" placeholder instr = true

/-- While an operation is substituted, every line holds what it held before or the operation. -/
structure Substituting (placeholder : String) (opcode : Opcode) (start : Body) (cursor : Cursor) :
    Prop where
  frame : Body.Frame (IsCall start placeholder) none start cursor.body
  held : ∀ id, cursor.body.get? id = start.get? id ∨ cursor.body.get? id = some ⟨opcode, .none⟩

variable {placeholder : String} {opcode : Opcode}

/-- Where the call of a placeholder is found, the body had one from the start: an operation without
an operand calls nothing. -/
theorem Substituting.isCall {cursor : Cursor} (substituting : Substituting placeholder opcode start
    cursor) (opens : (placeholderCall placeholder).opensAt cursor.body cursor.index = true)
    (id : InstrId) (here : cursor.body.idAt? cursor.index = some id) :
    IsCall start placeholder id := by
  have same := substituting.frame.formed.get?_of_idAt? here
  rw [placeholderCall, Window.opensAt, Window.opensAt, Bool.and_true, ← same] at opens
  obtain ⟨instr, present, calls⟩ := (Option.any_eq_true _ _).1 opens
  rcases substituting.held id with old | substituted
  · exact ⟨instr, old ▸ present, calls⟩
  · rw [substituted] at present
    cases present
    simp [Matcher.call, Matcher.memberAccess, Operand.member?] at calls

theorem ensures_overwriteCall :
    Edit.Ensures
      (fun cursor => Substituting placeholder opcode start cursor ∧
        (placeholderCall placeholder).opensAt cursor.body cursor.index = true)
      (Cursor.overwrite opcode) fun _ => Substituting placeholder opcode start := by
  rintro cursor ⟨substituting, opens⟩ _ done
  rw [Cursor.apply_overwrite] at done ⊢
  split at done
  · next instr made =>
    obtain ⟨rfl, _⟩ := Instr.of_eq_ok_iff.1 made
    split at done
    · cases done
    · next inside =>
      rw [if_neg inside]
      have frame := substituting.frame.changeAt (fun _ => ⟨opcode, .none⟩)
        (substituting.isCall opens)
      refine ⟨frame, fun id => ?_⟩
      dsimp only
      by_cases here : cursor.body.idAt? cursor.index = some id
      · right
        obtain ⟨line, present, rfl⟩ := Option.map_eq_some_iff.1 here
        have old : cursor.body.instrs[cursor.index]? = some line.instr := by
          rw [← Body.instrAt?_eq, Body.instrAt?, present]
          rfl
        rw [frame.formed.get?_of_idAt? ((Body.idAt?_changeAt ..).trans here), Body.instrAt?_eq,
          Body.instrs_changeAt, List.getElem?_modify, old]
        simp
      · rw [Body.get?_changeAt _ here]
        exact substituting.held id
  · cases done

theorem ensures_substituteNext (calls count : Nat) :
    Edit.Ensures (Substituting placeholder opcode start)
      (substituteNext placeholder opcode calls count)
      fun _ => Substituting placeholder opcode start := by
  induction calls generalizing count with
  | zero => exact .pure fun _ substituting => substituting
  | succ calls ih =>
    refine .of_each fun cursor substituting => ?_
    refine (Cursor.ensures_trySeek cursor _ _ _).bind fun found => ?_
    cases found with
    | false =>
      refine .pure ?_
      rintro _ rfl
      exact substituting
    | true =>
      refine (ensures_overwriteCall.mono ?_ fun _ _ done => done).bind fun _ => ih _
      rintro _ ⟨place, nearest, rfl⟩
      exact ⟨⟨substituting.frame, substituting.held⟩, Cursor.opensAt_of_nearest? nearest⟩

theorem ensures_substituteAll {cursor : Cursor} (formed : cursor.body.WellFormed) :
    Edit.Ensures (· = cursor) (substituteAll placeholder opcode)
      fun _ => Substituting placeholder opcode cursor.body := by
  refine .get_bind ?_
  rintro cursor rfl
  refine (ensures_substituteNext _ _).mono ?_ fun _ _ done => done
  rintro _ rfl
  exact ⟨.refl formed, fun _ => .inl rfl⟩

theorem ensures_substituteNamed (task : BodyTask) {cursor : Cursor}
    (formed : cursor.body.WellFormed) :
    Edit.Ensures (· = cursor) (substituteNamed task) fun _ after =>
      ∃ placeholder opcode, task.request.textArg 0 = .ok placeholder ∧
        Substituting placeholder opcode cursor.body after := by
  refine .demand_bind fun placeholder given => .demand_bind fun mnemonic _ =>
    .demand_bind fun opcode _ => ?_
  exact (ensures_substituteAll formed).mono (fun _ same => same)
    fun _ _ substituting => ⟨placeholder, opcode, given, substituting⟩

/-- The lines that a rule may rewrite: the calls for which it puts an operation, or the one jump
that it turns round. -/
def MayRewrite (task : BodyTask) (cursor : Cursor) (id : InstrId) : String → Prop
  | "PatchInitblk" => IsCall cursor.body "_initblk" id
  | "SubstituteOpcode" =>
    ∃ placeholder, task.request.textArg 0 = .ok placeholder ∧ IsCall cursor.body placeholder id
  | "PatchOrCondition" =>
    ∃ owner field, task.module.ownerOf task.method = .ok owner ∧
      task.request.textArg 0 = .ok field ∧ IsSkip cursor (task.module.typeName owner) field id
  | _ => False

/-- A rule for bodies that leaves the frame of every body that it is given, but for some lines. -/
def KeepsFrame (rule : Rule ν) : Prop :=
  ∀ serve, rule.handler = .body serve → ∀ (task : BodyTask) (start : Noted ν Cursor),
    start.state.body.Reachable → ((serve task).apply start).1 = .ok () →
      Body.Frame (fun id => MayRewrite task start.state id rule.name) none start.state.body
        ((serve task).apply start).2.state.body

theorem keepsFrame_onBody {name description : String} {serve : BodyTask → Edit Cursor Unit}
    (each : ∀ (task : BodyTask) (cursor : Cursor), cursor.body.WellFormed →
      Edit.Ensures (· = cursor) (serve task) fun _ after =>
        Body.Frame (fun id => MayRewrite task cursor id name) none cursor.body after.body) :
    (onBody name description serve : Rule ν).KeepsFrame := by
  rintro _ ⟨⟩ task start reachable served
  exact each task start.state reachable.wellFormed start.state rfl () served

theorem keepsFrame_builtIn {rule : Rule ν} (builtIn : rule ∈ (Rule.builtIn : List (Rule ν)))
    (changesCode : rule.name ∈ ["PatchTypeCheck", "PatchOrCondition", "PatchGuardedCall",
      "SubstituteOpcode", "PatchInitblk"]) : rule.KeepsFrame := by
  simp only [Rule.builtIn, forDeclarations, forSubstitution, forTypeTests, forThresholds,
    forFieldReads, forGuardedCalls, List.mem_append, List.mem_cons, List.not_mem_nil,
    or_false] at builtIn
  rcases builtIn with (((((rfl | rfl | rfl) | initblk | opcode) | test) | condition) | rfl) | call
  · simp [onMember] at changesCode
  · simp [onMember] at changesCode
  · simp [onMember] at changesCode
  · subst initblk
    exact keepsFrame_onBody fun task cursor formed =>
      (ensures_substituteAll formed).discard.mono (fun _ same => same)
        fun _ _ substituting => substituting.frame
  · subst opcode
    refine keepsFrame_onBody fun task cursor formed =>
      (ensures_substituteNamed task formed).discard.mono (fun _ same => same) ?_
    rintro _ _ ⟨placeholder, _, given, substituting⟩
    exact substituting.frame.mono fun id call => ⟨placeholder, given, call⟩
  · subst test
    refine keepsFrame_onBody fun task cursor formed => ?_
    refine (ensures_extendTypeTests task).mono ?_ fun _ _ framing => framing.frame
    rintro cursor rfl
    exact .refl cursor formed
  · subst condition
    refine keepsFrame_onBody fun task cursor formed =>
      (ensures_widenCondition task formed).mono (fun _ same => same) ?_
    rintro _ _ ⟨owner, field, declared, given, framing⟩
    exact framing.frame.mono fun id skip => ⟨owner, field, declared, given, skip⟩
  · simp [onBody] at changesCode
  · subst call
    exact keepsFrame_onBody fun task cursor formed =>
      (ensures_guardCall task formed).mono (fun _ same => same) fun _ _ framing => framing.frame

/-- The rules that put code into a body or substitute operations in it, when they succeed, leave
everything else alone. The lines that were there keep their order, and their instructions unless they
are among the few that such a rule rewrites. Labels and regions stay at their lines, and every label
that the rule defines stands at a line that was there before, or at the end. -/
theorem frame_of_serve {rule : Rule ν} (builtIn : rule ∈ (Rule.builtIn : List (Rule ν)))
    (changesCode : rule.name ∈ ["PatchTypeCheck", "PatchOrCondition", "PatchGuardedCall",
      "SubstituteOpcode", "PatchInitblk"])
    {serve : BodyTask → Edit (Noted ν Cursor) Unit} (handles : rule.handler = .body serve)
    (task : BodyTask) (start : Noted ν Cursor) (reachable : start.state.body.Reachable)
    (served : ((serve task).apply start).1 = .ok ()) :
    Body.Frame (fun id => MayRewrite task start.state id rule.name) none start.state.body
      ((serve task).apply start).2.state.body :=
  keepsFrame_builtIn builtIn changesCode serve handles task start reachable served

/-- A body that tests a field of `this` and jumps over one line when the test fails. -/
def guardedBody : Body :=
  Body.after {} [.newLabel, .append ⟨.ldarg0, .none⟩,
    .append ⟨.ldfld, .member (.field "Game" "item" "Item")⟩, .append ⟨.isinst, .type "Sword"⟩,
    .append ⟨.brfalseS, .label ⟨0⟩⟩, .append ⟨.nop, .none⟩, .append ⟨.ret, .none⟩,
    .placeLabel ⟨0⟩ 5]

/-- The request to let another type pass the test as well. -/
def admitAxe : BodyTask where
  module := { name := "Game" }
  method := ⟨0⟩
  target := ⟨0⟩
  request := ⟨"PatchTypeCheck", [.string "Sword", .string "Axe"]⟩

/-- The cursor at the start of that body. -/
def atGuard : Noted Unit Cursor where
  state := { body := guardedBody, method := "Game::Use" }

/-- The new test comes behind the first line, and its label stands at the line that is guarded. -/
theorem frame_of_guardedBody :
    ∃ finish, ((Noted.quietly (extendTypeTests admitAxe)).apply atGuard).2 = finish ∧
      Body.Frame (fun _ => False) none guardedBody finish.state.body ∧
      finish.state.body.ids = [⟨0⟩, ⟨6⟩, ⟨7⟩, ⟨8⟩, ⟨9⟩, ⟨1⟩, ⟨2⟩, ⟨3⟩, ⟨4⟩, ⟨5⟩] ∧
      finish.state.body.labels = #[.line ⟨5⟩, .line ⟨4⟩] := by
  have listed : (onBody "PatchTypeCheck" "Extends isinst checks on a field to a second type"
      extendTypeTests : Rule Unit) ∈ Rule.builtIn := by
    simp [Rule.builtIn, forTypeTests]
  have served : ((Noted.quietly (extendTypeTests admitAxe)).apply atGuard).1 = .ok () := by cbv
  have frame := frame_of_serve listed (by decide) rfl admitAxe atGuard (.after .empty _) served
  exact ⟨_, rfl, frame.mono fun id rewritten => by simp [MayRewrite, onBody] at rewritten,
    by decide +kernel, by decide +kernel⟩

end Rule
end Retrofit

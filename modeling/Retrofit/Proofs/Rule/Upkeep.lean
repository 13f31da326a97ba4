import Retrofit.Proofs.Body.Reworking
import Retrofit.Proofs.Rule.Frame

/-!
What the built-in rules for bodies keep up, whether they succeed or fail. They work in few kinds of
steps: labels change, a checked instruction is put in, one of a kind that was searched for is written
over or taken out. A property that outlives each kind of step outlives the rules (`Rule.Upheld`).
-/

namespace Retrofit

open Edit (Ensures Maintains Secures)

/-- A jump, in either width, over the code behind a threshold that is not exceeded. -/
def Instr.SkipsBelow (instr : Instr) : Prop := instr.opcode.lengthened = .bleUn

namespace Rule

/-- A property of bodies that outlives the steps of the rules for bodies. No rule makes objects, and
what a rule takes out is a call. -/
structure Upheld (property : Body → Prop) : Prop where
  labels : ∀ {body : Body} (labels : Array LabelPlace), property body → property { body with labels }
  inserted : ∀ {body : Body} (index : Nat) {instr : Instr}, instr.opcode ≠ .newobj →
    instr.wellShaped = true → property body → property (body.inserted index instr)
  reworked : ∀ {body : Body} {index : Nat} {new : Instr},
    (∀ old, body.instrAt? index = some old → old.Rework new) → property body →
      property (body.changeAt index fun _ => new)
  erased : ∀ {body : Body} {index : Nat},
    (∀ old, body.instrAt? index = some old → old.opcode ∈ [.call, .callvirt]) → property body →
      property (body.erased index)

end Rule

namespace Cursor

/-- The body under the cursor has the property. -/
def Holds (property : Body → Prop) (cursor : Cursor) : Prop := property cursor.body

/-- The instruction at the index, if there is one, has the property. -/
def HasAt (property : Instr → Prop) (index : Nat) (cursor : Cursor) : Prop :=
  ∀ instr, cursor.body.instrAt? index = some instr → property instr

/-- The instruction behind the cursor has the property. -/
def Faces (property : Instr → Prop) (cursor : Cursor) : Prop := cursor.HasAt property cursor.index

variable {property : Body → Prop} {wanted : Instr → Prop} {index : Nat}

theorem hasAt_of_opensAt {cursor : Cursor} {window : Window} {start : Nat} (offset : Nat)
    {matcher : Matcher} (opens : window.opensAt cursor.body start = true)
    (here : window[offset]? = some matcher) (fits : ∀ instr, matcher instr = true → wanted instr) :
    cursor.HasAt wanted (start + offset) := by
  intro instr found
  obtain ⟨met, there, suits⟩ := Window.opensAt_iff.1 opens offset matcher here
  rw [there] at found
  cases found
  exact fits _ suits

theorem faces_moveTo (index : Nat) :
    Ensures (HasAt wanted index) (moveTo index) fun _ => Faces wanted := by
  intro cursor has _ done
  rw [apply_moveTo] at done ⊢
  split at done
  · cases done
  · next inside =>
    rw [if_neg inside]
    exact has

theorem opensAt_trySeek (window : Window) :
    Ensures (fun _ => True) (trySeek .next window) fun found cursor =>
      found = true → window.opensAt cursor.body cursor.index = true := by
  intro cursor _ found done
  rw [apply_trySeek] at done ⊢
  split at done
  · cases done
    nofun
  · next place nearest => exact fun _ => opensAt_of_nearest? nearest

theorem hasAt_overwrite (opcode : Opcode) (operand : Operand) :
    Ensures (fun cursor => HasAt wanted (cursor.index + 1) cursor) (overwrite opcode operand)
      fun _ cursor => HasAt wanted (cursor.index + 1) cursor := by
  intro cursor has value done
  rw [apply_overwrite] at done ⊢
  split at done
  · next instr formed =>
    split at done
    · cases done
    · next inside =>
      rw [if_neg inside]
      intro old found
      refine has old ?_
      rw [Body.instrAt?_eq, Body.instrs_changeAt] at found
      rw [Body.instrAt?_eq]
      simpa using found
  · cases done

theorem holds_onBody {edit : Edit Body α}
    (keeps : ∀ body, property body → property (edit.apply body).2) :
    Maintains (Holds property) (onBody edit) := by
  refine .of_apply fun cursor held => ?_
  rw [apply_onBody]
  exact keeps cursor.body held

theorem holds_moveTo (index : Nat) : Maintains (Holds property) (moveTo index) := by
  refine .of_apply fun cursor held => ?_
  rw [Holds, body_moveTo]
  exact held

theorem holds_trySeek (window : Window) (landing : Landing) :
    Maintains (Holds property) (trySeek .next window landing) := by
  refine .of_apply fun cursor held => ?_
  rw [Holds, body_trySeek]
  exact held

end Cursor

namespace Rule

open Cursor (Holds Faces HasAt)

variable {property : Body → Prop}

theorem holds_operandOfLine (index : Nat) : Maintains (Holds property) (operandOfLine index) := by
  refine .get_bind fun cursor _ _ => ?_
  split
  · exact .pure fun _ _ _ => trivial
  · exact .throw

theorem holds_skipWindowRest : Maintains (Holds property) skipWindowRest :=
  .get_bind fun _ _ _ => (Cursor.holds_moveTo _).within

theorem holds_trySeek_before (window : Window) :
    Secures (Holds property) (fun _ => True) (Cursor.trySeek .next window) fun found cursor =>
      found = true → window.opensAt cursor.body cursor.index = true :=
  (Cursor.holds_trySeek window .before).secures (Cursor.opensAt_trySeek window)

theorem opcode_of_memberAccess {opcodes : List Opcode} {kind : MemberKind} {owner name : String}
    (instr : Instr) (fits : Matcher.memberAccess opcodes kind owner name instr = true) :
    instr.opcode ∈ opcodes :=
  of_decide_eq_true (Bool.and_eq_true_iff.1 fits).1

namespace Upheld

variable (upheld : Upheld property)

include upheld

theorem newLabel : Maintains (Holds property) Cursor.newLabel :=
  Cursor.holds_onBody fun _ held => upheld.labels _ held

theorem placeLabel (label : LabelId) (index : Nat) :
    Maintains (Holds property) (Cursor.onBody (Body.placeLabel label index)) := by
  refine Cursor.holds_onBody fun body held => ?_
  rw [Body.apply_placeLabel]
  split
  · exact held
  · rw [Body.apply_setPlace]
    split
    · exact held
    · exact upheld.labels _ held

theorem placeLabelHere (label : LabelId) :
    Maintains (Holds property) (Cursor.placeLabelHere label) :=
  .get_bind fun _ _ _ => (upheld.placeLabel label _).within

theorem emit {opcode : Opcode} (other : opcode ≠ .newobj) (operand : Operand) :
    Maintains (Holds property) (Cursor.emit opcode operand) := by
  refine .demand_bind fun instr formed => Maintains.of_apply fun cursor held => ?_
  obtain ⟨rfl, fits⟩ := Instr.of_eq_ok_iff.1 formed
  rw [Cursor.apply_insertBefore]
  split
  · exact held
  · have inserted := upheld.inserted cursor.index other fits held
    show property (cursor.bodyInserting _)
    rw [Cursor.bodyInserting]
    split
    · exact upheld.labels _ inserted
    · exact inserted

theorem overwrite {opcode : Opcode} {operand : Operand} {wanted : Instr → Prop}
    (reworks : ∀ old, wanted old → (⟨opcode, operand⟩ : Instr).wellShaped = true →
      old.Rework ⟨opcode, operand⟩) :
    Secures (Holds property) (Faces wanted) (Cursor.overwrite opcode operand) fun _ _ => True := by
  intro cursor held faces
  refine ⟨?_, fun _ _ => trivial⟩
  rw [Cursor.apply_overwrite]
  split
  · next instr formed =>
    obtain ⟨rfl, fits⟩ := Instr.of_eq_ok_iff.1 formed
    split
    · exact held
    · exact upheld.reworked (fun old here => reworks old (faces old here) fits) held
  · exact held

theorem erase :
    Secures (Holds property) (Faces fun instr => instr.opcode ∈ [.call, .callvirt]) Cursor.erase
      fun _ _ => True := by
  intro cursor held calls
  refine ⟨?_, fun _ _ => trivial⟩
  rw [Cursor.apply_erase, Cursor.apply_onBody, Body.apply_eraseIdx]
  cases cursor.body.lines[cursor.index]? with
  | none => exact held
  | some line =>
    dsimp only
    cases cursor.body.obstacle? cursor.index false line.id with
    | some obstacle => exact held
    | none => exact upheld.erased calls held

theorem insertChainTest (start : Nat) (extra : String) :
    Maintains (Holds property) (Rule.insertChainTest start extra) :=
  .bind (holds_operandOfLine _) fun _ =>
  .bind (holds_operandOfLine _) fun _ =>
  .bind (Cursor.holds_moveTo _) fun _ =>
  .bind (upheld.emit (by decide) _) fun _ =>
  .bind (upheld.emit (by decide) _) fun _ =>
  .bind (upheld.emit (by decide) _) fun _ =>
  .bind (upheld.emit (by decide) _) fun _ =>
  holds_skipWindowRest

theorem insertGuardTest (start : Nat) (extra : String) :
    Maintains (Holds property) (Rule.insertGuardTest start extra) :=
  .bind (holds_operandOfLine _) fun _ =>
  .bind upheld.newLabel fun label =>
  .bind (upheld.placeLabel label _) fun _ =>
  .bind (Cursor.holds_moveTo _) fun _ =>
  .bind (upheld.emit (by decide) _) fun _ =>
  .bind (upheld.emit (by decide) _) fun _ =>
  .bind (upheld.emit (by decide) _) fun _ =>
  .bind (upheld.emit (by decide) _) fun _ =>
  holds_skipWindowRest

theorem extendNextTests (anchor extra : String) (tests count : Nat) :
    Maintains (Holds property) (Rule.extendNextTests anchor extra tests count) := by
  induction tests generalizing count with
  | zero => exact .pure fun _ _ _ => trivial
  | succ tests ih =>
    refine .get_bind fun cursor _ _ => Maintains.within ?_
    cases nextTest? cursor anchor with
    | none => exact .pure fun _ _ _ => trivial
    | some test =>
      obtain ⟨start, shape⟩ := test
      cases shape with
      | chain => exact .bind (upheld.insertChainTest start extra) fun _ => ih (count + 1)
      | guard => exact .bind (upheld.insertGuardTest start extra) fun _ => ih (count + 1)

theorem extendTypeTests (task : BodyTask) :
    Maintains (Holds property) (Rule.extendTypeTests task) := by
  refine .demand_bind fun anchor _ => .demand_bind fun extra _ => .get_bind fun cursor _ _ => ?_
  refine Maintains.within (.bind (upheld.extendNextTests anchor extra _ 0) fun count => ?_)
  split
  · exact .throw
  · exact .pure fun _ _ _ => trivial

theorem emitPath (path : List MemberRef) : Maintains (Holds property) (Rule.emitPath path) :=
  Maintains.forM fun _ _ => .bind (upheld.emit (by decide) _) fun _ => .pure fun _ _ _ => trivial

theorem widenThreshold (path : List MemberRef) {cursor : Cursor}
    (skips : cursor.HasAt Instr.SkipsBelow (cursor.index + 2)) :
    Secures (Holds property) (· = cursor) (Rule.widenThreshold path) fun _ _ => True := by
  refine .get_bind ?_
  rintro cursor _ rfl
  dsimp only
  cases found : cursor.body.instrAt? (cursor.index + 2) with
  | none => exact .throw
  | some skip =>
    have arrived : Secures (Holds property) (HasAt Instr.SkipsBelow (cursor.index + 2))
        (Cursor.moveTo (cursor.index + 2)) fun _ => Faces Instr.SkipsBelow :=
      (Cursor.holds_moveTo _).secures (Cursor.faces_moveTo _)
    have labelled : Secures (Holds property) (Faces Instr.SkipsBelow) Cursor.newLabel
        fun _ => Faces Instr.SkipsBelow := by
      refine upheld.newLabel.secures ?_
      rintro cursor faces _ ⟨⟩
      exact faces
    have admits : (if skip.opcode.isShortJump then Opcode.bgtS else .bgt).lengthened = .bgt := by
      split <;> rfl
    have other : skip.opcode ≠ .newobj := by
      intro makes
      have skips := skips skip found
      rw [Instr.SkipsBelow, makes] at skips
      cases skips
    exact .bind (.at_state skips arrived) fun _ =>
      .bind labelled fun label =>
      .bind (upheld.overwrite fun _ skips formed => .turn skips admits formed) fun _ =>
      .bind (Cursor.holds_moveTo _) fun _ =>
      .bind (upheld.emit (by decide) _) fun _ =>
      .bind (upheld.emitPath path) fun _ =>
      .bind (upheld.emit (by decide) _) fun _ =>
      .bind (upheld.emit other _) fun _ =>
      upheld.placeLabelHere label

theorem widenCondition (task : BodyTask) :
    Maintains (Holds property) (Rule.widenCondition task) := by
  refine .demand_bind fun field _ => .demand_bind fun alternate _ => .demand_bind fun owner _ =>
    .demand_bind fun path _ => ?_
  refine (holds_trySeek_before _).bind fun found => ?_
  cases found with
  | false => exact .throw
  | true =>
    refine .of_each fun cursor _ reached => upheld.widenThreshold path ?_
    have last : (thresholdWindow (task.module.typeName owner) field)[2]? =
        some (.branch .bleUn) := rfl
    refine Cursor.hasAt_of_opensAt 2 (reached rfl) last fun skip fits => ?_
    rw [Instr.SkipsBelow]
    rcases Bool.or_eq_true_iff.1 fits with short | long
    · rw [of_decide_eq_true short]
      rfl
    · rw [of_decide_eq_true long]
      rfl

theorem emitGuardedCall (flag hook : Resolved) :
    Maintains (Holds property) (Rule.emitGuardedCall flag hook) := by
  refine .bind upheld.newLabel fun skip => ?_
  have called : Maintains (Holds property)
      (do
        let _ ← Cursor.emit .call (.member hook.ref)
        Cursor.placeLabelHere skip) :=
    .bind (upheld.emit (by decide) _) fun _ => upheld.placeLabelHere skip
  have guarded : Maintains (Holds property)
      (do
        let _ ← Cursor.emit .brfalseS (.label skip)
        if !hook.isStatic then
          let _ ← Cursor.emit .ldarg0
        let _ ← Cursor.emit .call (.member hook.ref)
        Cursor.placeLabelHere skip) := by
    refine .bind (upheld.emit (by decide) _) fun _ => ?_
    split
    · exact .bind (upheld.emit (by decide) _) fun _ => called
    · exact called
  dsimp only
  split
  · exact .bind (upheld.emit (by decide) _) fun _ => guarded
  · exact .bind (upheld.emit (by decide) _) fun _ =>
      .bind (upheld.emit (by decide) _) fun _ => guarded

theorem guardCall (task : BodyTask) : Maintains (Holds property) (Rule.guardCall task) := by
  refine .demand_bind fun target _ => .demand_bind fun flagName _ => .demand_bind fun hookName _ =>
    .demand_bind fun owner _ => .demand_bind fun flag _ => .demand_bind fun hook _ => ?_
  refine .bind (Cursor.holds_trySeek _ .behind) fun found => ?_
  cases found with
  | false => exact .throw
  | true => exact upheld.emitGuardedCall flag hook

theorem substituteNext (placeholder : String) (opcode : Opcode) (calls count : Nat) :
    Maintains (Holds property) (Rule.substituteNext placeholder opcode calls count) := by
  induction calls generalizing count with
  | zero => exact .pure fun _ _ _ => trivial
  | succ calls ih =>
    refine (holds_trySeek_before _).bind fun found => ?_
    cases found with
    | false => exact .pure fun _ _ _ => trivial
    | true =>
      have substituted : Secures (Holds property) (Faces fun instr => instr.opcode ∈ [.call])
          (Cursor.overwrite opcode) fun _ _ => True :=
        upheld.overwrite fun _ calls formed => .substitute (List.mem_singleton.1 calls) formed
      refine .bind (substituted.mono (fun cursor _ reached => ?_) fun _ _ done => done) fun _ => ih _
      exact Cursor.hasAt_of_opensAt 0 (reached rfl) rfl opcode_of_memberAccess

theorem substituteAll (placeholder : String) (opcode : Opcode) :
    Maintains (Holds property) (Rule.substituteAll placeholder opcode) :=
  .get_bind fun _ _ _ => (upheld.substituteNext placeholder opcode _ _).within

theorem substituteNamed (task : BodyTask) :
    Maintains (Holds property) (Rule.substituteNamed task) :=
  .demand_bind fun placeholder _ => .demand_bind fun _ _ => .demand_bind fun opcode _ =>
    upheld.substituteAll placeholder opcode

/-- The load in front of the getter is overwritten. The call of the getter still comes next. -/
theorem overwriteLoad (getter : String) (field : MemberRef) :
    Secures (Holds property)
      (fun cursor : Cursor => (getterWindow getter).opensAt cursor.body cursor.index = true)
      (Cursor.overwrite .ldfld (.member field))
      fun _ cursor => cursor.HasAt (fun instr => instr.opcode ∈ [.call, .callvirt])
        (cursor.index + 1) := by
  have loaded : Secures (Holds property) (Faces fun instr => instr.opcode = .ldfld)
      (Cursor.overwrite .ldfld (.member field)) fun _ _ => True :=
    upheld.overwrite fun _ loaded formed => .reload loaded rfl formed
  intro cursor held opens
  have load : cursor.HasAt (fun instr => instr.opcode = .ldfld) (cursor.index + 0) :=
    Cursor.hasAt_of_opensAt 0 opens rfl fun _ fits => of_decide_eq_true fits
  have call : cursor.HasAt (fun instr => instr.opcode ∈ [.call, .callvirt]) (cursor.index + 1) :=
    Cursor.hasAt_of_opensAt 1 opens rfl opcode_of_memberAccess
  exact ⟨(loaded cursor held load).1, Cursor.hasAt_overwrite _ _ cursor call⟩

theorem replaceNextReads (getter : String) (field : MemberRef) (reads count : Nat) :
    Maintains (Holds property) (Rule.replaceNextReads getter field reads count) := by
  induction reads generalizing count with
  | zero => exact .pure fun _ _ _ => trivial
  | succ reads ih =>
    refine (holds_trySeek_before _).bind fun found => ?_
    cases found with
    | false => exact .pure fun _ _ _ => trivial
    | true =>
      refine .bind (.mono (fun _ _ reached => reached rfl) (upheld.overwriteLoad getter field)
        fun _ _ done => done) fun _ => ?_
      refine .get_bind fun cursor _ call => ?_
      have arrived : Secures (Holds property)
          (HasAt (fun instr => instr.opcode ∈ [.call, .callvirt]) (cursor.index + 1))
          (Cursor.moveTo (cursor.index + 1))
          fun _ => Faces fun instr => instr.opcode ∈ [.call, .callvirt] :=
        (Cursor.holds_moveTo _).secures (Cursor.faces_moveTo _)
      exact .bind (.at_state call arrived) fun _ => .bind upheld.erase fun _ => ih (count + 1)

theorem loadFieldDirectly (task : BodyTask) :
    Maintains (Holds property) (Rule.loadFieldDirectly task) := by
  refine .demand_bind fun getter _ => .demand_bind fun name _ => .demand_bind fun owner _ =>
    .demand_bind fun field _ => .demand_bind fun ref _ => .get_bind fun cursor _ _ => ?_
  refine Maintains.within (.bind (upheld.replaceNextReads getter ref _ 0) fun count => ?_)
  split
  · exact .throw
  · exact .pure fun _ _ _ => trivial

end Upheld
end Rule
end Retrofit

import Retrofit.Cursor.Search
import Retrofit.Proofs.Body.Width
import Retrofit.Proofs.Cursor.Operation
import Retrofit.Proofs.Edit

/-!
Work at a cursor up to the width of branches: on two bodies that differ in nothing else, the same
work comes to the same results and to such bodies again.
-/

namespace Retrofit

/-- The matcher does not tell a short branch from a long one. -/
def Matcher.Blind (matcher : Matcher) : Prop :=
  ∀ instr : Instr, matcher instr.widened = matcher instr

namespace Matcher

theorem blind_branch (opcode : Opcode) : Blind (branch opcode) := by
  have branches (instr : Instr) :
      branch opcode instr = decide (instr.opcode.lengthened = opcode.lengthened) := by
    simp only [branch, Opcode.lengthened_eq_iff, Bool.decide_or]
  intro instr
  rw [branches, branches, Instr.widened, Opcode.lengthened_lengthened]

theorem blind_opcode {opcode : Opcode} (long : opcode.lengthened = opcode)
    (short : opcode.shortened = opcode) : Blind (Matcher.opcode opcode) := by
  intro instr
  have same := Instr.widened_mem_iff [opcode] (by simp [long, short]) instr
  simpa [Matcher.opcode] using same

theorem blind_memberAccess {opcodes : List Opcode}
    (plain : ∀ opcode ∈ opcodes, opcode.lengthened = opcode ∧ opcode.shortened = opcode)
    (kind : MemberKind) (declaringType name : String) :
    Blind (memberAccess opcodes kind declaringType name) := by
  intro instr
  simp only [memberAccess, Instr.widened_mem_iff opcodes plain instr]
  rfl

end Matcher

/-- The instructions that satisfy the window do so in both widths. -/
def Window.Blind (window : Window) : Prop := ∀ matcher ∈ window, Matcher.Blind matcher

theorem Window.blind_cons {matcher : Matcher} {rest : Window} (first : Matcher.Blind matcher)
    (later : rest.Blind) : Window.Blind (matcher :: rest) :=
  List.forall_mem_cons.2 ⟨first, later⟩

theorem Window.blind_singleton {matcher : Matcher} (blind : Matcher.Blind matcher) :
    Window.Blind [matcher] :=
  List.forall_mem_singleton.2 blind

theorem Window.Blind.opensAt_lengthened {window : Window} (blind : window.Blind) (body : Body) :
    window.opensAt body.lengthened = window.opensAt body := by
  funext index
  induction window generalizing index with
  | nil => rfl
  | cons matcher rest ih =>
    have later := ih (fun other listed => blind other (List.mem_cons_of_mem _ listed)) (index + 1)
    rw [opensAt, opensAt, later, Body.instrAt?_lengthened]
    cases body.instrAt? index with
    | none => rfl
    | some instr =>
      have same := blind matcher List.mem_cons_self instr
      simp [same]

namespace Cursor

variable {left right : Cursor}

/-- The cursor at the body with every short branch in its long form. -/
def lengthened (cursor : Cursor) : Cursor := { cursor with body := cursor.body.lengthened }

/-- Cursors at the same place of bodies that differ in the width of branches at most. -/
def SameButWidths (left right : Cursor) : Prop := left.lengthened = right.lengthened

theorem sameButWidths_lengthened (cursor : Cursor) : cursor.SameButWidths cursor.lengthened := by
  simp [SameButWidths, lengthened]

theorem SameButWidths.body (same : SameButWidths left right) :
    left.body.lengthened = right.body.lengthened :=
  congrArg Cursor.body same

theorem SameButWidths.index (same : SameButWidths left right) : left.index = right.index :=
  congrArg (fun cursor => cursor.index) same

theorem SameButWidths.method (same : SameButWidths left right) : left.method = right.method :=
  congrArg (fun cursor => cursor.method) same

theorem SameButWidths.behindLabels (same : SameButWidths left right) :
    left.behindLabels = right.behindLabels :=
  congrArg (fun cursor => cursor.behindLabels) same

theorem SameButWidths.onto (same : SameButWidths left right) {body other : Body}
    (bodies : body.lengthened = other.lengthened) {index place : Nat} (here : index = place) :
    SameButWidths { left with body, index } { right with body := other, index := place } := by
  simp only [SameButWidths, lengthened, bodies, here, same.method, same.behindLabels]

theorem SameButWidths.length (same : SameButWidths left right) :
    left.body.length = right.body.length := by
  rw [← Body.length_lengthened, same.body, Body.length_lengthened]

/-- Where one edit succeeds, the other one does with the same result, and the bodies then differ in
the width of branches at most if they did so before. -/
abbrev Follow (edit other : Edit Cursor α) : Prop :=
  Edit.Follows (Edit.Both SameButWidths) edit other (Edit.Both SameButWidths)

theorem follow_of_commutes {edit : Edit Cursor α}
    (commutes : ∀ cursor : Cursor, edit.apply cursor.lengthened =
      ((edit.apply cursor).1, (edit.apply cursor).2.lengthened)) : Follow edit edit := by
  refine .both fun left right same value final done => ?_
  have lefts := commutes left
  rw [same, commutes right, done] at lefts
  obtain ⟨outcome, states⟩ := Prod.mk.inj lefts
  exact ⟨(edit.apply right).2, Prod.ext outcome rfl, states.symm⟩

theorem follow_moveTo (index : Nat) : Follow (moveTo index) (moveTo index) := by
  refine follow_of_commutes fun cursor => ?_
  have same : cursor.lengthened.body.length = cursor.body.length :=
    Body.length_lengthened cursor.body
  rw [apply_moveTo, apply_moveTo, same]
  split <;> rfl

theorem follow_trySeek {window : Window} (blind : window.Blind) (direction : Direction)
    (landing : Landing) :
    Follow (trySeek direction window landing) (trySeek direction window landing) := by
  refine follow_of_commutes fun cursor => ?_
  have length : cursor.lengthened.body.length = cursor.body.length :=
    Body.length_lengthened cursor.body
  have opens : window.opensAt cursor.lengthened.body = window.opensAt cursor.body :=
    blind.opensAt_lengthened cursor.body
  have same : cursor.lengthened.nearest? direction (window.opensAt cursor.body) =
      cursor.nearest? direction (window.opensAt cursor.body) := by
    cases direction <;> simp only [nearest?, length] <;> rfl
  rw [apply_trySeek, apply_trySeek, opens, same]
  cases cursor.nearest? direction (window.opensAt cursor.body) with
  | none => rfl
  | some start => cases landing <;> rfl

theorem follow_onBody {edit : Edit Body α}
    (commutes : ∀ body : Body, edit.apply body.lengthened =
      ((edit.apply body).1, (edit.apply body).2.lengthened)) :
    Follow (onBody edit) (onBody edit) := by
  refine follow_of_commutes fun cursor => ?_
  have same : edit.apply cursor.lengthened.body = _ := commutes cursor.body
  rw [apply_onBody, apply_onBody, same]
  rfl

theorem follow_newLabel : Follow newLabel newLabel :=
  follow_onBody fun _ => rfl

theorem follow_placeLabel (label : LabelId) (index : Nat) :
    Follow (onBody (Body.placeLabel label index)) (onBody (Body.placeLabel label index)) :=
  follow_onBody fun body => Body.apply_placeLabel_lengthened body label index

theorem follow_placeLabelHere (label : LabelId) :
    Follow (placeLabelHere label) (placeLabelHere label) := by
  refine .get_bind fun left right same => ?_
  rw [same.index]
  exact follow_placeLabel label right.index

theorem lengthened_bodyInserting (cursor : Cursor) (instr : Instr) :
    (cursor.bodyInserting instr).lengthened = cursor.lengthened.bodyInserting instr.widened := by
  obtain ⟨body, method, index, behind⟩ := cursor
  have inserted := Body.lengthened_inserted body index instr
  cases behind with
  | false => exact inserted
  | true =>
    simp only [bodyInserting, lengthened, Body.idAt?_lengthened]
    cases body.idAt? index with
    | none => exact inserted
    | some displaced =>
      exact congrArg (fun body : Body => body.labelsMoved displaced _) inserted

theorem follow_emit {opcode other : Opcode} (same : opcode.lengthened = other.lengthened)
    (operand : Operand) : Follow (emit opcode operand) (emit other operand) := by
  refine .both fun left right alike id final done => ?_
  rw [apply_emit] at done ⊢
  cases made : Instr.of opcode operand with
  | error error =>
    rw [made] at done
    cases done
  | ok instr =>
    obtain ⟨twin, again, widths⟩ := Instr.exists_of_lengthened same made
    rw [made] at done
    rw [again]
    dsimp only at done ⊢
    rw [apply_insertBefore] at done
    rw [apply_insertBefore, ← alike.length, ← alike.index]
    split at done
    · cases done
    · next inside =>
      rw [if_neg inside]
      obtain ⟨⟨⟩, rfl⟩ := Prod.mk.inj done
      have issued : left.body.nextId = right.body.nextId :=
        congrArg (fun body => body.nextId) alike.body
      have bodies := lengthened_bodyInserting left instr
      rw [← widths, alike, ← lengthened_bodyInserting] at bodies
      refine ⟨_, Prod.ext (congrArg (fun id => Except.ok (InstrId.mk id)) issued.symm) rfl, ?_⟩
      exact alike.onto bodies rfl

theorem follow_overwrite {opcode other : Opcode} (same : opcode.lengthened = other.lengthened)
    (operand : Operand) : Follow (overwrite opcode operand) (overwrite other operand) := by
  refine .both fun left right alike id final done => ?_
  rw [apply_overwrite] at done ⊢
  cases made : Instr.of opcode operand with
  | error error =>
    rw [made] at done
    cases done
  | ok instr =>
    obtain ⟨twin, again, widths⟩ := Instr.exists_of_lengthened same made
    rw [made] at done
    rw [again]
    dsimp only at done ⊢
    rw [← alike.length, ← alike.index]
    split at done
    · cases done
    · next inside =>
      rw [if_neg inside]
      obtain ⟨⟨⟩, rfl⟩ := Prod.mk.inj done
      have bodies := Body.lengthened_overwritten left.body left.index instr
      rw [← widths, alike.body, ← Body.lengthened_overwritten] at bodies
      exact ⟨_, rfl, alike.onto bodies rfl⟩

/-- The erased instruction may be of another width, and must not be looked at. -/
theorem follow_erase_bind {next other : Edit Cursor α} (rest : Follow next other) :
    Follow (erase >>= fun _ => next) (erase >>= fun _ => other) := by
  have commutes (cursor : Cursor) : erase.apply cursor.lengthened =
      ((erase.apply cursor).1.map Instr.widened, (erase.apply cursor).2.lengthened) := by
    have same : (Body.eraseIdx cursor.lengthened.index false cursor.lengthened.method).apply
        cursor.lengthened.body = _ :=
      Body.apply_eraseIdx_lengthened cursor.body cursor.index false cursor.method
    rw [apply_erase, apply_erase, apply_onBody, apply_onBody, same]
    rfl
  refine .both fun left right alike value final done => ?_
  obtain ⟨instr, between, erased, went⟩ := Edit.bind_eq_ok.1 done
  have lefts := commutes left
  rw [alike, commutes right, erased] at lefts
  obtain ⟨outcome, states⟩ := Prod.mk.inj lefts
  rcases again : erase.apply right with ⟨error | twin, reached⟩
  · rw [again] at outcome
    cases outcome
  · rw [again] at states
    obtain ⟨_, follows, last, rfl, held⟩ :=
      rest between (some reached) ⟨reached, rfl, states.symm⟩ value final went
    cases follows with
    | succeeds ended => exact ⟨last, Edit.bind_eq_ok.2 ⟨twin, reached, again, ended⟩, held⟩

end Cursor
end Retrofit

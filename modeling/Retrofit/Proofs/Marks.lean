import Retrofit.Proofs.Body.Retention
import Retrofit.Proofs.Reachable

/-!
Marks as identities. A mark names a line, and whatever happens to the body in the meantime, going
back to it ends at this very line, unless the line was erased. `Cursor.Taken.stays` says so for all
histories of a body: edits of it, operations of cursors anywhere on it, and new regions and data.
-/

namespace Retrofit

namespace Body.Op

def Succeeds (op : Op) (body : Body) : Prop := (op.perform.apply body).1 = .ok ()

/-- The line that an operation is to erase. -/
def Dooms (id : InstrId) : Op → Body → Prop
  | .eraseIdx index _ _, body => body.idAt? index = some id
  | _, _ => False

/-- The line into which an operation is to put another instruction. -/
def Rewrites (id : InstrId) : Op → Body → Prop
  | .write index _, body => body.idAt? index = some id
  | _, _ => False

end Body.Op

namespace Cursor.Op

def Succeeds (op : Op) (cursor : Cursor) : Prop := (op.perform.apply cursor).1 = .ok ()

/-- The lines that an operation is to erase. -/
def Dooms (id : InstrId) : Op → Cursor → Prop
  | .erase, cursor | .eraseReanchored, cursor => cursor.body.idAt? cursor.index = some id
  | .eraseNext count, cursor =>
    ∃ offset < count, cursor.body.idAt? (cursor.index + offset) = some id
  | .onBody op, cursor => op.Dooms id cursor.body
  | _, _ => False

/-- The line into which an operation is to put another instruction. -/
def Rewrites (id : InstrId) : Op → Cursor → Prop
  | .overwrite _ _, cursor => cursor.body.idAt? cursor.index = some id
  | .onBody op, cursor => op.Rewrites id cursor.body
  | _, _ => False

end Cursor.Op

namespace Body

/-- One step in the life of a body: an operation on it, an operation of a cursor anywhere on it, or
new regions and plain data. -/
inductive Revision where
  | edit (op : Op)
  | atCursor (method : String) (index : Nat) (behindLabels : Bool) (op : Cursor.Op)
  | dress (regions : List Region) (maxStack : UInt16) (initLocals : Bool) (locals : List String)

namespace Revision

def after : Revision → Body → Body
  | .edit op, body => op.after body
  | .atCursor method index behindLabels op, body =>
    (op.after { body, method, index, behindLabels }).body
  | .dress regions maxStack initLocals locals, body =>
    { body with regions, maxStack, initLocals, locals }

/-- A revision erases a line. -/
def Erases (id : InstrId) : Revision → Body → Prop
  | .edit op, body => op.Succeeds body ∧ op.Dooms id body
  | .atCursor method index behindLabels op, body =>
    op.Succeeds { body, method, index, behindLabels } ∧
      op.Dooms id { body, method, index, behindLabels }
  | .dress .., _ => False

/-- A revision puts another instruction into a line. -/
def Replaces (id : InstrId) : Revision → Body → Prop
  | .edit op, body => op.Succeeds body ∧ op.Rewrites id body
  | .atCursor method index behindLabels op, body =>
    op.Succeeds { body, method, index, behindLabels } ∧
      op.Rewrites id { body, method, index, behindLabels }
  | .dress .., _ => False

/-- A revision brings the short branch in a line into its long form. -/
def Widens (id : InstrId) (revision : Revision) (body : Body) : Prop :=
  ∃ instr, body.get? id = some instr ∧ instr.opcode.isShortJump = true ∧
    (revision.after body).get? id = some instr.widened

end Revision

/-- The body that a history leaves. -/
def revised (body : Body) (history : List Revision) : Body :=
  history.foldl (fun body revision => revision.after body) body

/-- Something happens to the body at some point of a history. -/
def Undergoes (event : Revision → Body → Prop) (body : Body) : List Revision → Prop
  | [] => False
  | revision :: rest => event revision body ∨ (revision.after body).Undergoes event rest

variable {body : Body} {id : InstrId} {index : Nat}

@[simp] theorem revised_nil (body : Body) : body.revised [] = body := rfl

@[simp] theorem revised_cons (body : Body) (revision : Revision) (history : List Revision) :
    body.revised (revision :: history) = (revision.after body).revised history := rfl

theorem revised_append (body : Body) (earlier later : List Revision) :
    body.revised (earlier ++ later) = (body.revised earlier).revised later :=
  List.foldl_append

theorem undergoes_append {event : Revision → Body → Prop} {earlier later : List Revision} :
    body.Undergoes event (earlier ++ later) ↔
      body.Undergoes event earlier ∨ (body.revised earlier).Undergoes event later := by
  induction earlier generalizing body with
  | nil => simp [Undergoes]
  | cons revision rest ih => simp only [List.cons_append, Undergoes, ih, revised_cons, or_assoc]

theorem retains_setPlace (live : id ∈ body.ids) (label : LabelId) (place : LabelPlace) :
    Retains id False body ((setPlace label place).apply body).2 := by
  rw [apply_setPlace]
  split <;> exact .of_get? live rfl

theorem retains_placeLabel (live : id ∈ body.ids) (label : LabelId) (index : Nat) :
    Retains id False body ((placeLabel label index).apply body).2 := by
  rw [apply_placeLabel]
  split
  · exact .refl live
  · exact retains_setPlace live label _

theorem retains_moveLabels (live : id ∈ body.ids) (source target : InstrId) :
    Retains id False body ((moveLabels source target).apply body).2 := by
  rw [apply_moveLabels]
  split <;> exact .of_get? live rfl

theorem retains_formBranches (formed : body.WellFormed) (live : id ∈ body.ids)
    (policy : BranchPolicy) (passes : Nat) :
    Retains id False body ((formBranches policy passes).apply body).2 := by
  have changed : Changes (fun _ => False) false body _ := changes_formBranches body policy passes
  refine changed.retains formed live ?_
  rw [(alike_formBranches body policy passes).ids]
  exact live

/-- What comes of a line: it goes if it is erased, and is retained otherwise. -/
structure Treats (id : InstrId) (erased written : Prop) (body after : Body) : Prop where
  lost : erased → id ∉ after.ids
  retained : ¬ erased → Retains id written body after

variable {after : Body} {erased written : Prop}

theorem Treats.live_iff (treated : Treats id erased written body after) :
    id ∈ after.ids ↔ ¬ erased :=
  ⟨fun live gone => treated.lost gone live, fun spared => (treated.retained spared).live⟩

theorem Retains.treats (retained : Retains id False body after) (spared : ¬ erased) :
    Treats id erased written body after :=
  ⟨fun gone => absurd gone spared, fun _ => retained.mono False.elim⟩

theorem treats_eraseIdx (formed : body.WellFormed) (live : id ∈ body.ids) (index : Nat)
    (moveBounds : Bool) (method : String) :
    Treats id
      (((eraseIdx index moveBounds method).apply body).1.map (fun _ => ()) = .ok () ∧
        body.idAt? index = some id)
      written body ((eraseIdx index moveBounds method).apply body).2 := by
  rw [apply_eraseIdx]
  split
  · exact (Retains.refl live).treats (by rintro ⟨⟨⟩, _⟩)
  · next line found =>
    split
    · exact (Retains.refl live).treats (by rintro ⟨⟨⟩, _⟩)
    · have here := idAt?_of_line found
      refine ⟨fun gone left => ?_, fun stays => ?_⟩
      · exact ((formed.mem_ids_erased here id).1 left).1 (Option.some.inj (gone.2.symm.trans here))
      · have apart : id ≠ line.id := by
          rintro rfl
          exact stays ⟨rfl, here⟩
        exact .of_get? ((formed.mem_ids_erased here id).2 ⟨apart, live⟩) (get?_erased here apart)

/-- An operation loses exactly the line that it erases, and changes none but the one that it
writes. -/
theorem Op.treats (op : Op) (formed : body.WellFormed) (live : id ∈ body.ids) :
    Treats id (op.Succeeds body ∧ op.Dooms id body) (op.Succeeds body ∧ op.Rewrites id body)
      body (op.after body) := by
  cases op with
  | append instr =>
    exact (retains_inserted formed live instr (Nat.le_refl _)).treats And.right
  | insertIdx index instr =>
    refine Retains.treats ?_ And.right
    rw [after, perform, Edit.apply_discard, apply_insertIdx]
    split
    · exact .refl live
    · next inside => exact retains_inserted formed live instr (Nat.le_of_not_lt inside)
  | eraseIdx index moveBounds method =>
    rw [Succeeds, after, perform, Edit.apply_discard]
    exact treats_eraseIdx formed live index moveBounds method
  | write index instr =>
    have wrote (here : body.idAt? index = some id) :
        Succeeds (.write index instr) body ∧ Rewrites id (.write index instr) body := ⟨rfl, here⟩
    exact ⟨fun erased => erased.2.elim, fun _ => retains_changeAt live (fun _ => instr) wrote⟩
  | newLabel =>
    have kept : Retains id False body body.withLabel := .of_get? live rfl
    exact kept.treats And.right
  | attachLabel label id =>
    refine Retains.treats ?_ And.right
    rw [after, perform, apply_attachLabel]
    split
    · exact retains_setPlace live label _
    · exact .refl live
  | placeLabel label index => exact (retains_placeLabel live label index).treats And.right
  | moveLabels source target =>
    refine Retains.treats ?_ And.right
    rw [after, perform, Edit.apply_discard]
    exact retains_moveLabels live source target
  | widenAll => exact (retains_formBranches formed live .allLong 0).treats And.right
  | widenAsNeeded passes =>
    refine Retains.treats ?_ And.right
    rw [after, perform, Edit.apply_discard]
    exact retains_formBranches formed live .fitting passes
  | finish method policy passes =>
    refine Retains.treats ?_ And.right
    rw [after, perform, Edit.apply_discard, apply_finish]
    split
    · exact retains_formBranches formed live policy passes
    · exact .refl live

end Body

namespace Cursor

open Body

variable {cursor : Cursor} {id : InstrId}

theorem retains_insertBehind (formed : cursor.body.WellFormed) (live : id ∈ cursor.body.ids)
    (instr : Instr) : Retains id False cursor.body ((insertBehind instr).apply cursor).2.body := by
  rw [apply_insertBehind]
  split
  · exact .refl live
  · next inside =>
    have kept : Retains id False cursor.body (cursor.body.inserted cursor.index instr) :=
      retains_inserted formed live instr (Nat.le_of_not_lt inside)
    dsimp only
    unfold bodyInserting
    split
    · exact ⟨kept.live, kept.kept⟩
    · exact kept

theorem treats_eraseNext (formed : cursor.body.WellFormed) (live : id ∈ cursor.body.ids)
    (count : Nat) {written : Prop} :
    Treats id
      (Op.Succeeds (.eraseNext count) cursor ∧ Op.Dooms id (.eraseNext count) cursor)
      written cursor.body ((eraseNext count).apply cursor).2.body := by
  have changed : Changes (fun _ => False) false cursor.body _ :=
    changes_eraseNext cursor formed count
  rw [Op.Succeeds, Op.perform, Op.Dooms]
  rw [apply_eraseNext] at changed ⊢
  split at changed
  · next outside =>
    rw [if_pos outside]
    exact (Retains.refl live).treats (by rintro ⟨⟨⟩, _⟩)
  · next inside =>
    rw [if_neg inside]
    split
    · exact (Retains.refl live).treats (by rintro ⟨⟨⟩, _⟩)
    · next free =>
      rw [free] at changed
      have within := Nat.le_of_not_lt inside
      refine ⟨fun gone left => ((formed.mem_ids_erasedRange within).1 left).2 gone.2, fun stays => ?_⟩
      have left := (formed.mem_ids_erasedRange within).2 ⟨live, fun doomed => stays ⟨rfl, doomed⟩⟩
      exact (changed.retains formed live left).mono False.elim

theorem Op.treats (op : Op) (formed : cursor.body.WellFormed) (live : id ∈ cursor.body.ids) :
    Treats id (op.Succeeds cursor ∧ op.Dooms id cursor) (op.Succeeds cursor ∧ op.Rewrites id cursor)
      cursor.body (op.after cursor).body := by
  cases op with
  | moveTo index =>
    rw [after, perform, body_moveTo]
    exact (Retains.refl live).treats And.right
  | returnTo mark =>
    rw [after, perform, body_returnTo]
    exact (Retains.refl live).treats And.right
  | moveToLabel label =>
    rw [after, perform, body_moveToLabel]
    exact (Retains.refl live).treats And.right
  | seek direction window landing =>
    rw [after, perform, body_seek]
    exact (Retains.refl live).treats And.right
  | trySeek direction window landing =>
    rw [after, perform, Edit.apply_discard, body_trySeek]
    exact (Retains.refl live).treats And.right
  | goBehindLabels => exact (Retains.refl live).treats And.right
  | goBeforeLabels => exact (Retains.refl live).treats And.right
  | newLabel =>
    have kept : Retains id False cursor.body cursor.body.withLabel := .of_get? live rfl
    exact kept.treats And.right
  | placeLabelHere label =>
    refine Retains.treats ?_ And.right
    rw [after, perform, apply_placeLabelHere]
    exact retains_placeLabel live label cursor.index
  | newLabelHere =>
    have defined : Retains id False cursor.body cursor.body.withLabel := .of_get? live rfl
    have placed := defined.trans
      (retains_placeLabel defined.live ⟨cursor.body.labels.size⟩ cursor.index)
    rw [or_self] at placed
    refine Retains.treats ?_ And.right
    rw [after, perform, Edit.apply_discard, apply_newLabelHere]
    split <;> next reached =>
      rw [reached] at placed
      exact placed
  | moveLabels source target =>
    refine Retains.treats ?_ And.right
    rw [after, perform, Edit.apply_discard]
    exact retains_moveLabels live source target
  | insertBehind instr =>
    refine Retains.treats ?_ And.right
    rw [after, perform, Edit.apply_discard]
    exact retains_insertBehind formed live instr
  | insertBefore instr =>
    refine Retains.treats ?_ And.right
    rw [after, perform, Edit.apply_discard, body_insertBefore]
    exact retains_insertBehind formed live instr
  | emit opcode operand =>
    refine Retains.treats ?_ And.right
    rw [after, perform, Edit.apply_discard, apply_emit]
    split
    · rw [body_insertBefore]
      exact retains_insertBehind formed live _
    · exact .refl live
  | overwrite opcode operand =>
    refine ⟨fun erased => erased.2.elim, fun _ => ?_⟩
    rw [Succeeds, after, perform, apply_overwrite]
    split
    · next instr made =>
      split
      · exact .refl live
      · have kept : Retains id (cursor.body.idAt? cursor.index = some id) cursor.body
            (cursor.body.changeAt cursor.index fun _ => instr) := retains_changeAt live _ fun here => here
        exact kept.mono fun here => ⟨rfl, here⟩
    · exact .refl live
  | erase =>
    rw [Succeeds, after, perform, Edit.apply_discard, apply_erase]
    exact treats_eraseIdx formed live cursor.index false cursor.method
  | eraseNext count => exact treats_eraseNext formed live count
  | eraseReanchored =>
    rw [Succeeds, after, perform, Edit.apply_discard, apply_eraseReanchored]
    exact treats_eraseIdx formed live cursor.index true cursor.method
  | onBody op => exact op.treats formed live

end Cursor

namespace Body

variable {body : Body} {id : InstrId}

theorem Reachable.revised (reached : body.Reachable) (history : List Revision) :
    (body.revised history).Reachable := by
  induction history generalizing body with
  | nil => exact reached
  | cons revision rest ih =>
    cases revision with
    | edit op => exact ih (reached.edited op)
    | atCursor method index behindLabels op =>
      have placed : Cursor.body { body, method, index, behindLabels } |>.Reachable := reached
      exact ih (placed.atCursor op)
    | dress regions maxStack initLocals locals => exact ih (reached.dressed ..)

theorem Revision.treats (revision : Revision) (formed : body.WellFormed) (live : id ∈ body.ids) :
    Treats id (revision.Erases id body) (revision.Replaces id body) body (revision.after body) := by
  cases revision with
  | edit op => exact op.treats formed live
  | atCursor method index behindLabels op =>
    exact @Cursor.Op.treats { body, method, index, behindLabels } id op formed live
  | dress regions maxStack initLocals locals =>
    exact ⟨False.elim, fun _ => .of_get? live rfl⟩

theorem Revision.descends (revision : Revision) (formed : body.WellFormed) :
    body.Descends (revision.after body) := by
  cases revision with
  | edit op => exact (op.changes body).descends formed
  | atCursor method index behindLabels op =>
    exact (op.changes { body, method, index, behindLabels } formed).descends formed
  | dress regions maxStack initLocals locals =>
    exact ⟨Nat.le_refl _, fun _ _ missing => missing, fun _ _ _ _ _ _ => (before_of_ids rfl).symm⟩

theorem descends_revised (reached : body.Reachable) (history : List Revision) :
    body.Descends (body.revised history) := by
  induction history generalizing body with
  | nil => exact .refl body
  | cons revision rest ih =>
    have formed := reached.wellFormed
    exact (revision.descends formed).trans formed.issued (ih (reached.revised [revision]))

/-- A line goes exactly at a revision that erases it, and only revisions that write it give it
another instruction. -/
theorem treats_revised (reached : body.Reachable) (live : id ∈ body.ids)
    (history : List Revision) :
    Treats id (body.Undergoes (Revision.Erases id) history)
      (body.Undergoes (Revision.Replaces id) history) body (body.revised history) := by
  induction history generalizing body with
  | nil => exact (Retains.refl live).treats fun erased => erased
  | cons revision rest ih =>
    have formed := reached.wellFormed
    have first := revision.treats formed live
    have next := reached.revised [revision]
    constructor
    · intro erased
      by_cases there : id ∈ (revision.after body).ids
      · exact (ih next there).lost (erased.resolve_left (first.live_iff.1 there))
      · have known := Nat.lt_of_lt_of_le (formed.issued id live) (revision.descends formed).nextId_le
        exact (descends_revised next rest).gone id known there
    · intro spared
      obtain ⟨early, late⟩ := not_or.1 spared
      have retained := first.retained early
      exact retained.trans ((ih next retained.live).retained late)

theorem get?_revised (reached : body.Reachable) (live : id ∈ body.ids) {history : List Revision}
    (spared : ¬ body.Undergoes (Revision.Erases id) history)
    (unwritten : ¬ body.Undergoes (Revision.Replaces id) history)
    (unwidened : ¬ body.Undergoes (Revision.Widens id) history) {instr : Instr}
    (held : body.get? id = some instr) : (body.revised history).get? id = some instr := by
  induction history generalizing body with
  | nil => exact held
  | cons revision rest ih =>
    obtain ⟨spared, sparedLater⟩ := not_or.1 spared
    obtain ⟨unwritten, unwrittenLater⟩ := not_or.1 unwritten
    obtain ⟨unwidened, unwidenedLater⟩ := not_or.1 unwidened
    have retained := (revision.treats reached.wellFormed live).retained spared
    have same : (revision.after body).get? id = some instr := by
      rcases retained.kept unwritten instr held with same | long
      · exact same
      · cases short : instr.opcode.isShortJump with
        | true => exact absurd ⟨instr, held, short, long⟩ unwidened
        | false => rwa [Instr.widened_of_not_short short] at long
    exact ih (reached.revised [revision]) retained.live sparedLater unwrittenLater unwidenedLater same

end Body

namespace Cursor

open Body

/-- The marks that a cursor gives out: its own place, and those of a search. -/
inductive Taken (cursor : Cursor) : Mark → Prop where
  | here : Taken cursor cursor.mark
  | listed {mark : Mark} (direction : Direction) (window : Window)
      (listed : mark ∈ cursor.occurrences direction window) : Taken cursor mark
  | demanded {mark : Mark} {marks : List Mark} (direction : Direction) (window : Window)
      (found : ((demandOccurrences direction window).apply cursor).1 = .ok marks)
      (listed : mark ∈ marks) : Taken cursor mark

variable {start cursor : Cursor} {mark : Mark} {id : InstrId}

theorem ok_of_demandOccurrences {direction : Direction} {window : Window} {marks : List Mark}
    (found : ((demandOccurrences direction window).apply cursor).1 = .ok marks) :
    marks = cursor.occurrences direction window := by
  rw [demandOccurrences, Edit.apply_bind, Edit.apply_get] at found
  dsimp only at found
  split at found
  · cases found
  · next same => exact (Except.ok.inj found).symm

/-- A mark names a line that is there when it is taken. -/
theorem Taken.live (taken : cursor.Taken mark) (anchored : mark.line = some id) :
    id ∈ cursor.body.ids := by
  have named {direction : Direction} {window : Window}
      (listed : mark ∈ cursor.occurrences direction window) : id ∈ cursor.body.ids := by
    obtain ⟨index, _, rfl⟩ := List.mem_map.1 listed
    exact mem_ids_of_idAt? anchored
  cases taken with
  | here => exact mem_ids_of_idAt? anchored
  | listed _ _ listed => exact named listed
  | demanded _ _ found listed => exact named (ok_of_demandOccurrences found ▸ listed)

theorem returnTo_of_live (anchored : mark.line = some id) (live : id ∈ cursor.body.ids) :
    ∃ index, cursor.body.idAt? index = some id ∧
      (returnTo mark).apply cursor = (.ok (), cursor.placed index) := by
  obtain ⟨index, found⟩ := exists_indexOf? live
  refine ⟨index, idAt?_of_indexOf? found, ?_⟩
  rw [apply_returnTo, anchored]
  dsimp only
  rw [found]

theorem returnTo_of_gone (anchored : mark.line = some id) (gone : id ∉ cursor.body.ids) :
    (returnTo mark).apply cursor =
      (.error (.malformed (.markOnRemoved id cursor.method)), cursor) := by
  have missing : cursor.body.indexOf? id = none := by
    rw [← Option.not_isSome_iff_eq_none, indexOf?_isSome, contains_iff]
    exact gone
  rw [apply_returnTo, anchored]
  dsimp only
  rw [missing]

/-- Marks are identities. After any history of the body, going back to a mark succeeds exactly if
nothing in the history has erased its line. It then ends at this line, which holds the instruction
it held, unless that was replaced or widened. Once the line is erased, no later history brings it
back, since a line that appears has an identity that was not given out before. Lines in the body
before and after come in the same order. -/
theorem Taken.stays (reached : start.body.Reachable) (taken : start.Taken mark)
    (anchored : mark.line = some id) (history : List Revision) :
    (∀ cursor : Cursor, cursor.body = start.body.revised history →
      (((returnTo mark).apply cursor).1 = .ok () ↔
        ¬ start.body.Undergoes (Revision.Erases id) history) ∧
      (((returnTo mark).apply cursor).1 = .ok () →
        ∃ index instr, (returnTo mark).apply cursor = (.ok (), cursor.placed index) ∧
          cursor.body.idAt? index = some id ∧ start.body.get? id = some instr ∧
          (¬ start.body.Undergoes (Revision.Replaces id) history →
            cursor.body.instrAt? index = some instr ∨
              cursor.body.instrAt? index = some instr.widened) ∧
          (¬ start.body.Undergoes (Revision.Replaces id) history →
            ¬ start.body.Undergoes (Revision.Widens id) history →
              cursor.body.instrAt? index = some instr))) ∧
    (start.body.Undergoes (Revision.Erases id) history →
      ∀ (later : List Revision) (cursor : Cursor),
        cursor.body = start.body.revised (history ++ later) →
          (returnTo mark).apply cursor =
            (.error (.malformed (.markOnRemoved id cursor.method)), cursor)) ∧
    (∀ earlier later, history = earlier ++ later →
      ∀ other ∈ (start.body.revised history).ids, other ∉ (start.body.revised earlier).ids →
        (start.body.revised earlier).nextId ≤ other.index) ∧
    ∀ first second, first ∈ start.body.ids → second ∈ start.body.ids →
      first ∈ (start.body.revised history).ids → second ∈ (start.body.revised history).ids →
        (start.body.Before first second ↔ (start.body.revised history).Before first second) := by
  have was := taken.live anchored
  have treated := treats_revised reached was history
  refine ⟨fun cursor same => ?_, fun erased later cursor same => ?_, ?_, ?_⟩
  · by_cases erased : start.body.Undergoes (Revision.Erases id) history
    · have gone : id ∉ cursor.body.ids := same ▸ treated.lost erased
      rw [returnTo_of_gone anchored gone]
      exact ⟨iff_of_false nofun (not_not.2 erased), nofun⟩
    · have retained := treated.retained erased
      obtain ⟨index, here, went⟩ := returnTo_of_live anchored (same ▸ retained.live)
      obtain ⟨place, there⟩ := exists_indexOf? was
      obtain ⟨line, stood, rfl⟩ := Option.map_eq_some_iff.1 (idAt?_of_indexOf? there)
      have held : start.body.get? line.id = some line.instr := by
        rw [reached.wellFormed.get?_of_idAt? (idAt?_of_line stood), instrAt?, stood]
        rfl
      have holds : cursor.body.instrAt? index = (start.body.revised history).get? line.id := by
        rw [same, (reached.revised history).wellFormed.get?_of_idAt? (same ▸ here)]
      rw [went]
      refine ⟨iff_of_true rfl erased, fun _ => ⟨index, line.instr, rfl, here, held, ?_, ?_⟩⟩
      · rw [holds]
        exact fun unwritten => retained.kept unwritten line.instr held
      · rw [holds]
        exact fun unwritten unwidened => get?_revised reached was erased unwritten unwidened held
  · refine returnTo_of_gone anchored ?_
    rw [same]
    exact (treats_revised reached was _).lost (undergoes_append.2 (.inl erased))
  · rintro earlier later rfl other live missing
    rw [revised_append] at live
    by_contra known
    have steady := descends_revised (reached.revised earlier) later
    exact steady.gone other (Nat.lt_of_not_le known) missing live
  · exact (descends_revised reached history).ordered

/-- A cursor in front of the second of three lines. -/
def atSecond : Cursor where
  body := Body.after {} [.append ⟨.nop, .none⟩, .append ⟨.dup, .none⟩, .append ⟨.ret, .none⟩]
  method := "M"
  index := 1

/-- One line is put in in front of the second one, and the first is taken out. -/
def aroundSecond : List Revision :=
  [.edit (.insertIdx 1 ⟨.pop, .none⟩), .atCursor "M" 0 false .erase]

/-- The line is erased, and a like one put in its place. -/
def throughSecond : List Revision :=
  aroundSecond ++ [.edit (.eraseIdx 1 false "M")] ++ [.edit (.insertIdx 1 ⟨.dup, .none⟩)]

/-- The mark leads to its line while that is there, and to no other one afterwards. -/
theorem stays_at_second :
    ((returnTo atSecond.mark).apply ⟨atSecond.body.revised aroundSecond, "M", 0, false⟩).1 =
      .ok () ∧
    (returnTo atSecond.mark).apply ⟨atSecond.body.revised throughSecond, "M", 0, false⟩ =
      (.error (.malformed (.markOnRemoved ⟨1⟩ "M")),
        ⟨atSecond.body.revised throughSecond, "M", 0, false⟩) := by
  have reached : atSecond.body.Reachable := Body.Reachable.empty.after _
  have anchored : atSecond.mark.line = some ⟨1⟩ := by cbv
  have spared : ¬ atSecond.body.Undergoes (Revision.Erases ⟨1⟩) aroundSecond := by
    rintro (⟨_, doomed⟩ | ⟨_, doomed⟩ | never)
    · exact doomed
    · have front : ((Revision.edit (.insertIdx 1 ⟨.pop, .none⟩)).after atSecond.body).idAt? 0 =
          some ⟨0⟩ := by cbv
      cases front.symm.trans doomed
    · exact never
  have erased : atSecond.body.Undergoes (Revision.Erases ⟨1⟩)
      (aroundSecond ++ [.edit (.eraseIdx 1 false "M")]) :=
    .inr (.inr (.inl ⟨by cbv, by cbv⟩))
  have returns := (Taken.stays reached .here anchored aroundSecond).1
    ⟨atSecond.body.revised aroundSecond, "M", 0, false⟩ rfl
  exact ⟨returns.1.2 spared,
    (Taken.stays reached .here anchored _).2.1 erased [.edit (.insertIdx 1 ⟨.dup, .none⟩)] _ rfl⟩

end Cursor
end Retrofit

import Mathlib
import Retrofit.Proofs.Body.Blocks
import Retrofit.Proofs.Reachable

/-!
Labels under editing. A checked body stays fit to be encoded under all edits at a cursor that do not
move region boundaries, but for labels that are left behind the last line: the check then reports
the first of them that is jumped to (`check_after_edits`).
-/

namespace Retrofit

namespace Body

/-- Whether a label stands at a line or behind the last one. -/
def standing (body : Body) (label : LabelId) : Bool :=
  (body.placeOf? label).any fun place => place ≠ .unplaced

/-- The invariant of editing: every label that is jumped to stands somewhere, and every block of a
region holds a line. -/
structure Sound (body : Body) : Prop where
  formed : body.WellFormed
  standing : ∀ label ∈ body.jumps, body.standing label = true
  upright : body.Upright

variable {body after : Body} {writes : Instr → Prop} {moving : Bool} {label : LabelId}

theorem WellFormed.target_isNone (formed : body.WellFormed) (stands : body.standing label = true) :
    (body.targets.get? label).isNone = true ↔ body.placeOf? label = some .atEnd := by
  rw [get?_targets, lineOf?]
  cases place : body.placeOf? label with
  | none => simp [standing, place] at stands
  | some place' =>
    cases place' with
    | unplaced => simp [standing, place] at stands
    | atEnd => simp
    | line id =>
      obtain ⟨index, listed⟩ := exists_indexOf? (formed.held label id place)
      have live : body.contains id = true := contains_iff.2 (formed.held label id place)
      simp [live, listed]

/-- The check of a sound body finds nothing but jumps to labels behind the last line. -/
theorem Sound.check_eq (sound : body.Sound) (method : String) :
    body.check method =
      match body.jumps.find? fun label => body.placeOf? label = some .atEnd with
      | some label => .error (.danglingLabel method label)
      | none => .ok () := by
  have dangling : body.danglingLabel? =
      body.jumps.find? fun label => body.placeOf? label = some .atEnd := by
    rw [danglingLabel?_eq]
    refine List.find?_congr ?_
    intro label jumped
    have settled := sound.formed.target_isNone (sound.standing label jumped)
    exact Bool.eq_iff_iff.2 (settled.trans decide_eq_true_iff.symm)
  have faultless := (regionFaults_eq_none body method).2 sound.upright
  cases found : body.jumps.find? fun label => body.placeOf? label = some .atEnd with
  | none => rw [check, dangling, found, faultless]
  | some label => rw [check, dangling, found]

theorem WellFormed.sound (formed : body.WellFormed) {method : String}
    (valid : body.check method = .ok ()) : body.Sound := by
  obtain ⟨settled, upright⟩ := check_eq_ok.1 valid
  refine ⟨formed, ?_, upright⟩
  intro label jumped
  rw [danglingLabel?_eq, List.find?_eq_none] at settled
  have placed := settled label jumped
  rw [get?_targets, lineOf?] at placed
  unfold standing
  cases place : body.placeOf? label with
  | none => simp [place] at placed
  | some place' => cases place' <;> simp_all

theorem standing_iff :
    body.standing label = true ↔ ∃ place, body.placeOf? label = some place ∧ place ≠ .unplaced := by
  simp [standing, Option.any_eq_true]

/-- A change adds jumps only to labels of the instructions that it writes. -/
theorem Change.jumped (changed : Change writes moving body after) (jumped : label ∈ after.jumps) :
    label ∈ body.jumps ∨ ∃ instr, writes instr ∧ label ∈ instr.operand.labels := by
  obtain ⟨found, present, named⟩ := mem_jumps.1 jumped
  cases changed with
  | insert index instr inside written =>
    rw [length_eq_instrs] at inside
    rw [instrs_inserted, List.mem_insertIdx inside] at present
    rcases present with rfl | old
    · exact .inr ⟨found, written, named⟩
    · exact .inl (mem_jumps.2 ⟨found, old, named⟩)
  | write index instr written =>
    rw [instrs_changeAt] at present
    obtain ⟨place, here⟩ := List.mem_iff_getElem?.1 present
    rw [List.getElem?_modify] at here
    obtain ⟨old, was, becomes⟩ := Option.map_eq_some_iff.1 here
    split at becomes
    · subst becomes
      exact .inr ⟨instr, written, named⟩
    · subst becomes
      exact .inl (mem_jumps.2 ⟨old, List.mem_of_getElem? was, named⟩)
  | widen chosen =>
    have operand : found.operand ∈ body.instrs.map Instr.operand := by
      rw [← operands_widenedAt body chosen]
      exact List.mem_map_of_mem present
    obtain ⟨old, was, same⟩ := List.mem_map.1 operand
    exact .inl (mem_jumps.2 ⟨old, was, same ▸ named⟩)
  | erase index =>
    rw [instrs_erased] at present
    exact .inl (mem_jumps.2 ⟨found, List.mem_of_mem_eraseIdx present, named⟩)
  | _ => exact .inl jumped

/-- A label that stands somewhere never comes loose. -/
theorem Change.standing (changed : Change writes moving body after)
    (stands : body.standing label = true) : after.standing label = true := by
  obtain ⟨place, here, placed⟩ := standing_iff.1 stands
  cases changed with
  | insert index instr =>
    refine standing_iff.2 ⟨_, by rw [placeOf?_inserted, here]; rfl, ?_⟩
    split
    · cases place <;> simp_all [LabelPlace.settled]
    · exact placed
  | erase index line found =>
    refine standing_iff.2 ⟨_, by rw [placeOf?_erased (idAt?_of_line found), here]; rfl, ?_⟩
    exact mt LabelPlace.movedOff_eq_unplaced.1 placed
  | define =>
    have known : label.index < body.labels.size := (Array.getElem?_eq_some_iff.1 here).1
    refine standing_iff.2 ⟨place, ?_, placed⟩
    rw [placeOf?_withLabel, if_neg (Nat.ne_of_lt known), here]
  | place named anchor =>
    rw [standing_iff, placeOf?_placed, here]
    split
    · refine ⟨_, rfl, ?_⟩
      cases anchor <;> simp [LabelPlace.before]
    · exact ⟨place, rfl, placed⟩
  | move source target =>
    refine standing_iff.2 ⟨_, by rw [placeOf?_labelsMoved, here]; rfl, ?_⟩
    exact mt LabelPlace.movedOff_eq_unplaced.1 placed
  | _ => exact stands

theorem Changes.standing (changed : Changes writes moving body after)
    (stands : body.standing label = true) : after.standing label = true := by
  induction changed with
  | refl => exact stands
  | tail _ step ih => exact step.standing ih

/-- Where no region boundary is moved, no block becomes empty. -/
theorem Change.upright (changed : Change writes false body after) (sound : body.Sound) :
    after.Upright := by
  intro region present kind block found
  cases changed with
  | insert index instr inside =>
    obtain ⟨start, stop, spans, upright⟩ := sound.upright region present kind block found
    refine ⟨_, _, span?_inserted sound.formed instr inside spans, ?_⟩
    simp only [pushedDown]
    split <;> split <;> omega
  | erase index line here free =>
    have untied : body.tie? line.id = none := by simpa [obstacle?] using free
    have located := idAt?_of_line here
    have kept : (body.erased index).regions = body.regions := by
      rw [erased_eq located]
      exact regions_moved_of_tie? untied _
    rw [kept] at present
    obtain ⟨atStart, atStop⟩ :=
      Region.apart_of_boundsAt (tie?_eq_none.1 untied region present) found
    obtain ⟨start, stop, spans, upright⟩ := sound.upright region present kind block found
    have shifted := span?_erased sound.formed located (fun _ => atStart) spans
    have same : block.moved line.id (body.idAt? (index + 1)) = block := by
      simp [Block.moved, atStart, atStop]
    rw [same] at shifted
    refine ⟨_, _, shifted, ?_⟩
    have elsewhere : start ≠ index := by
      rintro rfl
      have listed := idAt?_of_indexOf? (span?_eq_some.1 spans).1
      exact atStart (Option.some.inj (listed.symm.trans located))
    simp only [pulledUp]
    split <;> split <;> omega
  | _ =>
    obtain ⟨start, stop, spans, upright⟩ := sound.upright region present kind block found
    refine ⟨start, stop, ?_, upright⟩
    rw [← spans]
    exact span?_of_ids (by simp) block

/-- A change that moves no region boundary and jumps only to labels that stand keeps a body sound. -/
theorem Sound.change (sound : body.Sound) (changed : Change writes false body after)
    (landing : ∀ instr, writes instr → ∀ label ∈ instr.operand.labels,
      body.standing label = true) : after.Sound where
  formed := sound.formed.change changed
  standing := by
    intro label jumped
    refine changed.standing ?_
    rcases changed.jumped jumped with old | ⟨instr, written, named⟩
    · exact sound.standing label old
    · exact landing instr written label named
  upright := changed.upright sound

theorem Sound.changes (sound : body.Sound) (changed : Changes writes false body after)
    (landing : ∀ instr, writes instr → ∀ label ∈ instr.operand.labels,
      body.standing label = true) : after.Sound := by
  induction changed with
  | refl => exact sound
  | tail earlier step ih =>
    exact ih.change step fun instr written label named =>
      Changes.standing earlier (landing instr written label named)

end Body

namespace Cursor

/-- Whether operations may be performed one after the other on a checked body: none moves region
boundaries, and each writes only jumps to labels that stand somewhere at that moment. -/
def Admits (cursor : Cursor) : List Op → Prop
  | [] => True
  | op :: rest =>
    op.movesBounds = false ∧
      (∀ instr, op.writes instr → ∀ label ∈ instr.operand.labels,
        cursor.body.standing label = true) ∧
      (op.after cursor).Admits rest

variable {cursor : Cursor} {ops : List Op}

theorem sound_after (sound : cursor.body.Sound) (admitted : cursor.Admits ops) :
    (cursor.after ops).body.Sound := by
  induction ops generalizing cursor with
  | nil => exact sound
  | cons op rest ih =>
    obtain ⟨fixed, landing, admittedRest⟩ := admitted
    have changed := op.changes cursor sound.formed
    rw [fixed] at changed
    exact ih (sound.changes changed landing) admittedRest

theorem standing_after (formed : cursor.body.WellFormed) {label : LabelId}
    (stands : cursor.body.standing label = true) :
    (cursor.after ops).body.standing label = true := by
  induction ops generalizing cursor with
  | nil => exact stands
  | cons op rest ih =>
    have changed := op.changes cursor formed
    exact ih (formed.changes changed) (changed.standing stands)

/-- Editing at a cursor keeps labels where they can be jumped to, but for the end of the body. No
label that stood at some moment comes loose, the check fails exactly for jumps to labels behind the
last line, and it names the first of these. -/
theorem check_after_edits {start : Cursor} (reachable : start.body.Reachable) {name : String}
    (valid : start.body.check name = .ok ()) (admitted : start.Admits ops) :
    (∀ done rest, ops = done ++ rest → ∀ label,
      (start.after done).body.standing label = true →
        (start.after ops).body.standing label = true) ∧
    (∀ method, (start.after ops).body.check method = .ok () ↔
      ∀ label ∈ (start.after ops).body.jumps,
        (start.after ops).body.placeOf? label ≠ some .atEnd) ∧
    ∀ method error, (start.after ops).body.check method = .error error →
      ∃ label, error = .danglingLabel method label ∧
        ((start.after ops).body.jumps.find? fun label =>
          (start.after ops).body.placeOf? label = some .atEnd) = some label := by
  have formed := reachable.wellFormed
  have sound := sound_after (formed.sound valid) admitted
  refine ⟨?_, ?_, ?_⟩
  · rintro done rest rfl label stands
    rw [after_append]
    exact standing_after (wellFormed_after start formed done) stands
  · intro method
    rw [sound.check_eq]
    split
    · next label found =>
      have jumped := List.mem_of_find?_eq_some found
      have behind : (start.after ops).body.placeOf? label = some .atEnd := by
        simpa using List.find?_some found
      exact iff_of_false nofun fun settled => settled label jumped behind
    · next settled => simpa using settled
  · intro method error failed
    rw [sound.check_eq] at failed
    split at failed
    · next label found =>
      cases failed
      exact ⟨label, rfl, found⟩
    · cases failed

/-- A cursor at the start of a body that jumps to its last line. -/
def atJumpToLast : Cursor where
  body := Body.after {} [.newLabel, .append ⟨.br, .label ⟨0⟩⟩, .append ⟨.ret, .none⟩,
    .placeLabel ⟨0⟩ 1]
  method := "M"

/-- Once the line behind it is erased, a jump in front of it is not fit to be encoded. -/
theorem check_after_erasing_target :
    atJumpToLast.body.check "M" = .ok () ∧
    (atJumpToLast.after [.emit .br (.label ⟨0⟩), .erase, .erase]).body.check "M" =
      .error (.danglingLabel "M" ⟨0⟩) ∧
    ∃ label, PatchError.danglingLabel "M" ⟨0⟩ = .danglingLabel "M" label ∧
      ((atJumpToLast.after [.emit .br (.label ⟨0⟩), .erase, .erase]).body.jumps.find? fun label =>
          (atJumpToLast.after [.emit .br (.label ⟨0⟩), .erase, .erase]).body.placeOf? label =
            some .atEnd) = some label := by
  have valid : atJumpToLast.body.check "M" = .ok () := by cbv
  have failed : (atJumpToLast.after [.emit .br (.label ⟨0⟩), .erase, .erase]).body.check "M" =
      .error (.danglingLabel "M" ⟨0⟩) := by cbv
  have admitted : atJumpToLast.Admits [.emit .br (.label ⟨0⟩), .erase, .erase] := by
    refine ⟨rfl, ?_, rfl, fun _ => False.elim, rfl, fun _ => False.elim, trivial⟩
    rintro instr rfl label jumped
    rw [List.mem_singleton.1 jumped]
    cbv
  exact ⟨valid, failed,
    (check_after_edits (Body.Reachable.empty.after _) valid admitted).2.2 _ _ failed⟩
end Cursor
end Retrofit

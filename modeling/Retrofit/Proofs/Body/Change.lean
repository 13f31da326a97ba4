import Mathlib.Data.List.Nodup
import Mathlib.Logic.Relation
import Retrofit.Proofs.Body.Views

/-!
Changes: the steps of which all editing of a body consists, each with the guard under which it is
made. What every change preserves holds of every edited body; first of all that lines keep
identities of their own and labels stand at lines that are there.
-/

namespace Retrofit.Body

/-- One change of a body. It writes only instructions that `writes` admits, and takes a line from
under a region boundary only if `moving` is true. -/
inductive Change (writes : Instr → Prop) (moving : Bool) (body : Body) : Body → Prop where
  | insert (index : Nat) (instr : Instr) (inside : index ≤ body.length) (written : writes instr) :
      Change writes moving body (body.inserted index instr)
  | write (index : Nat) (instr : Instr) (written : writes instr) :
      Change writes moving body (body.changeAt index fun _ => instr)
  | widen (chosen : Line × Nat → Bool) : Change writes moving body (body.widenedAt chosen)
  | erase (index : Nat) (line : Line) (found : body.lines[index]? = some line)
      (free : body.obstacle? index moving line.id = none) :
      Change writes moving body (body.erased index)
  | define : Change writes moving body body.withLabel
  | place (label : LabelId) (anchor : Option InstrId) (live : ∀ id ∈ anchor, id ∈ body.ids) :
      Change writes moving body (body.placed label (.before anchor))
  | move (source target : InstrId) (live : target ∈ body.ids) :
      Change writes moving body (body.labelsMoved source target)

/-- Any number of changes one after the other. -/
abbrev Changes (writes : Instr → Prop) (moving : Bool) : Body → Body → Prop :=
  Relation.ReflTransGen (Change writes moving)

/-- No identity occurs twice, all were given out before, and a label that stands at a line stands at
one that is there. -/
structure WellFormed (body : Body) : Prop where
  distinct : body.ids.Nodup
  issued : ∀ id ∈ body.ids, id.index < body.nextId
  held : ∀ label id, body.placeOf? label = some (.line id) → id ∈ body.ids

variable {body after : Body} {index : Nat} {id : InstrId} {writes : Instr → Prop} {moving : Bool}

theorem wellFormed_empty : WellFormed {} where
  distinct := List.nodup_nil
  issued := by simp [ids]
  held := by simp [placeOf?]

theorem WellFormed.fresh (formed : body.WellFormed) : (⟨body.nextId⟩ : InstrId) ∉ body.ids :=
  fun used => Nat.lt_irrefl _ (formed.issued _ used)

theorem WellFormed.lineOf?_eq_some (formed : body.WellFormed) {label : LabelId} :
    body.lineOf? label = some id ↔ body.placeOf? label = some (.line id) := by
  unfold lineOf?
  cases place : body.placeOf? label with
  | none => simp
  | some place' =>
    cases place' with
    | line held => simp [contains_iff.2 (formed.held label held place)]
    | atEnd => simp
    | unplaced => simp

theorem WellFormed.get?_of_idAt? (formed : body.WellFormed) (found : body.idAt? index = some id) :
    body.get? id = body.instrAt? index := by
  obtain ⟨line, here, rfl⟩ := Option.map_eq_some_iff.1 found
  have listed : line ∈ body.lines.toList := by
    rw [Array.mem_toList_iff]
    exact Array.mem_of_getElem? here
  have present : (body.lines.toList.find? fun other => other.id = line.id).isSome :=
    List.find?_isSome.2 ⟨line, listed, by simp⟩
  obtain ⟨other, first⟩ := Option.isSome_iff_exists.1 present
  have same : other = line :=
    List.inj_on_of_nodup_map formed.distinct (List.mem_of_find?_eq_some first) listed
      (by simpa using List.find?_some first)
  rw [get?, ← Array.find?_toList, first, same, instrAt?, here]

theorem WellFormed.inserted (formed : body.WellFormed) (index : Nat) (instr : Instr)
    (inside : index ≤ body.length) : (body.inserted index instr).WellFormed := by
  rw [length_eq] at inside
  have listed (id : InstrId) :
      id ∈ (body.inserted index instr).ids ↔ id = ⟨body.nextId⟩ ∨ id ∈ body.ids := by
    rw [ids_inserted, List.mem_insertIdx inside]
  refine ⟨?_, ?_, ?_⟩
  · rw [ids_inserted, (List.perm_insertIdx _ _ inside).nodup_iff, List.nodup_cons]
    exact ⟨formed.fresh, formed.distinct⟩
  · intro id present
    rw [nextId_inserted]
    rcases (listed id).1 present with rfl | old
    · exact Nat.lt_succ_self _
    · exact Nat.lt_succ_of_lt (formed.issued id old)
  · intro label id stands
    rw [placeOf?_inserted, Option.map_eq_some_iff] at stands
    obtain ⟨place, before, settled⟩ := stands
    rw [listed]
    split at settled
    · cases place with
      | line old => cases settled; exact .inr (formed.held label id before)
      | atEnd => cases settled; exact .inl rfl
      | unplaced => cases settled
    · subst settled
      exact .inr (formed.held label id before)

theorem WellFormed.changeAt (formed : body.WellFormed) (index : Nat) (change : Instr → Instr) :
    (body.changeAt index change).WellFormed where
  distinct := by simpa using formed.distinct
  issued := by simpa using formed.issued
  held := by simpa using formed.held

theorem WellFormed.widenedAt (formed : body.WellFormed) (chosen : Line × Nat → Bool) :
    (body.widenedAt chosen).WellFormed where
  distinct := by simpa using formed.distinct
  issued := by simpa using formed.issued
  held := by simpa using formed.held

theorem WellFormed.mem_ids_erased (formed : body.WellFormed) (found : body.idAt? index = some id)
    (other : InstrId) : other ∈ (body.erased index).ids ↔ other ≠ id ∧ other ∈ body.ids := by
  rw [idAt?_eq] at found
  obtain ⟨inside, same⟩ := List.getElem?_eq_some_iff.1 found
  rw [ids_erased, ← formed.distinct.erase_getElem index inside, same, formed.distinct.mem_erase_iff]

theorem WellFormed.erased (formed : body.WellFormed) (found : body.idAt? index = some id) :
    (body.erased index).WellFormed where
  distinct := by
    rw [ids_erased]
    exact formed.distinct.eraseIdx index
  issued := by
    intro other present
    rw [nextId_erased]
    exact formed.issued other ((formed.mem_ids_erased found other).1 present).2
  held := by
    intro label other stands
    rw [placeOf?_erased found, Option.map_eq_some_iff] at stands
    obtain ⟨place, before, moved⟩ := stands
    rw [formed.mem_ids_erased found]
    cases place with
    | line old =>
      rw [LabelPlace.moved_line] at moved
      split at moved
      · -- The label stood at the erased line, so it now stands at the next one.
        cases next : body.idAt? (index + 1) with
        | none => simp [next, LabelPlace.before] at moved
        | some successor =>
          have same : successor = other := by simpa [next, LabelPlace.before] using moved
          subst same
          refine ⟨?_, mem_ids_of_idAt? next⟩
          rintro rfl
          have repeated := (indexOf?_of_idAt? formed.distinct found).symm.trans
            (indexOf?_of_idAt? formed.distinct next)
          simp at repeated
      · next apart =>
        cases moved
        exact ⟨apart, formed.held label _ before⟩
    | atEnd => simp at moved
    | unplaced => simp at moved

theorem WellFormed.withLabel (formed : body.WellFormed) : body.withLabel.WellFormed where
  distinct := formed.distinct
  issued := formed.issued
  held := by
    intro label id stands
    rw [placeOf?_withLabel] at stands
    split at stands
    · cases stands
    · exact formed.held label id stands

theorem WellFormed.placed (formed : body.WellFormed) (named : LabelId) {anchor : Option InstrId}
    (live : ∀ id ∈ anchor, id ∈ body.ids) : (body.placed named (.before anchor)).WellFormed where
  distinct := formed.distinct
  issued := formed.issued
  held := by
    intro label id stands
    rw [placeOf?_placed] at stands
    split at stands
    · obtain ⟨_, _, put⟩ := Option.map_eq_some_iff.1 stands
      cases anchor with
      | none => cases put
      | some target => cases put; exact live id rfl
    · exact formed.held label id stands

theorem WellFormed.labelsMoved (formed : body.WellFormed) (source : InstrId) {target : InstrId}
    (live : target ∈ body.ids) : (body.labelsMoved source target).WellFormed where
  distinct := formed.distinct
  issued := formed.issued
  held := by
    intro label id stands
    rw [placeOf?_labelsMoved, Option.map_eq_some_iff] at stands
    obtain ⟨place, before, moved⟩ := stands
    cases place with
    | line old =>
      rw [LabelPlace.moved_line] at moved
      split at moved
      · cases moved; exact live
      · cases moved; exact formed.held label _ before
    | atEnd => simp at moved
    | unplaced => simp at moved

/-- Every change keeps a body well-formed. -/
theorem WellFormed.change (formed : body.WellFormed) (changed : Change writes moving body after) :
    after.WellFormed := by
  cases changed with
  | insert index instr inside => exact formed.inserted index instr inside
  | write index instr => exact formed.changeAt index _
  | widen chosen => exact formed.widenedAt chosen
  | erase index line found => exact formed.erased (idAt?_of_line found)
  | define => exact formed.withLabel
  | place label anchor live => exact formed.placed label live
  | move source target live => exact formed.labelsMoved source live

theorem WellFormed.changes (formed : body.WellFormed) (changed : Changes writes moving body after) :
    after.WellFormed := by
  induction changed with
  | refl => exact formed
  | tail _ step ih => exact ih.change step

theorem Change.nextId_le (changed : Change writes moving body after) :
    body.nextId ≤ after.nextId := by
  cases changed with
  | insert => exact Nat.le_succ _
  | _ => simp

theorem Changes.nextId_le (changed : Changes writes moving body after) :
    body.nextId ≤ after.nextId := by
  induction changed with
  | refl => exact Nat.le_refl _
  | tail _ step ih => exact Nat.le_trans ih step.nextId_le

/-- An identity that was given out and whose line is gone never comes back. -/
theorem Change.gone (changed : Change writes moving body after) (issued : id.index < body.nextId)
    (gone : id ∉ body.ids) : id ∉ after.ids := by
  cases changed with
  | insert index instr inside =>
    rw [length_eq] at inside
    rw [ids_inserted, List.mem_insertIdx inside]
    rintro (rfl | live)
    · exact Nat.lt_irrefl _ issued
    · exact gone live
  | erase index =>
    rw [ids_erased]
    exact fun live => gone (List.mem_of_mem_eraseIdx live)
  | _ => simpa using gone

theorem Changes.gone (changed : Changes writes moving body after) (issued : id.index < body.nextId)
    (gone : id ∉ body.ids) : id ∉ after.ids := by
  induction changed with
  | refl => exact gone
  | tail earlier step ih =>
    exact step.gone (Nat.lt_of_lt_of_le issued (Changes.nextId_le earlier)) ih

end Retrofit.Body

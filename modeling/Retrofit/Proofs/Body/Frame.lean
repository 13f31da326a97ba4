import Mathlib.Data.List.InsertIdx
import Retrofit.Proofs.Body.Change

/-!
Frames: what a body keeps of an earlier one when lines are put in here and there and a few are
rewritten. Every way in which a rule changes a body keeps its frame, under a condition of its own.
-/

namespace Retrofit.Body

/-- The body still holds an earlier one: its lines in their order, its labels and regions at the same
lines, and its instructions in all lines but those that may be rewritten. Labels defined since then
stand at earlier lines or at the end. A pending label is one of them that has no place yet. -/
structure Frame (rewritten : InstrId → Prop) (pending : Option LabelId) (start body : Body) :
    Prop where
  formed : body.WellFormed
  order : start.ids.Sublist body.ids
  bound : ∀ label id, start.placeOf? label = some (.line id) →
    body.placeOf? label = some (.line id)
  regions : body.regions = start.regions
  kept : ∀ id ∈ start.ids, ¬ rewritten id → body.get? id = start.get? id
  defined : start.labels.size ≤ body.labels.size
  waiting : ∀ label ∈ pending, start.labels.size ≤ label.index ∧
    body.placeOf? label = some .unplaced
  created : ∀ label place, start.labels.size ≤ label.index → pending ≠ some label →
    body.placeOf? label = some place → place = .atEnd ∨ ∃ id ∈ start.ids, place = .line id

/-- No label defined since then stands behind the last line, where a line put at the end would take
it. -/
def NoneBehind (start body : Body) : Prop :=
  ∀ label, start.labels.size ≤ label.index → body.placeOf? label ≠ some .atEnd

variable {rewritten : InstrId → Prop} {pending : Option LabelId} {start body : Body}
  {index : Nat} {label : LabelId}

theorem lt_of_placeOf? {place : LabelPlace} (found : body.placeOf? label = some place) :
    label.index < body.labels.size :=
  (Array.getElem?_eq_some_iff.1 found).1

theorem placeOf?_eq_none (beyond : body.labels.size ≤ label.index) :
    body.placeOf? label = none :=
  Array.getElem?_eq_none beyond

theorem NoneBehind.refl : body.NoneBehind body := by
  intro label beyond
  rw [placeOf?_eq_none beyond]
  nofun

theorem NoneBehind.withLabel (quiet : start.NoneBehind body) : start.NoneBehind body.withLabel := by
  intro label beyond
  rw [placeOf?_withLabel]
  split
  · nofun
  · exact quiet label beyond

theorem noneBehind_inserted (instr : Instr) (atEnd : index = body.length) :
    start.NoneBehind (body.inserted index instr) := by
  intro label _ stands
  rw [placeOf?_inserted, Option.map_eq_some_iff] at stands
  obtain ⟨place, _, settled⟩ := stands
  rw [if_pos atEnd] at settled
  cases place <;> cases settled

theorem Frame.refl (formed : body.WellFormed) : Frame rewritten none body body where
  formed := formed
  order := .refl _
  bound _ _ stands := stands
  regions := rfl
  kept _ _ _ := rfl
  defined := Nat.le_refl _
  waiting := nofun
  created label place beyond _ stands := by
    rw [placeOf?_eq_none beyond] at stands
    cases stands

theorem Frame.mono {more : InstrId → Prop} (frame : Frame rewritten pending start body)
    (included : ∀ id, rewritten id → more id) : Frame more pending start body :=
  { frame with kept := fun id live stays => frame.kept id live fun held => stays (included id held) }

/-- A line may be put in anywhere, but not under a new label behind the last line. -/
theorem Frame.inserted (frame : Frame rewritten pending start body) (instr : Instr)
    (inside : index ≤ body.length) (room : index = body.length → start.NoneBehind body) :
    Frame rewritten pending start (body.inserted index instr) where
  formed := frame.formed.inserted index instr inside
  order := by
    rw [ids_inserted]
    exact frame.order.trans (List.sublist_insertIdx _ _ _)
  bound label id stands := by
    rw [placeOf?_inserted, frame.bound label id stands]
    split <;> rfl
  regions := frame.regions
  kept id live stays := by
    have apart : id ≠ ⟨body.nextId⟩ := by
      rintro rfl
      exact frame.formed.fresh (frame.order.subset live)
    rw [get?_inserted body index instr apart, frame.kept id live stays]
  defined := by
    have same : (body.inserted index instr).labels.size = body.labels.size := by
      unfold Body.inserted
      dsimp only
      split <;> simp
    rw [same]
    exact frame.defined
  waiting label held := by
    obtain ⟨beyond, unplaced⟩ := frame.waiting label held
    rw [placeOf?_inserted, unplaced]
    exact ⟨beyond, by split <;> rfl⟩
  created label place beyond settled stands := by
    rw [placeOf?_inserted, Option.map_eq_some_iff] at stands
    obtain ⟨old, stood, moves⟩ := stands
    split at moves
    · next atEnd =>
      rcases frame.created label old beyond settled stood with rfl | ⟨id, live, rfl⟩
      · exact absurd stood (room atEnd label beyond)
      · exact .inr ⟨id, live, moves.symm⟩
    · exact moves ▸ frame.created label old beyond settled stood

/-- The lines that may be rewritten may be. -/
theorem Frame.changeAt (frame : Frame rewritten pending start body) (change : Instr → Instr)
    (allowed : ∀ id, body.idAt? index = some id → rewritten id) :
    Frame rewritten pending start (body.changeAt index change) where
  formed := frame.formed.changeAt index change
  order := by simpa using frame.order
  bound := frame.bound
  regions := frame.regions
  kept id live stays := by
    rw [get?_changeAt change fun here => stays (allowed id here), frame.kept id live stays]
  defined := frame.defined
  waiting := frame.waiting
  created := frame.created

theorem Frame.withLabel (frame : Frame rewritten none start body) :
    Frame rewritten (some ⟨body.labels.size⟩) start body.withLabel where
  formed := frame.formed.withLabel
  order := frame.order
  bound label id stands := by
    have known := Nat.lt_of_lt_of_le (lt_of_placeOf? stands) frame.defined
    rw [placeOf?_withLabel, if_neg (Nat.ne_of_lt known), frame.bound label id stands]
  regions := frame.regions
  kept := frame.kept
  defined := by
    have grown : body.withLabel.labels.size = body.labels.size + 1 := Array.size_push _
    rw [grown]
    exact Nat.le_succ_of_le frame.defined
  waiting label held := by
    cases held
    exact ⟨frame.defined, by rw [placeOf?_withLabel, if_pos rfl]⟩
  created label place beyond settled stands := by
    have apart : label.index ≠ body.labels.size := by
      intro same
      exact settled (congrArg (fun index => some (LabelId.mk index)) same.symm)
    rw [placeOf?_withLabel, if_neg apart] at stands
    exact frame.created label place beyond nofun stands

theorem Frame.placed (frame : Frame rewritten (some label) start body) {anchor : Option InstrId}
    (live : ∀ id ∈ anchor, id ∈ start.ids) :
    Frame rewritten none start (body.placed label (.before anchor)) where
  formed := frame.formed.placed label fun id here => frame.order.subset (live id here)
  order := frame.order
  bound other id stands := by
    have apart : other ≠ label := by
      rintro rfl
      exact absurd (lt_of_placeOf? stands) (Nat.not_lt.2 (frame.waiting other rfl).1)
    rw [placeOf?_placed, if_neg apart, frame.bound other id stands]
  regions := frame.regions
  kept := frame.kept
  defined := by
    rw [Body.placed, Array.size_setIfInBounds]
    exact frame.defined
  waiting := nofun
  created other place beyond _ stands := by
    rw [placeOf?_placed] at stands
    split at stands
    · obtain ⟨_, _, rfl⟩ := Option.map_eq_some_iff.1 stands
      cases anchor with
      | none => exact .inl rfl
      | some id => exact .inr ⟨id, live id rfl, rfl⟩
    · next apart =>
      exact frame.created other place beyond (by simpa [eq_comm] using apart) stands

end Retrofit.Body

import Retrofit.Body.Basic

/-!
Positions: a table with the indices of all lines of a body, for when many lines have to be found.
The table finds a line exactly where the body does (`get?_positions`).
-/

namespace Retrofit

/-- A table of lines: the entry at a place is the index of the line whose identity the place is. -/
structure Positions where
  entries : Array (Option Nat)

namespace Positions

def get? (positions : Positions) (id : InstrId) : Option Nat :=
  (positions.entries[id.index]?).join

def enter (entry : Line × Nat) (positions : Positions) : Positions :=
  ⟨positions.entries.setIfInBounds entry.1.id.index (some entry.2)⟩

def room (lines : Array Line) : Nat :=
  lines.foldl (fun room line => max room (line.id.index + 1)) 0

def vacant (places : Nat) : Positions := ⟨Array.replicate places none⟩

/-- The table of the lines. The last line is entered first, so that the first of an identity counts.
-/
def ofLines (lines : Array Line) : Positions :=
  lines.zipIdx.foldr enter (vacant (room lines))

private theorem get?_vacant (places : Nat) (id : InstrId) : (vacant places).get? id = none := by
  simp only [get?, vacant, Array.getElem?_replicate]
  split <;> rfl

private theorem size_entered (entries : List (Line × Nat)) (positions : Positions) :
    (entries.foldr enter positions).entries.size = positions.entries.size := by
  induction entries with
  | nil => rfl
  | cons entry rest ih => simp [enter, ih]

private theorem get?_entered (lines : List Line) (start : Nat) (positions : Positions)
    (id : InstrId) (roomy : ∀ line ∈ lines, line.id.index < positions.entries.size) :
    ((lines.zipIdx start).foldr enter positions).get? id =
      ((lines.findIdx? fun line => line.id = id).map (start + ·)).or (positions.get? id) := by
  induction lines generalizing start with
  | nil => simp
  | cons line rest ih =>
    have later := ih (start + 1) fun line listed => roomy line (List.mem_cons_of_mem _ listed)
    have place := roomy line List.mem_cons_self
    rw [get?] at later
    rw [List.zipIdx_cons, List.foldr_cons, get?, enter, List.findIdx?_cons,
      Array.getElem?_setIfInBounds, size_entered]
    by_cases same : line.id = id
    · simp [← same, place]
    · have apart : line.id.index ≠ id.index := fun equal => same (congrArg InstrId.mk equal)
      simp only [apart, same, decide_false, if_false, later, Bool.false_eq_true]
      cases rest.findIdx? fun line => line.id = id with
      | none => rfl
      | some index => simp [Nat.add_comm index, Nat.add_assoc]

private theorem le_room (lines : List Line) (places : Nat) :
    places ≤ lines.foldl (fun room line => max room (line.id.index + 1)) places ∧
      ∀ line ∈ lines, line.id.index <
        lines.foldl (fun room line => max room (line.id.index + 1)) places := by
  induction lines generalizing places with
  | nil => simp
  | cons line rest ih =>
    obtain ⟨more, listed⟩ := ih (max places (line.id.index + 1))
    simp only [List.foldl_cons, List.mem_cons, forall_eq_or_imp]
    exact ⟨by omega, by omega, listed⟩

theorem get?_ofLines (lines : Array Line) (id : InstrId) :
    (ofLines lines).get? id = lines.findIdx? fun line => line.id = id := by
  obtain ⟨lines⟩ := lines
  have roomy := (le_room lines 0).2
  have found := get?_entered lines 0 (vacant (room ⟨lines⟩)) id (by simpa [vacant, room] using roomy)
  simpa [ofLines, get?_vacant] using found

end Positions

def Body.positions (body : Body) : Positions := .ofLines body.lines

@[simp] theorem Body.get?_positions (body : Body) (id : InstrId) :
    body.positions.get? id = body.indexOf? id :=
  Positions.get?_ofLines body.lines id

end Retrofit

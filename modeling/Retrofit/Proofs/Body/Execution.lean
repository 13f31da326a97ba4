import Mathlib.Data.List.TakeWhile
import Retrofit.Proofs.Body.Views

/-!
Running stretches of a body on an evaluation stack, whatever the instructions do there. Control comes
to a stretch from the line in front of it or by a jump to its first line, and leaves it for the place
of a label or for the next line behind it.
-/

namespace Retrofit

/-- What an instruction does to an evaluation stack: the label to which it jumps, if it does, and the
stack that it leaves. Where it fails there is no result. -/
abbrev Semantics (α : Type) := Instr → List α → Option (Option LabelId × List α)

/-- Runs instructions one after the other until one of them jumps. -/
def Semantics.run (semantics : Semantics α) :
    List Instr → List α → Option (Option LabelId × List α)
  | [], stack => some (none, stack)
  | instr :: rest, stack =>
    match semantics instr stack with
    | some (none, left) => semantics.run rest left
    | stopped => stopped

/-- How control comes to a line: from the line in front, or by a jump to the line. -/
inductive Entry where
  | falling | jumping

namespace Entry

/-- What control goes through of what has been added directly in front of the line. -/
def through (entry : Entry) (new : List α) : List α :=
  match entry with
  | .falling => new
  | .jumping => []

@[simp] theorem through_nil (entry : Entry) : entry.through ([] : List α) = [] := by
  cases entry <;> rfl

@[simp] theorem map_through (entry : Entry) (f : α → β) (new : List α) :
    (entry.through new).map f = entry.through (new.map f) := by
  cases entry <;> rfl

end Entry

namespace Body

/-- Where control enters on its way to the line with the index. If it comes from the line in front, it
gets to the lines that have been added between the two. -/
def entered (body : Body) (added : InstrId → Bool) (index : Nat) : Entry → Nat
  | .falling => index - ((body.ids.take index).reverse.takeWhile added).length
  | .jumping => index

/-- Where control goes when it has left a stretch of lines, and with which stack: to the place of the
label to which it jumped, or to the next line. -/
def leave? (body : Body) (next : Option InstrId) :
    Option LabelId × List α → Option (LabelPlace × List α)
  | (some label, stack) => (body.placeOf? label).map fun place => (place, stack)
  | (none, stack) => some (.before next, stack)

/-- Runs the lines from the first one given to the last one. Yields where control goes, where added
lines do not count, and with which stack. -/
def pass? (body : Body) (semantics : Semantics α) (added : InstrId → Bool) (entry : Entry)
    (first last : InstrId) (stack : List α) : Option (LabelPlace × List α) := do
  let start ← body.indexOf? first
  let stop ← body.indexOf? last
  let code := (body.instrs.take (stop + 1)).drop (body.entered added start entry)
  let next := (body.ids.drop (stop + 1)).find? fun id => !added id
  body.leave? next (← semantics.run code stack)

variable {body : Body} {added : InstrId → Bool} {front new back : List Line}

/-- Control that comes from the line in front enters at the first of the lines added behind it. -/
theorem entered_falling (lines : body.lines.toList = front ++ new ++ back)
    (old : ∀ line ∈ front.getLast?, added line.id = false)
    (fresh : ∀ line ∈ new, added line.id = true) :
    body.entered added (front ++ new).length .falling = front.length := by
  have ids : (body.ids.take (front ++ new).length).reverse =
      (new.map Line.id).reverse ++ (front.map Line.id).reverse := by
    rw [Body.ids, lines, ← List.map_take, List.take_left, List.map_append, List.reverse_append]
  have fresh_ids : ∀ id ∈ (new.map Line.id).reverse, added id = true := by
    simpa using fresh
  have stopped : (front.map Line.id).reverse.takeWhile added = [] := by
    rcases List.eq_nil_or_concat front with rfl | ⟨earlier, line, rfl⟩
    · rfl
    · simp [old line]
  rw [entered, ids, List.takeWhile_append_of_pos fresh_ids, stopped]
  simp

/-- What is run is the code itself, behind the lines that have been added directly in front of it if
control comes by them. -/
theorem pass?_eq (front new : List Line) (first : Line) (middle : List Line) (last : Line)
    (back : List Line) (distinct : body.ids.Nodup)
    (lines : body.lines.toList = front ++ new ++ (first :: middle ++ last :: back))
    (old : ∀ line ∈ front.getLast?, added line.id = false)
    (fresh : ∀ line ∈ new, added line.id = true) (semantics : Semantics α) (entry : Entry)
    (stack : List α) :
    body.pass? semantics added entry first.id last.id stack =
      (semantics.run ((entry.through new ++ first :: middle ++ [last]).map Line.instr) stack).bind
        (body.leave? ((back.map Line.id).find? fun id => !added id)) := by
  have first_index : body.indexOf? first.id = some (front ++ new).length :=
    indexOf?_of_idAt? distinct (by rw [idAt?_eq, ids, lines]; simp)
  have last_index : body.indexOf? last.id = some ((front ++ new).length + (middle.length + 1)) :=
    indexOf?_of_idAt? distinct (by
      rw [idAt?_eq, ids, lines, List.map_append, List.getElem?_append_right (by simp)]
      simp)
  have whole : body.lines.toList = front ++ (new ++ (first :: middle ++ [last])) ++ back := by
    simp [lines]
  have length : (front ++ new).length + (middle.length + 1) + 1 =
      (front ++ (new ++ (first :: middle ++ [last]))).length := by
    simp only [List.length_append, List.length_cons, List.length_nil]
    omega
  have behind : body.ids.drop ((front ++ new).length + (middle.length + 1) + 1) =
      back.map Line.id := by
    rw [length, ids, whole, ← List.map_drop, List.drop_left]
  have code : (body.instrs.take ((front ++ new).length + (middle.length + 1) + 1)).drop
      (body.entered added (front ++ new).length entry) =
        (entry.through new ++ first :: middle ++ [last]).map Line.instr := by
    rw [length, instrs, whole, ← List.map_take, List.take_left, ← List.map_drop]
    cases entry with
    | falling =>
      rw [entered_falling lines old fresh, List.drop_left]
      simp [Entry.through]
    | jumping =>
      rw [entered, ← List.append_assoc, List.drop_left]
      rfl
  simp only [pass?, first_index, last_index, behind, code, Option.bind_eq_bind, Option.bind_some]

theorem pass?_eq_of_nothing_added (front : List Line) (first : Line) (middle : List Line)
    (last : Line) (back : List Line) (distinct : body.ids.Nodup)
    (lines : body.lines.toList = front ++ (first :: middle ++ last :: back))
    (old : ∀ line ∈ front.getLast?, added line.id = false) (semantics : Semantics α)
    (entry : Entry) (stack : List α) :
    body.pass? semantics added entry first.id last.id stack =
      (semantics.run ((first :: middle ++ [last]).map Line.instr) stack).bind
        (body.leave? ((back.map Line.id).find? fun id => !added id)) := by
  have passes := pass?_eq front [] first middle last back distinct (by simpa using lines) old
    (by simp) semantics entry stack
  rwa [Entry.through_nil] at passes

end Body
end Retrofit

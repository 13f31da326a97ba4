import Retrofit.Proofs.Body.Width
import Retrofit.Proofs.Cursor.Operation
import Retrofit.Proofs.Modification

/-!
Changing lines in place: a loop goes to the next line of a kind, changes its instruction into one
that is not of the kind, and goes on from there. It comes to changing all lines of the kind at once,
and makes one step for each of them.
-/

namespace Retrofit

/-- The instruction changed, if it is of the kind. -/
def Instr.changedIf (kind : Matcher) (change : Instr → Instr) (instr : Instr) : Instr :=
  if kind instr then change instr else instr

namespace Body

variable {body : Body} {kind : Matcher}

/-- The body with each instruction changed; the lines keep their identities. -/
def mapInstrs (body : Body) (change : Instr → Instr) : Body :=
  { body with lines := body.lines.map fun line => { line with instr := change line.instr } }

theorem instrs_mapInstrs (body : Body) (change : Instr → Instr) :
    (body.mapInstrs change).instrs = body.instrs.map change := by
  simp [mapInstrs, instrs, Function.comp_def]

theorem mapInstrs_congr {change other : Instr → Instr}
    (same : ∀ instr ∈ body.instrs, change instr = other instr) :
    body.mapInstrs change = body.mapInstrs other := by
  refine eq_of_lines ?_ rfl
  rw [mapInstrs, Array.toList_map, mapInstrs, Array.toList_map]
  refine List.map_congr_left fun line listed => ?_
  exact congrArg (Line.mk line.id) (same _ (List.mem_map_of_mem listed))

theorem mapInstrs_of_same {change : Instr → Instr}
    (same : ∀ instr ∈ body.instrs, change instr = instr) : body.mapInstrs change = body := by
  refine (mapInstrs_congr same).trans (eq_of_lines ?_ rfl)
  rw [mapInstrs, Array.toList_map]
  exact List.map_id _

theorem mapInstrs_changeAt {index : Nat} {change other : Instr → Instr}
    (covered : ∀ instr, body.instrs[index]? = some instr → change (other instr) = change instr) :
    (body.changeAt index other).mapInstrs change = body.mapInstrs change := by
  refine eq_of_lines ?_ rfl
  rw [mapInstrs, Array.toList_map, changeAt, Array.toList_modify, mapInstrs, Array.toList_map]
  refine map_modify_of_same _ _ fun line found => ?_
  have present : body.instrs[index]? = some line.instr := by
    rw [instrs, List.getElem?_map, found]
    rfl
  exact congrArg (Line.mk line.id) (covered line.instr present)

theorem mapInstrs_changedIf_of_none (none : body.instrs.countP kind = 0) (change : Instr → Instr) :
    body.mapInstrs (.changedIf kind change) = body :=
  mapInstrs_of_same fun instr listed => if_neg (List.countP_eq_zero.1 none instr listed)

end Body

theorem Window.opensAt_singleton (kind : Matcher) (body : Body) (index : Nat) :
    opensAt body [kind] index = (body.instrs[index]?).any kind := by
  simp [opensAt, Body.instrAt?_eq]

namespace Cursor

variable {cursor : Cursor} {accepts : Nat → Bool} {index start : Nat}

theorem not_accepted_of_nearest? (found : cursor.nearest? .next accepts = some start)
    (behind : cursor.index ≤ index) (before : index < start) : accepts index = false := by
  rw [nearest?_eq, List.head?_filter, indices, List.find?_range'_eq_some] at found
  simpa using found.2.2 index behind before

theorem not_accepted_of_nearest?_none (absent : cursor.nearest? .next accepts = none)
    (behind : cursor.index ≤ index) (inside : index ≤ cursor.body.length) :
    accepts index = false := by
  rw [nearest?_eq, List.head?_filter, List.find?_eq_none] at absent
  simpa using absent index (List.mem_range'_1.2 ⟨behind, by omega⟩)

variable {kind : Matcher} {change : Instr → Instr}

/-- No line in front of the cursor is of the kind. -/
def Passed (kind : Matcher) (cursor : Cursor) : Prop :=
  ∀ index < cursor.index, Window.opensAt cursor.body [kind] index = false

/-- The cursor at the line with the index, whose instruction has been changed. -/
def changingAt (cursor : Cursor) (start : Nat) (change : Instr → Instr) : Cursor :=
  { cursor.placed start with body := cursor.body.changeAt start change }

/-- Where the search finds nothing, no line is of the kind. -/
theorem Passed.countP_eq_zero (passed : cursor.Passed kind)
    (absent : cursor.nearest? .next (Window.opensAt cursor.body [kind]) = none) :
    cursor.body.instrs.countP kind = 0 := by
  rw [List.countP_eq_zero]
  intro instr listed
  obtain ⟨index, here⟩ := List.mem_iff_getElem?.1 listed
  have inside := (List.getElem?_eq_some_iff.1 here).1
  rw [← Body.length_eq_instrs] at inside
  have closed : Window.opensAt cursor.body [kind] index = false := by
    by_cases before : index < cursor.index
    · exact passed index before
    · exact not_accepted_of_nearest?_none absent (Nat.le_of_not_lt before) inside.le
  simpa [Window.opensAt_singleton, here] using closed

theorem nearest?_of_countP_eq_zero (none : cursor.body.instrs.countP kind = 0) :
    cursor.nearest? .next (Window.opensAt cursor.body [kind]) = Option.none := by
  rw [nearest?_eq, List.head?_filter, List.find?_eq_none]
  intro index _ opens
  rw [Window.opensAt_singleton] at opens
  obtain ⟨instr, here, accepted⟩ := (Option.any_eq_true ..).mp opens
  exact List.countP_eq_zero.1 none instr (List.mem_of_getElem? here) accepted

/-- A step of the loop takes one line out of those of the kind. What all of them come to stays. -/
theorem Passed.changingAt (passed : cursor.Passed kind)
    (leaves : ∀ instr, kind instr = true → kind (change instr) = false)
    (found : cursor.nearest? .next (Window.opensAt cursor.body [kind]) = some start) :
    (cursor.changingAt start change).Passed kind ∧
      (cursor.changingAt start change).body.instrs.countP kind + 1 =
        cursor.body.instrs.countP kind ∧
      (cursor.changingAt start change).body.mapInstrs (.changedIf kind change) =
        cursor.body.mapInstrs (.changedIf kind change) := by
  have opens := opensAt_of_nearest? found
  rw [Window.opensAt_singleton] at opens
  obtain ⟨instr, here, accepted⟩ := (Option.any_eq_true ..).mp opens
  have instrs : (cursor.changingAt start change).body.instrs =
      cursor.body.instrs.modify start change := Body.instrs_changeAt ..
  refine ⟨fun index earlier => ?_, ?_, Body.mapInstrs_changeAt fun other present => ?_⟩
  · have same : (cursor.changingAt start change).body.instrs[index]? =
        cursor.body.instrs[index]? := by
      have apart : start ≠ index := Nat.ne_of_gt earlier
      simp only [instrs, List.getElem?_modify, apart, ↓reduceIte, id_map']
    rw [Window.opensAt_singleton, same, ← Window.opensAt_singleton]
    by_cases old : index < cursor.index
    · exact passed index old
    · exact not_accepted_of_nearest? found (Nat.le_of_not_lt old) earlier
  · rw [instrs]
    exact countP_modify here accepted (leaves instr accepted)
  · cases here.symm.trans present
    simp [Instr.changedIf, accepted, leaves instr accepted]

/-- A number of steps of the loop take away as many lines of the kind as there are to take, and lead
to a body that comes to the same. -/
structure Changing (kind : Matcher) (change : Instr → Instr) (steps : Nat) (cursor left : Cursor) :
    Prop where
  remaining : left.body.instrs.countP kind = cursor.body.instrs.countP kind - steps
  same : left.body.mapInstrs (.changedIf kind change) =
    cursor.body.mapInstrs (.changedIf kind change)

theorem Changing.refl (cursor : Cursor) : cursor.Changing kind change 0 cursor := ⟨rfl, rfl⟩

theorem Changing.of_none (none : cursor.body.instrs.countP kind = 0) (steps : Nat) :
    cursor.Changing kind change steps cursor :=
  ⟨by rw [none, Nat.zero_sub], rfl⟩

theorem Changing.step {steps : Nat} {left : Cursor} (passed : cursor.Passed kind)
    (leaves : ∀ instr, kind instr = true → kind (change instr) = false)
    (found : cursor.nearest? .next (Window.opensAt cursor.body [kind]) = some start)
    (later : (cursor.changingAt start change).Changing kind change steps left) :
    cursor.Changing kind change (steps + 1) left := by
  obtain ⟨_, fewer, same⟩ := passed.changingAt leaves found
  refine ⟨?_, later.same.trans same⟩
  rw [later.remaining, ← fewer, Nat.add_sub_add_right]

/-- With a step for each line of the kind, all of them have been changed, and the search finds no
more. -/
theorem Changing.whole {steps : Nat} {left : Cursor}
    (changing : cursor.Changing kind change steps left)
    (enough : cursor.body.instrs.countP kind ≤ steps) :
    left.body = cursor.body.mapInstrs (.changedIf kind change) ∧
      left.nearest? .next (Window.opensAt left.body [kind]) = none := by
  have none : left.body.instrs.countP kind = 0 := by
    rw [changing.remaining, Nat.sub_eq_zero_of_le enough]
  refine ⟨?_, nearest?_of_countP_eq_zero none⟩
  rw [← changing.same, Body.mapInstrs_changedIf_of_none none]

theorem Changing.exists_of_mem {steps : Nat} {left : Cursor} {instr : Instr}
    (changing : cursor.Changing kind change steps left) (listed : instr ∈ left.body.instrs)
    (other : kind instr = false) :
    ∃ old ∈ cursor.body.instrs, old.changedIf kind change = instr := by
  have same := congrArg Body.instrs changing.same
  rw [Body.instrs_mapInstrs, Body.instrs_mapInstrs] at same
  have unchanged : instr.changedIf kind change = instr := if_neg (by simp [other])
  have becomes : instr.changedIf kind change ∈ cursor.body.instrs.map (.changedIf kind change) :=
    same ▸ List.mem_map_of_mem listed
  rw [unchanged] at becomes
  exact List.mem_map.1 becomes

end Cursor
end Retrofit

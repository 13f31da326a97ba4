import Mathlib
import Retrofit.Proofs.Body.Blocks
import Retrofit.Proofs.Body.Reform

/-!
What a finished body is fit for: its check passes, and each short branch reaches its target or there
is none. Finishing a body brings this about, and what comes later cannot undo it.
-/

namespace Retrofit

namespace Body

/-- How many bytes come before the line with the index. -/
def offsetAt (body : Body) (index : Nat) : Nat := ((body.instrs.take index).map Instr.size).sum

/-- Every short branch to a label that stands at a line reaches it with a signed byte, counted from
the end of the branch. -/
def InReach (body : Body) : Prop :=
  ∀ index instr label id target, body.instrs[index]? = some instr →
    instr.opcode.isShortJump = true → instr.operand.label? = some label →
      body.lineOf? label = some id → body.indexOf? id = some target →
        -128 ≤ (body.offsetAt target : Int) - body.offsetAt (index + 1) ∧
          (body.offsetAt target : Int) - body.offsetAt (index + 1) ≤ 127

/-- No branch is short. -/
def AllLong (body : Body) : Prop := ∀ instr ∈ body.instrs, instr.opcode.isShortJump = false

/-- What the branches of a body look like under a policy. -/
def Formed (policy : BranchPolicy) (body : Body) : Prop :=
  match policy with
  | .allLong => body.AllLong
  | .fitting => body.InReach

/-- A body that can be encoded, whatever its method is called. -/
structure Encodable (policy : BranchPolicy) (body : Body) : Prop where
  valid : ∀ method, body.check method = .ok ()
  formed : body.Formed policy

variable {body after : Body} {policy : BranchPolicy} {passes index target : Nat} {line : Line}

theorem AllLong.inReach (long : body.AllLong) : body.InReach := by
  intro index instr label id target present short
  rw [long instr (List.mem_of_getElem? present)] at short
  cases short

theorem getElem?_layoutFrom (offset : Nat) (lines : List Line) (index : Nat) :
    (layoutFrom offset lines)[index]? = lines[index]?.map fun line =>
      (line, offset + ((lines.take index).map fun line => line.instr.size).sum) := by
  induction lines generalizing offset index with
  | nil => rfl
  | cons line rest ih =>
    cases index with
    | zero => simp [layoutFrom]
    | succ index => simp [layoutFrom, ih, Nat.add_assoc]

theorem getElem?_layout (body : Body) (index : Nat) :
    body.layout[index]? = body.lines[index]?.map fun line => (line, body.offsetAt index) := by
  rw [← Array.getElem?_toList, toList_layout, getElem?_layoutFrom]
  simp [offsetAt, instrs, List.map_take, Function.comp_def]

theorem offsetAt_succ {index : Nat} {instr : Instr} (present : body.instrs[index]? = some instr) :
    body.offsetAt (index + 1) = body.offsetAt index + instr.size := by
  simp [offsetAt, List.take_add_one, present]

/-- The index of the line to which an instruction branches, if its label stands at one. -/
def goal? (body : Body) (instr : Instr) : Option Nat :=
  (instr.operand.label?.bind body.lineOf?).bind body.indexOf?

/-- A signed byte, counted from the end of one line, reaches another. -/
def NearAt (body : Body) (index target : Nat) : Prop :=
  -128 ≤ (body.offsetAt target : Int) - body.offsetAt (index + 1) ∧
    (body.offsetAt target : Int) - body.offsetAt (index + 1) ≤ 127

theorem lt_of_goal? {instr : Instr} (leads : body.goal? instr = some target) :
    target < body.lines.size := by
  obtain ⟨id, _, listed⟩ := Option.bind_eq_some_iff.1 leads
  exact lt_of_idAt? (idAt?_of_indexOf? listed)

theorem inReach_iff : body.InReach ↔ ∀ index line target, body.lines[index]? = some line →
    line.instr.opcode.isShortJump = true → body.goal? line.instr = some target →
      body.NearAt index target := by
  constructor
  · intro reach index line target present short leads
    obtain ⟨id, stood, listed⟩ := Option.bind_eq_some_iff.1 leads
    obtain ⟨label, named, stands⟩ := Option.bind_eq_some_iff.1 stood
    exact reach index line.instr label id target (by simp [instrs, present]) short named stands listed
  · intro near index instr label id target present short named stands listed
    obtain ⟨line, here, rfl⟩ : ∃ line, body.lines[index]? = some line ∧ line.instr = instr := by
      simpa [instrs] using present
    refine near index line target here short ?_
    simp [goal?, named, stands, listed]

theorem distance?_layout (present : body.lines[index]? = some line) :
    distance? body.targets body.layout (line, body.offsetAt index) =
      (body.goal? line.instr).map fun target =>
        (body.offsetAt target : Int) - body.offsetAt (index + 1) := by
  have held : body.instrs[index]? = some line.instr := by simp [instrs, present]
  rw [distance?]
  cases leads : body.goal? line.instr with
  | none =>
    rw [goal?, Option.bind_assoc] at leads
    simp only [get?_targets, Option.bind_eq_bind, ← Option.bind_assoc]
    simp [Option.bind_assoc, leads]
  | some target =>
    have inside := lt_of_goal? leads
    obtain ⟨id, stood, listed⟩ := Option.bind_eq_some_iff.1 leads
    obtain ⟨label, named, stands⟩ := Option.bind_eq_some_iff.1 stood
    simp [named, stands, listed, getElem?_layout, inside, offsetAt_succ held]

/-- A line is overstretched exactly if it holds a short branch to a line that it does not reach. -/
theorem isOverstretched_iff (present : body.lines[index]? = some line) :
    isOverstretched body.targets body.layout (line, body.offsetAt index) = true ↔
      line.instr.opcode.isShortJump = true ∧
        ∃ target, body.goal? line.instr = some target ∧ ¬ body.NearAt index target := by
  rw [isOverstretched, holdsShortBranch, Bool.and_eq_true, distance?_layout present, Option.any_map]
  simp only [Option.any_eq_true, outOfReach, Bool.or_eq_true, decide_eq_true_eq, NearAt]
  refine and_congr_right fun _ => exists_congr fun target => and_congr_right fun _ => ?_
  omega

/-- No line is overstretched exactly where every short branch reaches its target. -/
theorem countP_isOverstretched_eq_zero :
    body.layout.countP (isOverstretched body.targets body.layout) = 0 ↔ body.InReach := by
  rw [Array.countP_eq_zero, inReach_iff]
  constructor
  · intro none index line target present short leads
    have entry : body.layout[index]? = some (line, body.offsetAt index) := by
      rw [getElem?_layout, present]
      rfl
    by_contra far
    exact none _ (Array.mem_of_getElem? entry)
      ((isOverstretched_iff present).2 ⟨short, target, leads, far⟩)
  · intro near entry listed far
    obtain ⟨index, here⟩ := Array.mem_iff_getElem?.1 listed
    rw [getElem?_layout] at here
    obtain ⟨line, present, rfl⟩ := Option.map_eq_some_iff.1 here
    obtain ⟨short, target, leads, beyond⟩ := (isOverstretched_iff present).1 far
    exact beyond (near index line target present short leads)

theorem getElem?_instrs_widenedAt (body : Body) (chosen : Line × Nat → Bool) (index : Nat) :
    (body.widenedAt chosen).instrs[index]? = body.lines[index]?.map fun line =>
      if chosen (line, body.offsetAt index) then line.instr.widened else line.instr := by
  simp only [instrs, widenedAt, List.getElem?_map, Array.getElem?_toList, Array.getElem?_map,
    getElem?_layout]
  cases body.lines[index]? with
  | none => rfl
  | some line => simp only [Option.map_some]; split <;> rfl

theorem AllLong.widenedAt (long : body.AllLong) (chosen : Line × Nat → Bool) :
    (body.widenedAt chosen).AllLong := by
  intro instr present
  obtain ⟨index, here⟩ := List.mem_iff_getElem?.1 present
  rw [getElem?_instrs_widenedAt] at here
  obtain ⟨line, was, rfl⟩ := Option.map_eq_some_iff.1 here
  split
  · exact Opcode.lengthened_not_short line.instr.opcode
  · refine long line.instr (List.mem_map_of_mem (Array.mem_toList_iff.2 ?_))
    exact Array.mem_of_getElem? was

theorem allLong_widenedAt (body : Body) : (body.widenedAt holdsShortBranch).AllLong := by
  intro instr present
  obtain ⟨index, here⟩ := List.mem_iff_getElem?.1 present
  rw [getElem?_instrs_widenedAt] at here
  obtain ⟨line, was, rfl⟩ := Option.map_eq_some_iff.1 here
  split
  · exact Opcode.lengthened_not_short line.instr.opcode
  · next short => simpa [holdsShortBranch] using short

/-- Fitting ends only where no branch is overstretched. The targets are computed once, since lines
stay where they are. -/
theorem inReach_widenFrom {targets : Targets} {limit count total : Nat}
    (same : targets = body.targets)
    (done : (widenFrom targets limit passes count).apply body = (.ok total, after)) :
    after.InReach := by
  induction passes generalizing body count with
  | zero => cases done
  | succ passes ih =>
    rw [widenFrom, Edit.apply_bind] at done
    simp only [Edit.apply_get] at done
    split at done
    · next settled =>
      cases done
      exact countP_isOverstretched_eq_zero.1 (same ▸ settled)
    · rw [Edit.apply_bind] at done
      exact ih (by rw [targets_widenedAt, same]) done

theorem allLong_widenFrom (long : body.AllLong) (targets : Targets) (limit passes count : Nat) :
    ((widenFrom targets limit passes count).apply body).2.AllLong := by
  induction passes generalizing body count with
  | zero => exact long
  | succ passes ih =>
    rw [widenFrom, Edit.apply_bind]
    simp only [Edit.apply_get]
    split
    · exact long
    · rw [Edit.apply_bind]
      exact ih (long.widenedAt _) _

theorem allLong_formBranches (long : body.AllLong) (policy : BranchPolicy) (passes : Nat) :
    ((formBranches policy passes).apply body).2.AllLong := by
  cases policy with
  | allLong => exact long.widenedAt _
  | fitting =>
    rw [formBranches, apply_widenAsNeeded]
    exact allLong_widenFrom long body.targets passes passes 0

/-- Choosing forms under a policy, where it ends, gives branches the form of that policy. -/
theorem formed_formBranches {count : Nat}
    (done : (formBranches policy passes).apply body = (.ok count, after)) : after.Formed policy := by
  cases policy with
  | allLong =>
    cases done
    exact allLong_widenedAt body
  | fitting =>
    rw [formBranches, apply_widenAsNeeded] at done
    exact inReach_widenFrom rfl done

theorem Alike.targets_eq (alike : body.Alike after) : after.targets = body.targets := by
  simp only [targets, get?_positions, indexOf?_eq, alike.ids, alike.labels]

theorem Alike.jumps_eq (alike : body.Alike after) : after.jumps = body.jumps := by
  have split (body : Body) : body.jumps = (body.instrs.map Instr.operand).flatMap Operand.labels := by
    rw [List.flatMap_map]
    rfl
  rw [split, split, alike.operands]

theorem Alike.check_eq_ok (alike : body.Alike after) {method other : String}
    (valid : body.check method = .ok ()) : after.check other = .ok () := by
  obtain ⟨settled, upright⟩ := Body.check_eq_ok.1 valid
  refine Body.check_eq_ok.2 ⟨?_, ?_⟩
  · rw [danglingLabel?_eq, alike.jumps_eq, alike.targets_eq, ← danglingLabel?_eq, settled]
  · intro region present kind block found
    rw [span?_of_ids alike.ids]
    exact upright region (alike.regions ▸ present) kind block found

/-- Choosing forms once more, under whatever policy, keeps a body encodable. -/
theorem Encodable.formBranches (fit : body.Encodable policy) {other : BranchPolicy} {count : Nat}
    (done : (Body.formBranches other passes).apply body = (.ok count, after)) :
    after.Encodable policy := by
  have alike := alike_formBranches body other passes
  have long := fun long : body.AllLong => allLong_formBranches long other passes
  rw [done] at alike long
  refine ⟨fun method => alike.check_eq_ok (fit.valid method), ?_⟩
  cases policy with
  | allLong => exact long fit.formed
  | fitting =>
    cases other with
    | allLong => exact (formed_formBranches done : after.AllLong).inReach
    | fitting => exact formed_formBranches done

/-- Finishing a body, where it succeeds, makes it encodable. -/
theorem encodable_finish {method : String} {count : Nat}
    (done : (finish method policy passes).apply body = (.ok count, after)) :
    after.Encodable policy := by
  have alike := alike_finish body method policy passes
  rw [done] at alike
  rw [apply_finish] at done
  split at done
  · next valid => exact ⟨fun _ => alike.check_eq_ok valid, formed_formBranches done⟩
  · cases done

/-- Two bodies whose lines are of the same size and are the same branches. -/
structure Twin (body after : Body) : Prop extends Alike body after where
  sizes : after.instrs.map Instr.size = body.instrs.map Instr.size
  shorts : after.instrs.map (·.opcode.isShortJump) = body.instrs.map (·.opcode.isShortJump)

theorem Twin.refl (body : Body) : body.Twin body where
  toAlike := .refl body
  sizes := rfl
  shorts := rfl

theorem Twin.trans {between : Body} (first : body.Twin between) (second : between.Twin after) :
    body.Twin after where
  toAlike := first.toAlike.trans second.toAlike
  sizes := second.sizes.trans first.sizes
  shorts := second.shorts.trans first.shorts

theorem Twin.offsetAt_eq (twin : body.Twin after) (index : Nat) :
    after.offsetAt index = body.offsetAt index := by
  rw [offsetAt, offsetAt, List.map_take, List.map_take, twin.sizes]

theorem Twin.exists_instr (twin : body.Twin after) {index : Nat} {instr : Instr}
    (present : after.instrs[index]? = some instr) :
    ∃ old, body.instrs[index]? = some old ∧ old.operand = instr.operand ∧
      old.opcode.isShortJump = instr.opcode.isShortJump := by
  have operands := congrArg (·[index]?) twin.operands
  have shorts := congrArg (·[index]?) twin.shorts
  simp only [List.getElem?_map, present, Option.map_some] at operands shorts
  obtain ⟨old, was, operand⟩ := Option.map_eq_some_iff.1 operands.symm
  rw [was] at shorts
  exact ⟨old, was, operand, (Option.some.inj shorts).symm⟩

theorem Twin.lineOf?_eq (twin : body.Twin after) (label : LabelId) :
    after.lineOf? label = body.lineOf? label := by
  have held (id : InstrId) : after.contains id = body.contains id := by
    rw [Bool.eq_iff_iff, contains_iff, contains_iff, twin.ids]
  simp only [lineOf?, placeOf?, twin.labels, held]

theorem AllLong.twin (long : body.AllLong) (twin : body.Twin after) : after.AllLong := by
  intro instr present
  obtain ⟨index, here⟩ := List.mem_iff_getElem?.1 present
  obtain ⟨old, was, _, short⟩ := twin.exists_instr here
  rw [← short]
  exact long old (List.mem_of_getElem? was)

theorem Formed.twin (formed : body.Formed policy) (twin : body.Twin after) :
    after.Formed policy := by
  cases policy with
  | allLong => exact AllLong.twin formed twin
  | fitting =>
    intro index instr label id target present short named stands listed
    obtain ⟨old, was, operand, same⟩ := twin.exists_instr present
    rw [twin.lineOf?_eq] at stands
    rw [indexOf?_eq, twin.ids, ← indexOf?_eq] at listed
    rw [twin.offsetAt_eq, twin.offsetAt_eq]
    exact formed index old label id target was (same.trans short) (operand ▸ named) stands listed

theorem Encodable.twin (fit : body.Encodable policy) (twin : body.Twin after) :
    after.Encodable policy :=
  ⟨fun method => twin.toAlike.check_eq_ok (fit.valid method), fit.formed.twin twin⟩

theorem twin_changeAt {index : Nat} {change : Instr → Instr}
    (same : ∀ old, body.instrs[index]? = some old →
      (change old).operand = old.operand ∧ (change old).size = old.size ∧
        (change old).opcode.isShortJump = old.opcode.isShortJump) :
    body.Twin (body.changeAt index change) where
  ids := ids_changeAt body index change
  operands := by
    rw [instrs_changeAt]
    exact map_modify_of_same _ _ fun old was => (same old was).1
  labels := rfl
  regions := rfl
  sizes := by
    rw [instrs_changeAt]
    exact map_modify_of_same _ _ fun old was => (same old was).2.1
  shorts := by
    rw [instrs_changeAt]
    exact map_modify_of_same _ _ fun old was => (same old was).2.2

end Body
end Retrofit

import Mathlib
import Retrofit.Proofs.Body.Reworking
import Retrofit.Proofs.Body.Settling
import Retrofit.Proofs.Reachable

/-!
Fitting the forms of branches makes no branch long without need. Code between a branch and its target
only grows when other branches become long, so a branch that does not reach its target never comes to
reach it again, and every choice of long branches under which all others reach their targets includes
those that fitting makes long (`widenAsNeeded_least`).
-/

namespace Retrofit

theorem Instr.size_le_widened (instr : Instr) : instr.size ≤ instr.widened.size := by
  cases short : instr.opcode.isShortJump with
  | false => rw [widened_of_not_short short]
  | true =>
    obtain ⟨opcode, operand⟩ := instr
    simp only [size, widened, Opcode.size_lengthened, Opcode.operandShape_lengthened short,
      Opcode.operandShape_of_short short, OperandShape.size]
    cases operand <;> simp

namespace Body

variable {body wider after : Body} {index target : Nat} {line : Line} {wide more : Finset InstrId}

/-- The body with the branches among some lines in their long form. -/
def widenedIn (body : Body) (wide : Finset InstrId) : Body :=
  { body with
    lines := body.lines.map fun line => if line.id ∈ wide then line.widened else line }

/-- The lines of a body that hold short branches. -/
def shortJumps (body : Body) : Finset InstrId :=
  ((body.lines.toList.filter fun line => line.instr.opcode.isShortJump).map Line.id).toFinset

/-- The lines of a body whose short branches do not reach their targets. -/
def overstretched (body : Body) : Finset InstrId :=
  ((body.layout.toList.filter (isOverstretched body.targets body.layout)).map (·.1.id)).toFinset

theorem mem_shortJumps {id : InstrId} :
    id ∈ body.shortJumps ↔
      ∃ line ∈ body.lines.toList, line.instr.opcode.isShortJump = true ∧ line.id = id := by
  simp [shortJumps, and_assoc]

theorem getElem?_lines_widenedIn (body : Body) (wide : Finset InstrId) (index : Nat) :
    (body.widenedIn wide).lines[index]? =
      body.lines[index]?.map fun line => if line.id ∈ wide then line.widened else line :=
  Array.getElem?_map

@[simp] theorem ids_widenedIn (body : Body) (wide : Finset InstrId) :
    (body.widenedIn wide).ids = body.ids := by
  rw [ids, widenedIn, Array.toList_map, List.map_map]
  refine List.map_congr_left fun line _ => ?_
  simp only [Function.comp_apply]
  split <;> rfl

theorem widenedIn_empty (body : Body) : body.widenedIn ∅ = body := by
  simp [widenedIn]

theorem widenedIn_widenedIn (body : Body) (wide more : Finset InstrId) :
    (body.widenedIn wide).widenedIn more = body.widenedIn (wide ∪ more) := by
  refine eq_of_lines (List.ext_getElem? fun index => ?_) rfl
  simp only [Array.getElem?_toList, getElem?_lines_widenedIn, Option.map_map]
  congr 1
  funext line
  have same : line.widened.id = line.id := rfl
  by_cases first : line.id ∈ wide <;> by_cases second : line.id ∈ more <;>
    simp [first, second, same]

theorem goal?_widenedIn (body : Body) (wide : Finset InstrId) (instr : Instr) :
    (body.widenedIn wide).goal? instr = body.goal? instr := by
  have places (label : LabelId) : (body.widenedIn wide).lineOf? label = body.lineOf? label := by
    have held (id : InstrId) : (body.widenedIn wide).contains id = body.contains id := by
      rw [Bool.eq_iff_iff, contains_iff, contains_iff, ids_widenedIn]
    simp only [lineOf?, placeOf?, held]
    rfl
  have indices (id : InstrId) : (body.widenedIn wide).indexOf? id = body.indexOf? id := by
    rw [indexOf?_eq, ids_widenedIn, indexOf?_eq]
  simp only [goal?, funext places, funext indices]

theorem offsetAt_mono (body : Body) : Monotone body.offsetAt := by
  intro start stop forward
  exact ((List.take_sublist_take_left forward).map Instr.size).sum_le_sum fun _ _ => Nat.zero_le _

/-- Code grows between two lines when more branches are long. -/
theorem gap_le_gap (body : Body) (included : wide ⊆ more) {start stop : Nat}
    (forward : start ≤ stop) :
    (body.widenedIn wide).offsetAt stop + (body.widenedIn more).offsetAt start ≤
      (body.widenedIn more).offsetAt stop + (body.widenedIn wide).offsetAt start := by
  induction stop, forward using Nat.le_induction with
  | base => omega
  | succ stop _ ih =>
    cases present : body.lines[stop]? with
    | none =>
      have still (set : Finset InstrId) :
          (body.widenedIn set).offsetAt (stop + 1) = (body.widenedIn set).offsetAt stop := by
        simp [offsetAt, List.take_add_one, instrs, getElem?_lines_widenedIn, present]
      rw [still, still]
      exact ih
    | some line =>
      have step (set : Finset InstrId) : (body.widenedIn set).offsetAt (stop + 1) =
          (body.widenedIn set).offsetAt stop +
            (if line.id ∈ set then line.widened else line).instr.size :=
        offsetAt_succ (by simp [instrs, getElem?_lines_widenedIn, present])
      have grows : (if line.id ∈ wide then line.widened else line).instr.size ≤
          (if line.id ∈ more then line.widened else line).instr.size := by
        by_cases chosen : line.id ∈ wide
        · simp [chosen, included chosen]
        · rw [if_neg chosen]
          split
          · exact line.instr.size_le_widened
          · exact Nat.le_refl _
      rw [step, step]
      omega

/-- What is near when more branches are long, forward or backward, is near when fewer are. -/
theorem NearAt.of_wider (near : (body.widenedIn more).NearAt index target)
    (included : wide ⊆ more) : (body.widenedIn wide).NearAt index target := by
  unfold NearAt at near ⊢
  rcases Nat.lt_or_ge index target with ahead | behind
  · have forward : index + 1 ≤ target := ahead
    have grown := gap_le_gap body included forward
    have ordered := (body.widenedIn wide).offsetAt_mono forward
    omega
  · have backward : target ≤ index + 1 := Nat.le_succ_of_le behind
    have grown := gap_le_gap body included backward
    have ordered := (body.widenedIn wide).offsetAt_mono backward
    omega

theorem mem_shortJumps_of_line (distinct : body.ids.Nodup) (present : body.lines[index]? = some line) :
    line.id ∈ body.shortJumps ↔ line.instr.opcode.isShortJump = true := by
  have listed : line ∈ body.lines.toList := Array.mem_toList_iff.2 (Array.mem_of_getElem? present)
  rw [mem_shortJumps]
  constructor
  · rintro ⟨other, also, short, same⟩
    exact List.inj_on_of_nodup_map distinct also listed same ▸ short
  · intro short
    exact ⟨line, listed, short, rfl⟩

/-- Where no identity occurs twice, it tells whether its line is overstretched. -/
theorem mem_overstretched_of_line (distinct : body.ids.Nodup)
    (present : body.lines[index]? = some line) :
    line.id ∈ body.overstretched ↔
      isOverstretched body.targets body.layout (line, body.offsetAt index) = true := by
  have entry : (line, body.offsetAt index) ∈ body.layout := by
    refine Array.mem_of_getElem? (i := index) ?_
    rw [getElem?_layout, present]
    rfl
  rw [overstretched, List.mem_toFinset, List.mem_map]
  constructor
  · rintro ⟨other, found, same⟩
    obtain ⟨listed, far⟩ := List.mem_filter.1 found
    obtain ⟨place, here⟩ := Array.mem_iff_getElem?.1 (Array.mem_toList_iff.1 listed)
    rw [getElem?_layout] at here
    obtain ⟨held, there, rfl⟩ := Option.map_eq_some_iff.1 here
    have one := indexOf?_of_idAt? distinct (idAt?_of_line there)
    have two := indexOf?_of_idAt? distinct (idAt?_of_line present)
    obtain rfl : place = index := Option.some.inj (one.symm.trans ((congrArg _ same).trans two))
    rwa [Option.some.inj (there.symm.trans present)] at far
  · intro far
    exact ⟨_, List.mem_filter.2 ⟨Array.mem_toList_iff.2 entry, far⟩, rfl⟩

/-- A pass makes the branches long that do not reach their targets. -/
theorem widenedAt_isOverstretched (distinct : body.ids.Nodup) :
    body.widenedAt (isOverstretched body.targets body.layout) =
      body.widenedIn body.overstretched := by
  refine eq_of_lines (List.ext_getElem? fun index => ?_) rfl
  rw [Array.getElem?_toList, Array.getElem?_toList, getElem?_lines_widenedIn, widenedAt,
    Array.getElem?_map, getElem?_layout, Option.map_map]
  cases present : body.lines[index]? with
  | none => rfl
  | some line =>
    simp only [Option.map_some, Function.comp_apply, mem_overstretched_of_line distinct present]

theorem card_overstretched (distinct : body.ids.Nodup) :
    body.overstretched.card = body.layout.countP (isOverstretched body.targets body.layout) := by
  have lines : body.layout.toList.map (·.1.id) = body.ids := by
    rw [toList_layout, ids, ← map_fst_layoutFrom 0 body.lines.toList, List.map_map,
      map_fst_layoutFrom]
    rfl
  have apart : ((body.layout.toList.filter (isOverstretched body.targets body.layout)).map
      (·.1.id)).Nodup :=
    (lines ▸ distinct : (body.layout.toList.map (·.1.id)).Nodup).sublist
      (List.filter_sublist.map _)
  rw [overstretched, List.toFinset_card_of_nodup apart, List.length_map,
    ← List.countP_eq_length_filter, Array.countP_toList]

theorem overstretched_subset_shortJumps (body : Body) : body.overstretched ⊆ body.shortJumps := by
  intro id far
  rw [overstretched, List.mem_toFinset, List.mem_map] at far
  obtain ⟨⟨line, offset⟩, found, rfl⟩ := far
  obtain ⟨listed, stretched⟩ := List.mem_filter.1 found
  have held : line ∈ body.lines.toList := by
    have first := List.mem_map_of_mem (f := Prod.fst) listed
    rwa [toList_layout, map_fst_layoutFrom] at first
  exact mem_shortJumps.2 ⟨line, held, (Bool.and_eq_true_iff.1 stretched).1, rfl⟩

/-- The branches that do not reach their targets are long wherever all others reach theirs. -/
theorem overstretched_subset (distinct : body.ids.Nodup) (reach : (body.widenedIn more).InReach) :
    body.overstretched ⊆ more := by
  intro id far
  obtain ⟨line, listed, _, rfl⟩ := mem_shortJumps.1 (body.overstretched_subset_shortJumps far)
  obtain ⟨index, present⟩ := Array.mem_iff_getElem?.1 (Array.mem_toList_iff.1 listed)
  obtain ⟨short, target, leads, notNear⟩ :=
    (isOverstretched_iff present).1 ((mem_overstretched_of_line distinct present).1 far)
  by_contra left
  refine notNear ?_
  have still : (body.widenedIn more).lines[index]? = some line := by
    rw [getElem?_lines_widenedIn, present, Option.map_some, if_neg left]
  have near := inReach_iff.1 reach index line target still short
    (by rw [goal?_widenedIn, leads])
  rw [← body.widenedIn_empty]
  exact near.of_wider (Finset.empty_subset more)

/-- A body comes of another by making the least number of branches long: short ones, which are in the
set, nothing else has changed, every branch that is left short reaches its target, and wherever that
is so the branches in the set are long. -/
structure FitsLeast (body after : Body) (wide : Finset InstrId) : Prop where
  short : wide ⊆ body.shortJumps
  eq : after = body.widenedIn wide
  reach : after.InReach
  least : ∀ other ⊆ body.shortJumps, (body.widenedIn other).InReach → wide ⊆ other

theorem mem_shortJumps_widenedIn {id : InstrId} :
    id ∈ (body.widenedIn wide).shortJumps ↔ id ∈ body.shortJumps ∧ id ∉ wide := by
  simp only [mem_shortJumps, widenedIn, Array.toList_map, List.mem_map]
  constructor
  · rintro ⟨_, ⟨line, listed, rfl⟩, short, rfl⟩
    split at short
    · exact absurd short (by simp [Line.widened, Instr.widened])
    · next left =>
      rw [if_neg left]
      exact ⟨⟨line, listed, short, rfl⟩, left⟩
  · rintro ⟨⟨line, listed, short, rfl⟩, left⟩
    exact ⟨line, ⟨line, listed, if_neg left⟩, short, rfl⟩

/-- A pass in front of a fitting that makes as few branches long as possible. -/
theorem FitsLeast.of_pass (distinct : body.ids.Nodup)
    (later : (body.widenedIn body.overstretched).FitsLeast after wide) :
    body.FitsLeast after (body.overstretched ∪ wide) where
  short := Finset.union_subset body.overstretched_subset_shortJumps fun _ chosen =>
    (mem_shortJumps_widenedIn.1 (later.short chosen)).1
  eq := later.eq.trans (widenedIn_widenedIn body _ _)
  reach := later.reach
  least other short reach := by
    have first : body.overstretched ⊆ other := overstretched_subset distinct reach
    refine Finset.union_subset first ?_
    have rest := later.least (other \ body.overstretched)
      (fun id chosen => mem_shortJumps_widenedIn.2
        ⟨short (Finset.mem_sdiff.1 chosen).1, (Finset.mem_sdiff.1 chosen).2⟩)
      (by rwa [widenedIn_widenedIn, Finset.union_sdiff_of_subset first])
    exact rest.trans Finset.sdiff_subset

/-- Fitting, where it ends, makes as few branches long as possible, and counts them. -/
theorem fitsLeast_widenFrom {targets : Targets} {limit passes count total : Nat}
    (distinct : body.ids.Nodup) (same : targets = body.targets)
    (done : (widenFrom targets limit passes count).apply body = (.ok total, after)) :
    ∃ wide, body.FitsLeast after wide ∧ total = count + wide.card := by
  induction passes generalizing body count with
  | zero => cases done
  | succ passes ih =>
    rw [widenFrom, Edit.apply_bind] at done
    simp only [Edit.apply_get] at done
    split at done
    · next settled =>
      cases done
      exact ⟨∅, ⟨Finset.empty_subset _, (widenedIn_empty _).symm,
        countP_isOverstretched_eq_zero.1 (same ▸ settled),
        fun other _ _ => Finset.empty_subset other⟩, rfl⟩
    · rw [Edit.apply_bind] at done
      obtain ⟨wide, least, counted⟩ :=
        ih (by rwa [ids_widenedAt]) (by rw [targets_widenedAt, same]) done
      subst same
      rw [widenedAt_isOverstretched distinct] at least
      refine ⟨body.overstretched ∪ wide, least.of_pass distinct, ?_⟩
      have apart : Disjoint body.overstretched wide := by
        rw [Finset.disjoint_right]
        exact fun id chosen => (mem_shortJumps_widenedIn.1 (least.short chosen)).2
      rw [Finset.card_union_of_disjoint apart, card_overstretched distinct, counted, Nat.add_assoc]

/-- The lines of a body that hold another operation afterwards. -/
def recoded (body after : Body) : Finset InstrId :=
  body.ids.toFinset.filter fun id =>
    (after.get? id).map Instr.opcode ≠ (body.get? id).map Instr.opcode

theorem WellFormed.widenedIn (formed : body.WellFormed) (wide : Finset InstrId) :
    (body.widenedIn wide).WellFormed where
  distinct := by
    rw [ids_widenedIn]
    exact formed.distinct
  issued := by
    rw [ids_widenedIn]
    exact formed.issued
  held label id stands := by
    rw [ids_widenedIn]
    exact formed.held label id stands

theorem recoded_widenedIn (formed : body.WellFormed) (short : wide ⊆ body.shortJumps) :
    body.recoded (body.widenedIn wide) = wide := by
  have differs {index : Nat} {line : Line} (present : body.lines[index]? = some line) :
      ((body.widenedIn wide).get? line.id).map Instr.opcode ≠
        (body.get? line.id).map Instr.opcode ↔ line.id ∈ wide := by
    have here := idAt?_of_line present
    have same : (body.widenedIn wide).idAt? index = some line.id := by
      rw [idAt?_eq, ids_widenedIn, ← idAt?_eq, here]
    rw [formed.get?_of_idAt? here, (formed.widenedIn wide).get?_of_idAt? same, instrAt?, instrAt?,
      getElem?_lines_widenedIn, present]
    by_cases chosen : line.id ∈ wide
    · have opcode := (mem_shortJumps_of_line formed.distinct present).1 (short chosen)
      refine iff_of_true (fun equal => ?_) chosen
      simp only [chosen, ↓reduceIte, Option.map_some, Option.some.injEq] at equal
      have long := line.instr.opcode.lengthened_not_short
      rw [← equal] at opcode
      exact absurd (long.symm.trans opcode) Bool.false_ne_true
    · simp [chosen]
  ext id
  rw [recoded, Finset.mem_filter, List.mem_toFinset]
  constructor
  · rintro ⟨live, changed⟩
    obtain ⟨index, found⟩ := List.mem_iff_getElem?.1 live
    rw [← idAt?_eq] at found
    obtain ⟨line, present, rfl⟩ := Option.map_eq_some_iff.1 found
    exact (differs present).1 changed
  · intro chosen
    obtain ⟨line, listed, _, rfl⟩ := mem_shortJumps.1 (short chosen)
    obtain ⟨index, present⟩ := Array.mem_iff_getElem?.1 (Array.mem_toList_iff.1 listed)
    exact ⟨List.mem_map_of_mem listed, (differs present).2 chosen⟩

/-- Steps in each of which any branches become long that do not reach their targets at that time. -/
abbrev WidensInBatches : Body → Body → Prop :=
  Relation.ReflTransGen fun body next => ∃ batch ⊆ body.overstretched, next = body.widenedIn batch

/-- Whatever the batches, branches that need not be long stay short, so all come to the same end. -/
theorem FitsLeast.eq_of_batches (least : body.FitsLeast after wide) (distinct : body.ids.Nodup)
    {other : Body} (steps : body.WidensInBatches other) (reach : other.InReach) : other = after := by
  have needed : ∃ part ⊆ wide, other = body.widenedIn part := by
    clear reach
    induction steps with
    | refl => exact ⟨∅, Finset.empty_subset wide, body.widenedIn_empty.symm⟩
    | @tail between next _ step ih =>
      obtain ⟨part, included, rfl⟩ := ih
      obtain ⟨batch, far, rfl⟩ := step
      have reaches : ((body.widenedIn part).widenedIn wide).InReach := by
        rw [widenedIn_widenedIn, Finset.union_eq_right.2 included, ← least.eq]
        exact least.reach
      have forced : batch ⊆ wide :=
        far.trans (overstretched_subset (by rwa [ids_widenedIn]) reaches)
      exact ⟨part ∪ batch, Finset.union_subset included forced, widenedIn_widenedIn body part batch⟩
  obtain ⟨part, included, rfl⟩ := needed
  have all : part = wide :=
    included.antisymm (least.least part (included.trans least.short) reach)
  rw [all, least.eq]

/-- Fitting the forms of branches, where it ends, changes the operations of exactly as many lines as
it says. These are short branches that are now long, and the least set of them under which all other
short branches reach their targets. Making branches long in other batches comes to the same body, and
fitting it once more, with any pass to do so, changes nothing. -/
theorem widenAsNeeded_least (reachable : body.Reachable) {passes count : Nat}
    (done : (widenAsNeeded passes).apply body = (.ok count, after)) :
    body.FitsLeast after (body.recoded after) ∧ (body.recoded after).card = count ∧
      (∀ other, body.WidensInBatches other → other.InReach → other = after) ∧
        ∀ more, (widenAsNeeded (more + 1)).apply after = (.ok 0, after) := by
  have formed := reachable.wellFormed
  have ran := done
  rw [apply_widenAsNeeded] at ran
  obtain ⟨wide, least, counted⟩ := fitsLeast_widenFrom formed.distinct rfl ran
  have changed : body.recoded after = wide := by
    rw [least.eq]
    exact recoded_widenedIn formed least.short
  rw [changed]
  refine ⟨least, by omega, fun other steps => least.eq_of_batches formed.distinct steps, ?_⟩
  intro more
  have settled : after.Settled .fitting (more + 1) := ⟨least.reach, fun _ => more.succ_pos⟩
  exact settled.apply_formBranches

/-- A body in which the second branch is one byte too far from its target, and the first one so close
to the limit that it is too far from its own target once the second is long. The last branch jumps to
itself. -/
def cascade : Body :=
  Body.after {} [.newLabel, .newLabel,
    .append ⟨.brS, .label ⟨0⟩⟩, .append ⟨.brtrueS, .label ⟨1⟩⟩,
    .append ⟨.switch, .switch (List.replicate 30 ⟨1⟩)⟩,
    .append ⟨.nop, .none⟩, .append ⟨.nop, .none⟩, .append ⟨.nop, .none⟩,
    .append ⟨.brS, .label ⟨1⟩⟩, .placeLabel ⟨0⟩ 3, .placeLabel ⟨1⟩ 6]

/-- Both far branches become long, one after the other, and the last one stays short. -/
theorem least_in_cascade :
    ∃ after, (widenAsNeeded 3).apply cascade = (.ok 2, after) ∧
      cascade.FitsLeast after {⟨0⟩, ⟨1⟩} ∧
        (∀ other, cascade.WidensInBatches other → other.InReach → other = after) ∧
          (widenAsNeeded 1).apply after = (.ok 0, after) := by
  have counted : ((widenAsNeeded 3).apply cascade).1 = .ok 2 := by cbv
  have done : (widenAsNeeded 3).apply cascade = (.ok 2, ((widenAsNeeded 3).apply cascade).2) := by
    rw [← counted]
  have changed : cascade.recoded ((widenAsNeeded 3).apply cascade).2 = {⟨0⟩, ⟨1⟩} := by
    decide +kernel
  obtain ⟨least, _, batches, again⟩ := widenAsNeeded_least (.after .empty _) done
  exact ⟨_, done, changed ▸ least, batches, again 0⟩

end Body
end Retrofit

import Retrofit.Proofs.Body.Fitting

/-!
How many passes the fitting of branches takes. Each pass but the last makes a branch long, so one pass
more than there are short branches is always enough. A staircase, in which each jump is pushed out of
reach by the one before it, takes all of them (`widenAsNeeded_bound`).
-/

namespace Retrofit.Body

variable {body : Body} {targets : Targets} {limit passes count jumps long index : Nat}

theorem card_shortJumps (distinct : body.ids.Nodup) :
    body.shortJumps.card = body.instrs.countP fun instr => instr.opcode.isShortJump := by
  have apart : ((body.lines.toList.filter fun line => line.instr.opcode.isShortJump).map
      Line.id).Nodup := distinct.sublist (List.filter_sublist.map _)
  rw [shortJumps, List.toFinset_card_of_nodup apart, List.length_map,
    ← List.countP_eq_length_filter, instrs, List.countP_map]
  rfl

/-- A pass that finds something leaves fewer short branches. -/
theorem card_shortJumps_lt (some : body.overstretched.Nonempty) :
    (body.widenedIn body.overstretched).shortJumps.card < body.shortJumps.card := by
  refine Finset.card_lt_card (Finset.ssubset_iff_subset_ne.2 ⟨fun id left => ?_, fun same => ?_⟩)
  · exact (mem_shortJumps_widenedIn.1 left).1
  · obtain ⟨id, far⟩ := some
    have left := body.overstretched_subset_shortJumps far
    rw [← same] at left
    exact (mem_shortJumps_widenedIn.1 left).2 far

/-- With more passes than short branches, fitting comes to an end. -/
theorem exists_widenFrom (distinct : body.ids.Nodup) (same : targets = body.targets)
    (enough : body.shortJumps.card < passes) :
    ∃ total after, (widenFrom targets limit passes count).apply body = (.ok total, after) := by
  induction passes generalizing body count with
  | zero => exact absurd enough (Nat.not_lt_zero _)
  | succ passes ih =>
    rw [widenFrom, Edit.apply_bind]
    simp only [Edit.apply_get]
    split
    · exact ⟨count, body, rfl⟩
    · next some =>
      rw [Edit.apply_bind]
      refine ih (by rwa [ids_widenedAt]) (by rw [targets_widenedAt, same]) ?_
      subst same
      have found : body.overstretched.Nonempty := by
        rw [← Finset.card_pos, card_overstretched distinct]
        exact Nat.pos_of_ne_zero some
      rw [widenedAt_isOverstretched distinct]
      exact Nat.lt_of_lt_of_le (card_shortJumps_lt found) (Nat.le_of_lt_succ enough)

/-- The instruction at an index of a staircase. Every 125th one jumps to the one before it, and those
between do nothing. The first jumps are long, up to one with a number. -/
def stair (long index : Nat) : Instr :=
  if index % 125 = 0 then
    ⟨if index / 125 ≤ long then .br else .brS, .label ⟨index / 125 - 1⟩⟩
  else
    ⟨.nop, .none⟩

theorem stair_mul (long number : Nat) :
    stair long (125 * number) =
      ⟨if number ≤ long then .br else .brS, .label ⟨number - 1⟩⟩ := by
  simp [stair]

theorem stair_between (long number : Nat) {place : Nat} (low : 0 < place) (high : place < 125) :
    stair long (125 * number + place) = ⟨.nop, .none⟩ := by
  have between : (125 * number + place) % 125 ≠ 0 := by omega
  rw [stair, if_neg between]

theorem size_stair_mul (long number : Nat) :
    (stair long (125 * number)).size = if number ≤ long then 5 else 2 := by
  rw [stair_mul]
  split
  · show Opcode.br.size + 4 = 5
    decide
  · show Opcode.brS.size + 1 = 2
    decide

theorem isShortJump_stair :
    (stair long index).opcode.isShortJump = true ↔ index % 125 = 0 ∧ long < index / 125 := by
  unfold stair
  split
  · next multiple =>
    dsimp only
    split
    · next first => exact iff_of_false (by decide) fun ⟨_, later⟩ => by omega
    · next later => exact iff_of_true (by decide) ⟨multiple, by omega⟩
  · next between => exact iff_of_false (by decide) fun ⟨multiple, _⟩ => between multiple

theorem widened_stair (long index : Nat) :
    (if index = 125 * (long + 1) then (stair long index).widened else stair long index) =
      stair (long + 1) index := by
  by_cases next : index = 125 * (long + 1)
  · subst next
    simp [stair_mul, Instr.widened, Opcode.lengthened]
  · rw [if_neg next]
    by_cases multiple : index % 125 = 0
    · have other : index / 125 ≠ long + 1 := by omega
      have same : index / 125 ≤ long ↔ index / 125 ≤ long + 1 := by omega
      simp only [stair, multiple, same]
    · rw [stair, stair, if_neg multiple, if_neg multiple]

/-- A body is a staircase of some jumps, of which the first ones are long. -/
structure IsStaircase (jumps long : Nat) (body : Body) : Prop where
  distinct : body.ids.Nodup
  instrs : body.instrs = (List.range (125 * jumps + 1)).map (stair long)
  goal : ∀ number ≤ jumps, body.goal? (stair long (125 * number)) = some (125 * (number - 1))

namespace IsStaircase

theorem instr (stairs : IsStaircase jumps long body) (index : Nat) (inside : index ≤ 125 * jumps) :
    body.instrs[index]? = some (stair long index) := by
  rw [stairs.instrs, List.getElem?_map, List.getElem?_range (Nat.lt_succ_of_le inside)]
  rfl

theorem offsetAt_next (stairs : IsStaircase jumps long body) {number : Nat}
    (inside : number < jumps) :
    body.offsetAt (125 * (number + 1) + 1) = body.offsetAt (125 * number) +
      (stair long (125 * number)).size + 124 + (stair long (125 * (number + 1))).size := by
  have between (places : Nat) (short : places ≤ 124) :
      body.offsetAt (125 * number + 1 + places) = body.offsetAt (125 * number + 1) + places := by
    induction places with
    | zero => rfl
    | succ places ih =>
      have idle := stairs.instr (125 * number + (1 + places)) (by omega)
      rw [stair_between long number (by omega) (by omega), ← Nat.add_assoc] at idle
      rw [← Nat.add_assoc, offsetAt_succ idle, ih (by omega)]
      rfl
  have first := offsetAt_succ (stairs.instr (125 * number) (by omega))
  have last := offsetAt_succ (stairs.instr (125 * (number + 1)) (by omega))
  have middle := between 124 (Nat.le_refl _)
  have place : 125 * number + 1 + 124 = 125 * (number + 1) := by omega
  rw [place] at middle
  omega

/-- A short jump reaches the one before it exactly if that is short as well. -/
theorem nearAt_iff (stairs : IsStaircase jumps long body) {number : Nat} (inside : number < jumps)
    (short : long ≤ number) :
    body.NearAt (125 * (number + 1)) (125 * number) ↔ long < number := by
  have gap := stairs.offsetAt_next inside
  rw [size_stair_mul, size_stair_mul] at gap
  unfold NearAt
  split at gap <;> split at gap <;> omega

/-- The first short jump does not reach the one before it, and all others do. -/
theorem isOverstretched_iff (stairs : IsStaircase jumps long body) {line : Line}
    (present : body.lines[index]? = some line) :
    isOverstretched body.targets body.layout (line, body.offsetAt index) = true ↔
      index = 125 * (long + 1) := by
  have held : body.instrs[index]? = some line.instr := by simp [Body.instrs, present]
  have inside : index ≤ 125 * jumps := by
    have bound := (List.getElem?_eq_some_iff.1 held).1
    simp only [stairs.instrs, List.length_map, List.length_range] at bound
    exact Nat.le_of_lt_succ bound
  have same : line.instr = stair long index :=
    Option.some.inj (held.symm.trans (stairs.instr index inside))
  rw [Body.isOverstretched_iff present, same, isShortJump_stair]
  constructor
  · rintro ⟨⟨multiple, short⟩, target, leads, far⟩
    obtain ⟨number, rfl⟩ : ∃ number, index = 125 * (number + 1) :=
      ⟨index / 125 - 1, by omega⟩
    rw [stairs.goal _ (by omega), Nat.add_sub_cancel] at leads
    cases leads
    rw [stairs.nearAt_iff (by omega) (by omega)] at far
    omega
  · rintro rfl
    refine ⟨by omega, 125 * long, stairs.goal _ (by omega), ?_⟩
    rw [stairs.nearAt_iff (by omega) (Nat.le_refl _)]
    exact Nat.lt_irrefl _

theorem pass (stairs : IsStaircase jumps long body) :
    IsStaircase jumps (long + 1)
      (body.widenedAt (isOverstretched body.targets body.layout)) where
  distinct := by
    rw [ids_widenedAt]
    exact stairs.distinct
  instrs := by
    refine List.ext_getElem? fun index => ?_
    rw [getElem?_instrs_widenedAt, List.getElem?_map]
    have held := congrArg (·[index]?) stairs.instrs
    simp only [Body.instrs, List.getElem?_map, Array.getElem?_toList] at held
    cases present : body.lines[index]? with
    | none =>
      rw [present] at held
      rw [Option.map_eq_none_iff.1 held.symm]
      rfl
    | some line =>
      rw [present] at held
      obtain ⟨place, listed, same⟩ := Option.map_eq_some_iff.1 held.symm
      obtain ⟨_, rfl⟩ := List.getElem?_eq_some_iff.1 listed
      rw [List.getElem_range] at same
      simp only [Option.map_some, stairs.isOverstretched_iff present, ← same, listed,
        List.getElem_range, widened_stair]
  goal number inside := by
    have leads := stairs.goal number inside
    rw [widenedAt_isOverstretched stairs.distinct, goal?_widenedIn]
    simp only [goal?, stair_mul] at leads ⊢
    exact leads

theorem countP_ne_zero (stairs : IsStaircase jumps long body) (short : long < jumps) :
    body.layout.countP (Body.isOverstretched body.targets body.layout) ≠ 0 := by
  have held := stairs.instr (125 * (long + 1)) (by omega)
  obtain ⟨line, present, _⟩ : ∃ line, body.lines[125 * (long + 1)]? = some line ∧ _ := by
    simpa [Body.instrs] using held
  have entry : (line, body.offsetAt (125 * (long + 1))) ∈ body.layout := by
    refine Array.mem_of_getElem? (i := 125 * (long + 1)) ?_
    rw [getElem?_layout, present]
    rfl
  rw [ne_eq, Array.countP_eq_zero]
  exact fun none => none _ entry ((stairs.isOverstretched_iff present).2 rfl)

/-- The passes run out before the jumps do. -/
theorem apply_widenFrom (stairs : IsStaircase jumps long body) (same : targets = body.targets)
    (few : long + passes ≤ jumps) :
    ((widenFrom targets limit passes count).apply body).1 =
      .error (.malformed (.fittingUnfinished limit)) := by
  induction passes generalizing body long count with
  | zero => rfl
  | succ passes ih =>
    rw [widenFrom, Edit.apply_bind]
    simp only [Edit.apply_get]
    split
    · next none =>
      subst same
      exact absurd none (stairs.countP_ne_zero (by omega))
    · rw [Edit.apply_bind]
      have next := stairs.pass
      rw [← same] at next
      exact ih next (by rw [targets_widenedAt, same]) (by omega)

end IsStaircase

theorem after_appends (body : Body) (instrs : List Instr) (bare : body.labels = #[]) :
    (body.after (instrs.map .append)).instrs = body.instrs ++ instrs ∧
      (body.after (instrs.map .append)).labels = #[] ∧
        (body.after (instrs.map .append)).regions = body.regions := by
  induction instrs generalizing body with
  | nil => simp [bare]
  | cons instr rest ih =>
    rw [List.map_cons, after_cons]
    have grown : Op.after (.append instr) body = body.inserted body.length instr := rfl
    have still : (body.inserted body.length instr).labels = #[] := by
      simp [inserted, bare]
    obtain ⟨listed, labels, regions⟩ := ih _ still
    rw [grown, listed, labels, regions, instrs_inserted, length_eq_instrs]
    simp [inserted]

theorem after_newLabel (body : Body) (inside : index ≤ body.length) :
    body.after [.newLabel, .placeLabel ⟨body.labels.size⟩ index] =
      { body with labels := body.labels.push (.before (body.idAt? index)) } := by
  have fits : ¬ body.withLabel.length < index := Nat.not_lt.2 inside
  have known : ¬ body.withLabel.labels.size ≤ body.labels.size := by simp [withLabel]
  have labels (place : LabelPlace) :
      (body.labels.push .unplaced).setIfInBounds body.labels.size place =
        body.labels.push place := by
    rw [← Array.toList_inj]
    simp
  show ((placeLabel ⟨body.labels.size⟩ index).apply body.withLabel).2 = _
  rw [apply_placeLabel, if_neg fits, apply_setPlace, if_neg known]
  dsimp only [placed, withLabel]
  rw [labels]
  rfl

theorem after_newLabels (place : Nat → Nat) (bare : body.labels = #[])
    (inside : ∀ number < count, place number ≤ body.length) :
    body.after ((List.range count).flatMap fun number =>
        [.newLabel, .placeLabel ⟨number⟩ (place number)]) =
      { body with
        labels := ((List.range count).map fun number =>
          LabelPlace.before (body.idAt? (place number))).toArray } := by
  induction count with
  | zero =>
    obtain ⟨_, _, _, _⟩ := body
    cases bare
    rfl
  | succ count ih =>
    have step := after_newLabel { body with
      labels := ((List.range count).map fun number =>
        LabelPlace.before (body.idAt? (place number))).toArray }
      (inside count (Nat.lt_succ_self count))
    simp only [List.size_toArray, List.length_map, List.length_range] at step
    rw [List.range_succ, List.flatMap_append, after_append,
      ih fun number low => inside number (Nat.lt_succ_of_lt low), List.flatMap_singleton, step,
      List.push_toArray, List.map_append]
    rfl

/-- The lines of a staircase of which no jump but the first is long. -/
def treads (jumps : Nat) : Body :=
  Body.after {} (((List.range (125 * jumps + 1)).map (stair 0)).map .append)

/-- A staircase of which no jump but the first is long, each of them labelled with its number. -/
def staircase (jumps : Nat) : Body :=
  (treads jumps).after <| (List.range (jumps + 1)).flatMap fun number =>
    [.newLabel, .placeLabel ⟨number⟩ (125 * number)]

theorem reachable_staircase (jumps : Nat) : (staircase jumps).Reachable :=
  Reachable.after (.after .empty _) _

theorem treads_parts (jumps : Nat) :
    (treads jumps).instrs = (List.range (125 * jumps + 1)).map (stair 0) ∧
      (treads jumps).labels = #[] ∧ (treads jumps).regions = [] :=
  after_appends {} _ rfl

theorem staircase_eq (jumps : Nat) :
    staircase jumps = { treads jumps with
      labels := ((List.range (jumps + 1)).map fun number =>
        LabelPlace.before ((treads jumps).idAt? (125 * number))).toArray } := by
  obtain ⟨instrs, labels, _⟩ := treads_parts jumps
  refine after_newLabels (125 * ·) labels fun number low => ?_
  rw [length_eq_instrs, instrs, List.length_map, List.length_range]
  omega

theorem instrs_staircase (jumps : Nat) :
    (staircase jumps).instrs = (List.range (125 * jumps + 1)).map (stair 0) := by
  rw [staircase_eq]
  exact (treads_parts jumps).1

theorem regions_staircase (jumps : Nat) : (staircase jumps).regions = [] := by
  rw [staircase_eq]
  exact (treads_parts jumps).2.2

theorem get?_targets_staircase (jumps : Nat) {number : Nat} (inside : number ≤ jumps) :
    (staircase jumps).targets.get? ⟨number⟩ = some (125 * number) := by
  have formed := (reachable_staircase jumps).wellFormed
  have length : 125 * number < (staircase jumps).length := by
    rw [length_eq_instrs, instrs_staircase, List.length_map, List.length_range]
    omega
  obtain ⟨id, here⟩ : ∃ id, (staircase jumps).idAt? (125 * number) = some id :=
    Option.ne_none_iff_exists'.1 fun none => Nat.not_le.2 length (idAt?_eq_none.1 none)
  have stands : (staircase jumps).placeOf? ⟨number⟩ = some (.line id) := by
    rw [staircase_eq] at here ⊢
    have below : number < jumps + 1 := Nat.lt_succ_of_le inside
    simp only [placeOf?, List.getElem?_toArray, List.getElem?_map, List.getElem?_range below,
      Option.map_some]
    rw [show (treads jumps).idAt? (125 * number) = some id from here]
    rfl
  rw [get?_targets, formed.lineOf?_eq_some.2 stands]
  exact indexOf?_of_idAt? formed.distinct here

theorem isStaircase_staircase (jumps : Nat) : IsStaircase jumps 0 (staircase jumps) where
  distinct := (reachable_staircase jumps).wellFormed.distinct
  instrs := instrs_staircase jumps
  goal number inside := by
    have inside : number - 1 ≤ jumps := Nat.le_trans (Nat.sub_le number 1) inside
    have leads := get?_targets_staircase jumps inside
    rw [get?_targets] at leads
    rw [stair_mul]
    exact leads

/-- Every label of a staircase leads somewhere, so it can be encoded. -/
theorem check_staircase (jumps : Nat) (method : String) :
    (staircase jumps).check method = .ok () := by
  refine check_eq_ok.2 ⟨?_, fun region present => ?_⟩
  · rw [danglingLabel?_eq, List.find?_eq_none]
    intro label jumped
    obtain ⟨instr, listed, named⟩ := mem_jumps.1 jumped
    rw [instrs_staircase] at listed
    obtain ⟨index, low, rfl⟩ := List.mem_map.1 listed
    have below := List.mem_range.1 low
    unfold stair at named
    split at named
    · obtain rfl := List.mem_singleton.1 named
      rw [get?_targets_staircase jumps (by omega)]
      simp
    · cases named
  · rw [regions_staircase] at present
    cases present

theorem shaped_staircase (jumps : Nat) : (staircase jumps).Shaped := by
  intro instr listed
  rw [instrs_staircase] at listed
  obtain ⟨index, _, rfl⟩ := List.mem_map.1 listed
  unfold stair
  split
  · split <;> rfl
  · rfl

/-- All jumps of a staircase but the first are short. -/
theorem card_shortJumps_staircase (jumps : Nat) : (staircase jumps).shortJumps.card = jumps := by
  rw [card_shortJumps (reachable_staircase jumps).wellFormed.distinct, instrs_staircase,
    List.countP_map]
  induction jumps with
  | zero => rfl
  | succ jumps ih =>
    have more : 125 * (jumps + 1) + 1 = 125 * jumps + 1 + 125 := by omega
    have last : ∀ place ∈ List.range 125,
        (stair 0 (125 * jumps + 1 + place)).opcode.isShortJump = true ↔
          decide (place = 124) = true := by
      intro place low
      have below := List.mem_range.1 low
      rw [isShortJump_stair, decide_eq_true_eq]
      omega
    have one : (List.range 125).countP (fun place => decide (place = 124)) = 1 := by decide
    rw [more, List.range_add, List.countP_append, ih, List.countP_map]
    exact congrArg (jumps + ·) ((List.countP_congr last).trans one)

/-- Fitting the branches of a body ends if it has more passes than there are short branches. No fewer
are enough: for every number of short branches there is a body with so many, fit to be encoded, whose
fitting does not end within that number of passes. -/
theorem widenAsNeeded_bound :
    (∀ (body : Body) (passes : Nat), body.Reachable → body.shortJumps.card < passes →
      ∃ count after, (widenAsNeeded passes).apply body = (.ok count, after)) ∧
    ∀ jumps, ∃ body : Body, body.Reachable ∧ body.Shaped ∧ body.shortJumps.card = jumps ∧
      (∀ method, body.check method = .ok ()) ∧
        ((widenAsNeeded jumps).apply body).1 = .error (.malformed (.fittingUnfinished jumps)) := by
  constructor
  · intro body passes reachable enough
    rw [apply_widenAsNeeded]
    exact exists_widenFrom reachable.wellFormed.distinct rfl enough
  · intro jumps
    refine ⟨staircase jumps, reachable_staircase jumps, shaped_staircase jumps,
      card_shortJumps_staircase jumps, check_staircase jumps, ?_⟩
    rw [apply_widenAsNeeded]
    exact (isStaircase_staircase jumps).apply_widenFrom rfl (by omega)

/-- The two branches that become long in a cascade and the one that stays short take four passes at
most. -/
theorem bound_of_cascade :
    cascade.Reachable ∧ cascade.shortJumps.card < 4 ∧
      ∃ count after, (widenAsNeeded 4).apply cascade = (.ok count, after) := by
  have reachable : cascade.Reachable := .after .empty _
  have few : cascade.shortJumps.card < 4 := by decide +kernel
  exact ⟨reachable, few, widenAsNeeded_bound.1 cascade 4 reachable few⟩

end Retrofit.Body

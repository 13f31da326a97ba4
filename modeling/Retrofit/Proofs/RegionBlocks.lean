import Mathlib
import Retrofit.Proofs.Body.Blocks
import Retrofit.Proofs.Reachable

/-!
Which lines a region covers. However lines come and go, a line that stays is covered by the same
blocks, and a new line by those blocks that it is put into (`covers_after_edits`).
-/

namespace Retrofit.Body

/-- Whether a block of the region with the number covers a line. -/
def covers (body : Body) (number : Nat) (kind : BlockKind) (id : InstrId) : Bool :=
  ((body.blockAt? number kind).bind body.span?).any fun span =>
    (body.indexOf? id).any fun index => span.1 ≤ index && index < span.2

/-- The invariant of editing: every block has its boundaries in the body, the first one not behind
the second. A block may have become empty. -/
structure Ordered (body : Body) : Prop where
  formed : body.WellFormed
  spans : ∀ number kind block, body.blockAt? number kind = some block →
    ∃ start stop, body.span? block = some (start, stop) ∧ start ≤ stop

variable {body after : Body} {writes : Instr → Prop} {moving : Bool} {number index : Nat}
  {kind : BlockKind} {block : Block} {region : Region} {id gone : InstrId}

theorem WellFormed.ordered (formed : body.WellFormed) (upright : body.Upright) : body.Ordered where
  formed := formed
  spans := by
    intro number kind block found
    obtain ⟨region, present, part⟩ := Option.bind_eq_some_iff.1 found
    obtain ⟨start, stop, spans, before⟩ :=
      upright region (List.mem_of_getElem? present) kind block part
    exact ⟨start, stop, spans, Nat.le_of_lt before⟩

theorem covers_eq_true :
    body.covers number kind id = true ↔
      ∃ block start stop index, body.blockAt? number kind = some block ∧
        body.span? block = some (start, stop) ∧ body.indexOf? id = some index ∧
        start ≤ index ∧ index < stop := by
  simp only [covers, Option.any_eq_true, Option.bind_eq_some_iff, Bool.and_eq_true,
    decide_eq_true_eq, Prod.exists]
  constructor
  · rintro ⟨start, stop, ⟨block, found, spans⟩, index, listed, within⟩
    exact ⟨block, start, stop, index, found, spans, listed, within⟩
  · rintro ⟨block, start, stop, index, found, spans, listed, within⟩
    exact ⟨start, stop, ⟨block, found, spans⟩, index, listed, within⟩

theorem covers_of_span? {start stop place : Nat} (found : body.blockAt? number kind = some block)
    (spans : body.span? block = some (start, stop)) (listed : body.indexOf? id = some place) :
    body.covers number kind id = true ↔ start ≤ place ∧ place < stop := by
  simp [covers, found, spans, listed]

theorem covers_of_blockAt?_eq_none (missing : body.blockAt? number kind = none) :
    body.covers number kind id = false := by
  simp [covers, missing]

theorem blockAt?_of_regions (same : after.regions = body.regions) (number : Nat)
    (kind : BlockKind) : after.blockAt? number kind = body.blockAt? number kind := by
  simp [blockAt?, same]

theorem Ordered.inserted (ordered : body.Ordered) (instr : Instr) (inside : index ≤ body.length) :
    (body.inserted index instr).Ordered where
  formed := ordered.formed.inserted index instr inside
  spans := by
    intro number kind block found
    obtain ⟨start, stop, spans, before⟩ := ordered.spans number kind block found
    refine ⟨_, _, span?_inserted ordered.formed instr inside spans, ?_⟩
    simp only [pushedDown]
    split <;> split <;> omega

/-- An insertion leaves every line in the blocks that cover it. -/
theorem covers_inserted (ordered : body.Ordered) (instr : Instr) (inside : index ≤ body.length)
    (live : id ∈ body.ids) :
    (body.inserted index instr).covers number kind id = body.covers number kind id := by
  have same : (body.inserted index instr).blockAt? number kind = body.blockAt? number kind :=
    blockAt?_of_regions rfl number kind
  cases found : body.blockAt? number kind with
  | none => rw [covers_of_blockAt?_eq_none found, covers_of_blockAt?_eq_none (same.trans found)]
  | some block =>
    obtain ⟨start, stop, spans, before⟩ := ordered.spans number kind block found
    obtain ⟨place, listed⟩ := exists_indexOf? live
    rw [Bool.eq_iff_iff, covers_of_span? found spans listed,
      covers_of_span? (same.trans found) (span?_inserted ordered.formed instr inside spans)
        (indexOf?_inserted ordered.formed instr inside listed)]
    simp only [pushedDown]
    split <;> split <;> split <;> omega

/-- A new line is covered by the blocks that have their boundaries on both sides of its index. -/
theorem covers_fresh (ordered : body.Ordered) (instr : Instr) (inside : index ≤ body.length) :
    (body.inserted index instr).covers number kind ⟨body.nextId⟩ = true ↔
      ∃ block start stop, body.blockAt? number kind = some block ∧
        body.span? block = some (start, stop) ∧ start < index ∧ index ≤ stop := by
  have same : (body.inserted index instr).blockAt? number kind = body.blockAt? number kind :=
    blockAt?_of_regions rfl number kind
  cases found : body.blockAt? number kind with
  | none => simp [covers_of_blockAt?_eq_none (same.trans found)]
  | some block =>
    obtain ⟨start, stop, spans, before⟩ := ordered.spans number kind block found
    have listed : (body.inserted index instr).indexOf? ⟨body.nextId⟩ = some index := by
      refine indexOf?_of_idAt? (ordered.formed.inserted index instr inside).distinct ?_
      rw [length_eq] at inside
      rw [idAt?_eq, ids_inserted, List.getElem?_insertIdx_self, if_pos inside]
    rw [covers_of_span? (same.trans found) (span?_inserted ordered.formed instr inside spans) listed]
    have shifted : (pushedDown index start ≤ index ∧ index < pushedDown index stop) ↔
        start < index ∧ index ≤ stop := by
      simp only [pushedDown]
      split <;> split <;> omega
    rw [shifted]
    constructor
    · intro between
      exact ⟨block, start, stop, rfl, spans, between⟩
    · rintro ⟨_, _, _, part, others, between⟩
      cases part
      cases spans.symm.trans others
      exact between

theorem blockAt?_erased (found : body.idAt? index = some gone)
    (free : body.obstacle? index moving gone = none) :
    (body.erased index).blockAt? number kind =
      (body.blockAt? number kind).map (·.moved gone (body.idAt? (index + 1))) := by
  rw [blockAt?, erased_eq found, blockAt?]
  simp only [List.getElem?_map]
  cases present : body.regions[number]? with
  | none => rfl
  | some region =>
    exact Region.block?_moved
      (fun last => not_startsAt_of_obstacle? free (List.mem_of_getElem? present) last) kind

theorem span?_moved (ordered : body.Ordered) (found : body.idAt? index = some gone)
    (free : body.obstacle? index moving gone = none)
    (part : body.blockAt? number kind = some block) {start stop : Nat}
    (spans : body.span? block = some (start, stop)) :
    (body.erased index).span? (block.moved gone (body.idAt? (index + 1))) =
      some (pulledUp index start, pulledUp index stop) := by
  obtain ⟨region, present, held⟩ := Option.bind_eq_some_iff.1 part
  refine span?_erased ordered.formed found (fun last => ?_) spans
  exact start_ne_of_startsAt
    (not_startsAt_of_obstacle? free (List.mem_of_getElem? present) last) held

theorem Ordered.erased (ordered : body.Ordered) (found : body.idAt? index = some gone)
    (free : body.obstacle? index moving gone = none) : (body.erased index).Ordered where
  formed := ordered.formed.erased found
  spans := by
    intro number kind block left
    rw [blockAt?_erased found free] at left
    obtain ⟨old, part, rfl⟩ := Option.map_eq_some_iff.1 left
    obtain ⟨start, stop, spans, before⟩ := ordered.spans number kind old part
    refine ⟨_, _, span?_moved ordered found free part spans, ?_⟩
    simp only [pulledUp]
    split <;> split <;> omega

/-- An erasure leaves every other line in the blocks that cover it. -/
theorem covers_erased (ordered : body.Ordered) (found : body.idAt? index = some gone)
    (free : body.obstacle? index moving gone = none) (live : id ∈ body.ids) (apart : id ≠ gone) :
    (body.erased index).covers number kind id = body.covers number kind id := by
  have left : (body.erased index).blockAt? number kind = _ := blockAt?_erased found free
  cases part : body.blockAt? number kind with
  | none =>
    rw [part, Option.map_none] at left
    rw [covers_of_blockAt?_eq_none part, covers_of_blockAt?_eq_none left]
  | some block =>
    rw [part, Option.map_some] at left
    obtain ⟨start, stop, spans, before⟩ := ordered.spans number kind block part
    obtain ⟨place, listed⟩ := exists_indexOf? live
    have elsewhere : place ≠ index := by
      rintro rfl
      exact apart (Option.some.inj ((idAt?_of_indexOf? listed).symm.trans found))
    rw [Bool.eq_iff_iff, covers_of_span? part spans listed,
      covers_of_span? left (span?_moved ordered found free part spans)
        (indexOf?_erased ordered.formed found apart listed)]
    simp only [pulledUp]
    split <;> split <;> split <;> omega

theorem Ordered.of_same (ordered : body.Ordered) (formed : after.WellFormed)
    (ids : after.ids = body.ids) (regions : after.regions = body.regions) : after.Ordered where
  formed := formed
  spans := by
    intro number kind block found
    rw [blockAt?_of_regions regions] at found
    rw [span?_of_ids ids]
    exact ordered.spans number kind block found

theorem covers_of_same (ids : after.ids = body.ids) (regions : after.regions = body.regions) :
    after.covers number kind id = body.covers number kind id := by
  have spans : after.span? = body.span? := funext (span?_of_ids ids)
  simp [covers, blockAt?_of_regions regions, spans, indexOf?_eq, ids]

/-- Every change keeps the blocks in order and all lines that stay in their blocks. -/
theorem Ordered.change (ordered : body.Ordered) (changed : Change writes moving body after) :
    after.Ordered ∧ ∀ number kind, ∀ id ∈ body.ids, id ∈ after.ids →
      after.covers number kind id = body.covers number kind id := by
  have formed := ordered.formed.change changed
  cases changed with
  | insert index instr inside =>
    exact ⟨ordered.inserted instr inside,
      fun number kind id live _ => covers_inserted ordered instr inside live⟩
  | erase index line found free =>
    have located := idAt?_of_line found
    refine ⟨ordered.erased located free, ?_⟩
    intro number kind id live stays
    exact covers_erased ordered located free live
      ((ordered.formed.mem_ids_erased located id).1 stays).1
  | _ =>
    exact ⟨ordered.of_same formed (by simp) rfl,
      fun number kind id _ _ => covers_of_same (by simp) rfl⟩

theorem Ordered.changes (ordered : body.Ordered) (changed : Changes writes moving body after) :
    after.Ordered ∧ ∀ number kind, ∀ id ∈ body.ids, id ∈ after.ids →
      after.covers number kind id = body.covers number kind id := by
  induction changed with
  | refl => exact ⟨ordered, fun _ _ _ _ _ => rfl⟩
  | @tail between after earlier step ih =>
    obtain ⟨orderedBetween, kept⟩ := ih
    obtain ⟨orderedAfter, keptLast⟩ := orderedBetween.change step
    refine ⟨orderedAfter, ?_⟩
    intro number kind id live stays
    -- A line that is there at the end was there all the time.
    have held : id ∈ between.ids := by
      by_contra lost
      have issued := ordered.formed.issued id live
      exact step.gone (Nat.lt_of_lt_of_le issued (Changes.nextId_le earlier)) lost stays
    rw [keptLast number kind id held stays, kept number kind id live held]

theorem Ordered.edited (ordered : body.Ordered) (ops : List Op) :
    (body.after ops).Ordered ∧ ∀ number kind, ∀ id ∈ body.ids, id ∈ (body.after ops).ids →
      (body.after ops).covers number kind id = body.covers number kind id := by
  induction ops generalizing body with
  | nil => exact ⟨ordered, fun _ _ _ _ _ => rfl⟩
  | cons op rest ih =>
    have changed := op.changes body
    obtain ⟨orderedBetween, kept⟩ := ordered.changes changed
    obtain ⟨orderedAfter, keptLast⟩ := ih orderedBetween
    refine ⟨orderedAfter, ?_⟩
    intro number kind id live stays
    have held : id ∈ (op.after body).ids := by
      by_contra lost
      have issued := Nat.lt_of_lt_of_le (ordered.formed.issued id live) changed.nextId_le
      exact gone_after issued lost rest stays
    rw [after_cons, keptLast number kind id held stays, kept number kind id live held]

/-- The index and the identity of the line that an operation puts into a body. -/
def Op.inserted? (op : Op) (body : Body) : Option (Nat × InstrId) :=
  match op with
  | .append instr => ((Body.append instr).apply body).1.toOption.map fun id => (body.length, id)
  | .insertIdx index instr =>
    ((Body.insertIdx index instr).apply body).1.toOption.map fun id => (index, id)
  | _ => none

theorem Op.after_of_inserted? {op : Op} (new : op.inserted? body = some (index, id)) :
    id = ⟨body.nextId⟩ ∧ index ≤ body.length ∧
      ∃ instr, op.after body = body.inserted index instr := by
  cases op with
  | append instr =>
    cases new
    exact ⟨rfl, Nat.le_refl _, instr, rfl⟩
  | insertIdx place instr =>
    rw [inserted?, apply_insertIdx] at new
    split at new
    · cases new
    · next inside =>
      cases new
      refine ⟨rfl, by omega, instr, ?_⟩
      rw [Op.after, perform, Edit.apply_discard, apply_insertIdx, if_neg inside]
  | _ => cases new

theorem Ordered.anchored (ordered : body.Ordered) (present : region ∈ body.regions)
    (tied : id ∈ region.anchors) : id ∈ body.ids := by
  obtain ⟨number, listed⟩ := List.mem_iff_getElem?.1 present
  have bounded (kind : BlockKind) (block : Block) (part : region.block? kind = some block) :
      block.start ∈ body.ids ∧ ∀ stop ∈ block.stop, stop ∈ body.ids := by
    have found : body.blockAt? number kind = some block := by simp [blockAt?, listed, part]
    obtain ⟨start, stop, spans, _⟩ := ordered.spans number kind block found
    obtain ⟨starts, ends⟩ := span?_eq_some.1 spans
    refine ⟨mem_ids_of_indexOf? starts, ?_⟩
    intro last held
    rw [Option.mem_def.1 held] at ends
    exact mem_ids_of_indexOf? ends
  have tried := bounded .tried _ rfl
  have handled := bounded .handler _ rfl
  simp only [Region.anchors, List.mem_append, List.mem_cons, List.not_mem_nil, or_false,
    Option.mem_toList] at tied
  rcases tied with (((rfl | rfl) | tryEnd) | handlerEnd) | filter
  · exact tried.1
  · exact handled.1
  · exact tried.2 id tryEnd
  · exact handled.2 id handlerEnd
  · exact (bounded .filter ⟨id, some region.handlerStart⟩ (by simp [Region.block?, filter])).1

theorem exists_covered (found : body.blockAt? number kind = some block) :
    (∃ start stop, body.span? block = some (start, stop) ∧ start < stop) ↔
      ∃ id, body.covers number kind id = true := by
  constructor
  · rintro ⟨start, stop, spans, before⟩
    exact ⟨block.start,
      (covers_of_span? found spans (span?_eq_some.1 spans).1).2 ⟨Nat.le_refl _, before⟩⟩
  · rintro ⟨id, covered⟩
    obtain ⟨_, start, stop, place, part, spans, _, behind, within⟩ := covers_eq_true.1 covered
    cases found.symm.trans part
    exact ⟨start, stop, spans, Nat.lt_of_le_of_lt behind within⟩

/-- Exception regions neither gain nor lose code that stays. However lines are put into a body in
order and taken out of it, all boundaries stay in the body, a line that stays is covered by the same
blocks, a new line by those that have their boundaries on both sides of it, and a region is in order
exactly if each of its blocks still covers a line. -/
theorem covers_after_edits {start : Body} (reachable : start.Reachable) (upright : start.Upright)
    (ops : List Op) :
    (∀ region ∈ (start.after ops).regions, ∀ id ∈ region.anchors, id ∈ (start.after ops).ids) ∧
    (∀ number kind, ∀ id ∈ start.ids, id ∈ (start.after ops).ids →
      (start.after ops).covers number kind id = start.covers number kind id) ∧
    (∀ done op rest index id, ops = done ++ op :: rest →
      op.inserted? (start.after done) = some (index, id) → id ∈ (start.after ops).ids →
        ∀ number kind, (start.after ops).covers number kind id = true ↔
          ∃ block first last, (start.after done).blockAt? number kind = some block ∧
            (start.after done).span? block = some (first, last) ∧ first < index ∧ index ≤ last) ∧
    ∀ number region method, (start.after ops).regions[number]? = some region →
      ((start.after ops).regionFault? method region number = none ↔
        ∀ kind, (region.block? kind).isSome →
          ∃ id, (start.after ops).covers number kind id = true) := by
  have ordered := reachable.wellFormed.ordered upright
  obtain ⟨orderedAfter, kept⟩ := ordered.edited ops
  refine ⟨?_, kept, ?_, ?_⟩
  · intro region present id tied
    exact orderedAfter.anchored present tied
  · rintro done op rest index id rfl new stays number kind
    have orderedDone := (ordered.edited done).1
    obtain ⟨rfl, inside, instr, becomes⟩ := op.after_of_inserted? new
    rw [after_append, after_cons, becomes] at stays ⊢
    have live : (⟨(start.after done).nextId⟩ : InstrId) ∈
        ((start.after done).inserted index instr).ids := by
      rw [length_eq] at inside
      rw [ids_inserted, List.mem_insertIdx inside]
      exact .inl rfl
    have orderedNew := orderedDone.inserted instr inside
    rw [(orderedNew.edited rest).2 number kind _ live stays]
    exact covers_fresh orderedDone instr inside
  · intro number region method listed
    rw [regionFault?_eq_none]
    have part (kind : BlockKind) :
        (start.after ops).blockAt? number kind = region.block? kind := by
      simp [blockAt?, listed]
    constructor
    · intro spans kind held
      obtain ⟨block, found⟩ := Option.isSome_iff_exists.1 held
      exact (exists_covered ((part kind).trans found)).1 (spans kind block found)
    · intro covered kind block found
      refine (exists_covered ((part kind).trans found)).2 (covered kind ?_)
      rw [found]
      rfl

/-- Two lines that are tried and two that handle what they throw. -/
def guarded : Body :=
  { Body.after {} [.append ⟨.nop, .none⟩, .append ⟨.nop, .none⟩, .append ⟨.nop, .none⟩,
      .append ⟨.ret, .none⟩] with
    regions := [⟨2, ⟨0⟩, some ⟨2⟩, ⟨2⟩, none, none, none⟩] }

/-- A line that is put between the two blocks is tried, also when lines around it go away. -/
theorem covers_line_between_blocks :
    guarded.Reachable ∧ guarded.Upright ∧
      (guarded.after [.insertIdx 2 ⟨.pop, .none⟩, .eraseIdx 0 true "M"]).covers 0 .tried ⟨4⟩ =
        true ∧
      (guarded.after [.insertIdx 2 ⟨.pop, .none⟩, .eraseIdx 0 true "M"]).covers 0 .handler ⟨4⟩ =
        false := by
  have reachable : guarded.Reachable := .dressed (Reachable.empty.after _) _ _ _ _
  have upright : guarded.Upright := by
    intro region present
    rw [List.mem_singleton.1 present]
    have sound : guarded.regionFault? "M" ⟨2, ⟨0⟩, some ⟨2⟩, ⟨2⟩, none, none, none⟩ 0 = none := by cbv
    exact regionFault?_eq_none.1 sound
  have fresh := (covers_after_edits reachable upright
    [.insertIdx 2 ⟨.pop, .none⟩, .eraseIdx 0 true "M"]).2.2.1 [] _ _ 2 ⟨4⟩ rfl (by cbv)
    (contains_iff.1 (by cbv)) 0
  refine ⟨reachable, upright, ?_, ?_⟩
  · exact (fresh .tried).2 ⟨⟨⟨0⟩, some ⟨2⟩⟩, 0, 2, by cbv, by cbv, by decide, by decide⟩
  · rw [Bool.eq_false_iff, ne_eq, fresh .handler]
    rintro ⟨block, first, last, found, spans, behind, _⟩
    have part : guarded.blockAt? 0 .handler = some ⟨⟨2⟩, none⟩ := by cbv
    have range : guarded.span? ⟨⟨2⟩, none⟩ = some (2, 4) := by cbv
    cases part.symm.trans found
    cases range.symm.trans spans
    exact Nat.lt_irrefl _ behind

end Retrofit.Body

import Retrofit.Proofs.Body.Range

/-!
The blocks of exception regions as ranges of indices. A region makes sense to the check of a body
exactly if each of its blocks has a range that is not empty (`regionFault?_eq_none`). Insertions and
erasures shift the ranges and never turn one around.
-/

namespace Retrofit

/-- The blocks of an exception region. -/
inductive BlockKind where
  | tried | handler | filter
deriving DecidableEq

/-- Consecutive lines: from the first one up to the one behind the last, or to the end. -/
structure Block where
  start : InstrId
  stop : Option InstrId

namespace Region

/-- A block of a region. The filter ends where the handler begins. -/
def block? (region : Region) : BlockKind → Option Block
  | .tried => some ⟨region.tryStart, region.tryEnd⟩
  | .handler => some ⟨region.handlerStart, region.handlerEnd⟩
  | .filter => region.filterStart.map fun filter => ⟨filter, some region.handlerStart⟩

/-- The lines at which a region is tied to its body. -/
def anchors (region : Region) : List InstrId :=
  [region.tryStart, region.handlerStart]
    ++ region.tryEnd.toList ++ region.handlerEnd.toList ++ region.filterStart.toList

end Region

/-- The block with its boundaries at one line moved to another. -/
def Block.moved (block : Block) (source : InstrId) (target : Option InstrId) : Block where
  start := if block.start = source then target.getD block.start else block.start
  stop := if block.stop = some source then target else block.stop

/-- The blocks of a region move with it, unless one would have to begin behind the last line. -/
theorem Region.block?_moved {region : Region} {source : InstrId} {target : Option InstrId}
    (free : target = none → region.startsAt source = false) (kind : BlockKind) :
    (region.moved source target).block? kind =
      (region.block? kind).map (·.moved source target) := by
  cases kind with
  | tried => rfl
  | handler => rfl
  | filter =>
    cases opening : region.filterStart with
    | none => simp [block?, moved, opening]
    | some filter =>
      by_cases same : region.handlerStart = source
      · cases target with
        | none => simp [startsAt, same] at free
        | some id => simp [block?, moved, Block.moved, opening, same]
      · simp [block?, moved, Block.moved, opening, same]

theorem Region.apart_of_boundsAt {region : Region} {kind : BlockKind} {block : Block} {id : InstrId}
    (free : region.boundsAt id = []) (found : region.block? kind = some block) :
    block.start ≠ id ∧ block.stop ≠ some id := by
  obtain ⟨atTry, atTryEnd, atHandler, atHandlerEnd, atFilter⟩ := boundsAt_eq_nil.1 free
  cases kind with
  | tried => cases found; exact ⟨atTry, atTryEnd⟩
  | handler => cases found; exact ⟨atHandler, atHandlerEnd⟩
  | filter =>
    obtain ⟨filter, opening, rfl⟩ := Option.map_eq_some_iff.1 found
    exact ⟨fun same => atFilter (same ▸ opening), fun same => atHandler (Option.some.inj same)⟩

namespace Body

/-- The indices at which a block begins and ends. -/
def span? (body : Body) (block : Block) : Option (Nat × Nat) :=
  match body.indexOf? block.start, body.endIndex? block.stop with
  | some start, some stop => some (start, stop)
  | _, _ => none

/-- A block of the region with the number. -/
def blockAt? (body : Body) (number : Nat) (kind : BlockKind) : Option Block :=
  (body.regions[number]?).bind fun region => region.block? kind

/-- Every block of every region has its boundaries in the body, the first before the second. -/
def Upright (body : Body) : Prop :=
  ∀ region ∈ body.regions, ∀ kind block, region.block? kind = some block →
    ∃ start stop, body.span? block = some (start, stop) ∧ start < stop

variable {body : Body} {block : Block} {region : Region} {index place start stop : Nat}
  {id : InstrId} {anchor : Option InstrId}

theorem span?_eq_some :
    body.span? block = some (start, stop) ↔
      body.indexOf? block.start = some start ∧ body.endIndex? block.stop = some stop := by
  unfold span?
  cases body.indexOf? block.start <;> cases body.endIndex? block.stop <;> simp

private theorem span?_of_faultless {method : String} {number : Nat}
    (faultless : body.regionFault? method region number = none) {kind : BlockKind}
    (found : region.block? kind = some block) :
    ∃ start stop, body.span? block = some (start, stop) ∧ start < stop := by
  unfold regionFault? at faultless
  split at faultless
  · next tryStart tryEnd handlerStart handlerEnd atTry atTryEnd atHandler atHandlerEnd =>
    split at faultless
    · cases faultless
    · next upright =>
      simp only [Bool.or_eq_true, decide_eq_true_eq, not_or, Nat.not_le] at upright
      cases kind with
      | tried =>
        cases found
        exact ⟨tryStart, tryEnd, span?_eq_some.2 ⟨atTry, atTryEnd⟩, upright.1⟩
      | handler =>
        cases found
        exact ⟨handlerStart, handlerEnd, span?_eq_some.2 ⟨atHandler, atHandlerEnd⟩, upright.2⟩
      | filter =>
        obtain ⟨filter, opening, rfl⟩ := Option.map_eq_some_iff.1 found
        simp only [opening] at faultless
        cases listed : body.indexOf? filter with
        | none => simp [listed] at faultless
        | some filterStart =>
          have earlier : filterStart < handlerStart := by simpa [listed] using faultless
          exact ⟨filterStart, handlerStart, span?_eq_some.2 ⟨listed, atHandler⟩, earlier⟩
  · cases faultless

private theorem faultless_of_span? {method : String} {number : Nat}
    (spans : ∀ kind block, region.block? kind = some block →
      ∃ start stop, body.span? block = some (start, stop) ∧ start < stop) :
    body.regionFault? method region number = none := by
  obtain ⟨tryStart, tryEnd, tried, tryUpright⟩ := spans .tried _ rfl
  obtain ⟨handlerStart, handlerEnd, handled, handlerUpright⟩ := spans .handler _ rfl
  obtain ⟨atTry, atTryEnd⟩ := span?_eq_some.1 tried
  obtain ⟨atHandler, atHandlerEnd⟩ := span?_eq_some.1 handled
  have upright : (decide (tryEnd ≤ tryStart) || decide (handlerEnd ≤ handlerStart)) = false := by
    simp only [Bool.or_eq_false_iff, decide_eq_false_iff_not]
    omega
  simp only [regionFault?, atTry, atTryEnd, atHandler, atHandlerEnd, upright]
  cases opening : region.filterStart with
  | none => rfl
  | some filter =>
    obtain ⟨filterStart, filterEnd, filtered, filterUpright⟩ :=
      spans .filter ⟨filter, some region.handlerStart⟩ (by simp [Region.block?, opening])
    obtain ⟨atFilter, atFilterEnd⟩ := span?_eq_some.1 filtered
    have same : handlerStart = filterEnd := Option.some.inj (atHandler.symm.trans atFilterEnd)
    subst same
    simp [atFilter, filterUpright]

/-- A region is in order exactly if none of its blocks lacks a boundary or is empty. -/
theorem regionFault?_eq_none {method : String} {number : Nat} :
    body.regionFault? method region number = none ↔
      ∀ kind block, region.block? kind = some block →
        ∃ start stop, body.span? block = some (start, stop) ∧ start < stop := by
  constructor
  · intro faultless kind block found
    exact span?_of_faultless faultless found
  · intro spans
    exact faultless_of_span? spans

/-- The regions of a body are in order exactly if it is upright. -/
theorem regionFaults_eq_none (body : Body) (method : String) :
    (body.regions.zipIdx.findSome? fun entry => body.regionFault? method entry.1 entry.2) = none ↔
      body.Upright := by
  rw [List.findSome?_eq_none_iff]
  constructor
  · intro faultless region present
    obtain ⟨number, inside, rfl⟩ := List.getElem_of_mem present
    exact regionFault?_eq_none.1 (faultless (body.regions[number], number)
      (List.mk_mem_zipIdx_iff_getElem?.2 (List.getElem?_eq_getElem inside)))
  · rintro upright ⟨region, number⟩ entry
    have present : region ∈ body.regions :=
      List.mem_of_getElem? (List.mk_mem_zipIdx_iff_getElem?.1 entry)
    exact regionFault?_eq_none.2 (upright region present)

/-- A body passes its check exactly if no label that is jumped to lacks a line and no block is
empty. -/
theorem check_eq_ok {method : String} :
    body.check method = .ok () ↔ body.danglingLabel? = none ∧ body.Upright := by
  rw [← regionFaults_eq_none body method, check]
  cases body.danglingLabel? with
  | some label => simp
  | none =>
    cases body.regions.zipIdx.findSome? fun entry =>
        body.regionFault? method entry.1 entry.2 <;> simp

/-- Where an index goes when a line is inserted at another one. -/
def pushedDown (index place : Nat) : Nat := if index ≤ place then place + 1 else place

/-- Where an index goes when the line at another one, or at the same, is erased. -/
def pulledUp (index place : Nat) : Nat := if index < place then place - 1 else place

theorem indexOf?_inserted (formed : body.WellFormed) (instr : Instr) (inside : index ≤ body.length)
    (listed : body.indexOf? id = some place) :
    (body.inserted index instr).indexOf? id = some (pushedDown index place) := by
  refine indexOf?_of_idAt? (formed.inserted index instr inside).distinct ?_
  have here := idAt?_of_indexOf? listed
  rw [idAt?_eq] at here
  rw [idAt?_eq, ids_inserted, pushedDown]
  split
  · rw [List.getElem?_insertIdx_of_gt (by omega), Nat.add_sub_cancel, here]
  · rw [List.getElem?_insertIdx_of_lt (by omega), here]

theorem endIndex?_inserted (formed : body.WellFormed) (instr : Instr)
    (inside : index ≤ body.length) (ends : body.endIndex? anchor = some place) :
    (body.inserted index instr).endIndex? anchor = some (pushedDown index place) := by
  cases anchor with
  | some id => exact indexOf?_inserted formed instr inside ends
  | none =>
    have same : body.length = place := Option.some.inj ends
    subst same
    rw [length_eq] at inside
    simp [endIndex?, length_eq, List.length_insertIdx, pushedDown, inside]

theorem span?_inserted (formed : body.WellFormed) (instr : Instr) (inside : index ≤ body.length)
    (spans : body.span? block = some (start, stop)) :
    (body.inserted index instr).span? block =
      some (pushedDown index start, pushedDown index stop) := by
  obtain ⟨starts, ends⟩ := span?_eq_some.1 spans
  exact span?_eq_some.2
    ⟨indexOf?_inserted formed instr inside starts, endIndex?_inserted formed instr inside ends⟩

theorem indexOf?_erased (formed : body.WellFormed) (found : body.idAt? index = some id)
    {other : InstrId} (apart : other ≠ id) (listed : body.indexOf? other = some place) :
    (body.erased index).indexOf? other = some (pulledUp index place) := by
  refine indexOf?_of_idAt? (formed.erased found).distinct ?_
  have here := idAt?_of_indexOf? listed
  have elsewhere : place ≠ index := by
    rintro rfl
    exact apart (Option.some.inj (here.symm.trans found))
  rw [idAt?_eq] at here
  rw [idAt?_eq, ids_erased, pulledUp]
  split
  · rw [List.getElem?_eraseIdx_of_ge (by omega), Nat.sub_add_cancel (by omega), here]
  · rw [List.getElem?_eraseIdx_of_lt (by omega), here]

theorem length_erased (found : body.idAt? index = some id) :
    (body.erased index).length = body.length - 1 := by
  have inside := lt_of_idAt? found
  rw [length_eq] at inside
  rw [length_eq, length_eq, ids_erased, List.length_eraseIdx_of_lt inside]

/-- A boundary at the erased line goes to the line that takes its index, or to the end. -/
theorem endIndex?_erased (formed : body.WellFormed) (found : body.idAt? index = some id)
    (ends : body.endIndex? anchor = some place) :
    (body.erased index).endIndex?
        (if anchor = some id then body.idAt? (index + 1) else anchor) =
      some (pulledUp index place) := by
  have inside := lt_of_idAt? found
  cases anchor with
  | none =>
    have same : body.length = place := Option.some.inj ends
    subst same
    simp [endIndex?, length_erased found, pulledUp, inside]
  | some other =>
    by_cases same : other = id
    · subst same
      have here : index = place :=
        Option.some.inj ((indexOf?_of_idAt? formed.distinct found).symm.trans ends)
      subst here
      cases next : body.idAt? (index + 1) with
      | none =>
        have short := idAt?_eq_none.1 next
        simp only [if_true, endIndex?, length_erased found, pulledUp]
        simp
        omega
      | some successor =>
        have moved : (body.erased index).idAt? index = some successor := by
          rw [idAt?_eq, ids_erased, List.getElem?_eraseIdx_of_ge (Nat.le_refl _), ← idAt?_eq, next]
        simpa [endIndex?, pulledUp] using indexOf?_of_idAt? (formed.erased found).distinct moved
    · simpa [endIndex?, same] using indexOf?_erased formed found same ends

/-- A block whose first line is erased begins at the next one. -/
theorem span?_erased (formed : body.WellFormed) (found : body.idAt? index = some id)
    (free : body.idAt? (index + 1) = none → block.start ≠ id)
    (spans : body.span? block = some (start, stop)) :
    (body.erased index).span? (block.moved id (body.idAt? (index + 1))) =
      some (pulledUp index start, pulledUp index stop) := by
  obtain ⟨starts, ends⟩ := span?_eq_some.1 spans
  have started : body.endIndex? (some block.start) = some start := starts
  have moved := endIndex?_erased formed found started
  refine span?_eq_some.2 ⟨?_, endIndex?_erased formed found ends⟩
  by_cases same : block.start = id
  · cases next : body.idAt? (index + 1) with
    | none => exact absurd same (free next)
    | some successor => simpa [Block.moved, same, next, endIndex?] using moved
  · simpa [Block.moved, same, endIndex?] using moved

theorem span?_of_ids {after : Body} (same : after.ids = body.ids) (block : Block) :
    after.span? block = body.span? block := by
  have lengths : after.length = body.length := by rw [length_eq, length_eq, same]
  cases stops : block.stop <;> simp [span?, endIndex?, indexOf?_eq, same, lengths, stops]

/-- A line that may go leaves no block that would have to begin behind the last line. -/
theorem not_startsAt_of_obstacle? {moving : Bool}
    (free : body.obstacle? index moving id = none) (present : region ∈ body.regions)
    (last : body.idAt? (index + 1) = none) : region.startsAt id = false := by
  unfold obstacle? at free
  split at free
  · unfold fixedTie? at free
    rw [List.findSome?_eq_none_iff] at free
    obtain ⟨number, inside, rfl⟩ := List.getElem_of_mem present
    have untied := free (body.regions[number], number)
      (List.mk_mem_zipIdx_iff_getElem?.2 (List.getElem?_eq_getElem inside))
    simpa [last] using untied
  · have bare := tie?_eq_none.1 free region present
    cases starts : region.startsAt id with
    | false => rfl
    | true =>
      simp only [Region.startsAt, Bool.or_eq_true, decide_eq_true_eq] at starts
      rcases starts with (same | same) | same <;> simp [Region.boundsAt, same] at bare

theorem start_ne_of_startsAt {kind : BlockKind} (free : region.startsAt id = false)
    (found : region.block? kind = some block) : block.start ≠ id := by
  simp only [Region.startsAt, Bool.or_eq_false_iff, decide_eq_false_iff_not] at free
  cases kind with
  | tried => cases found; exact free.1.1
  | handler => cases found; exact free.1.2
  | filter =>
    obtain ⟨filter, opening, rfl⟩ := Option.map_eq_some_iff.1 found
    rintro rfl
    exact free.2 opening

end Body
end Retrofit

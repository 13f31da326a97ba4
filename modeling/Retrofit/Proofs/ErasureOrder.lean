import Mathlib
import Retrofit.Proofs.Body.Blocks
import Retrofit.Proofs.Reachable

/-!
Erasing lines one by one. Every erasure hands labels and boundaries to the next line only, which may
be erased itself later on; yet in whatever order a set of lines is erased, all of them end at the
first line that stays (`erased_in_any_order`).
-/

namespace Retrofit

/-- A place moved to where lines go. -/
def LabelPlace.shifted (next : InstrId → Option InstrId) : LabelPlace → LabelPlace
  | .line id => before (next id)
  | place => place

namespace Region

/-- The lines at which blocks of a region begin. -/
def starts (region : Region) : List InstrId :=
  [region.tryStart, region.handlerStart] ++ region.filterStart.toList

/-- The region with other boundaries. -/
def withBounds (region : Region) (start : InstrId → InstrId)
    (stop : Option InstrId → Option InstrId) : Region :=
  { region with
    tryStart := start region.tryStart
    tryEnd := stop region.tryEnd
    handlerStart := start region.handlerStart
    handlerEnd := stop region.handlerEnd
    filterStart := region.filterStart.map start }

/-- The region with its boundaries moved to where lines go. A block cannot begin behind the last
line. -/
def shifted (region : Region) (next : InstrId → Option InstrId) : Region :=
  region.withBounds (fun id => (next id).getD id) (·.bind next)

end Region

namespace Body

/-- The first line that stays when others go, from a line on. -/
def survivor? (body : Body) (gone : Finset InstrId) (id : InstrId) : Option InstrId :=
  (body.ids.dropWhile fun other => other ≠ id).find? fun other => other ∉ gone

/-- The body without some lines. Their labels and boundaries are at the first line that stays, or at
the end. -/
def without (body : Body) (gone : Finset InstrId) : Body :=
  { body with
    lines := body.lines.filter fun line => line.id ∉ gone
    labels := body.labels.map (·.shifted (body.survivor? gone))
    regions := body.regions.map (·.shifted (body.survivor? gone)) }

/-- Erases a line wherever it stands by now, and moves its boundaries to the next line. -/
def eraseLine (id : InstrId) (method : String) : Edit Body Instr := do
  let body ← get
  eraseIdx ((body.indexOf? id).getD body.length) true method

/-- Erases lines one after the other. -/
def eraseEach (order : List InstrId) (method : String) : Edit Body Unit :=
  order.forM fun id => discard (eraseLine id method)

/-- What it takes to erase lines: boundaries are at lines that are there, and blocks begin at or in
front of lines that stay. -/
structure Erasable (body : Body) (gone : Finset InstrId) : Prop where
  formed : body.WellFormed
  anchored : ∀ region ∈ body.regions, ∀ id ∈ region.anchors, id ∈ body.ids
  room : ∀ region ∈ body.regions, ∀ id ∈ region.starts, (body.survivor? gone id).isSome

variable {body : Body} {gone first second : Finset InstrId} {id other : InstrId} {index : Nat}

private theorem dropWhile_split {ids before behind : List InstrId} (distinct : ids.Nodup)
    (split : ids = before ++ id :: behind) :
    (ids.dropWhile fun other => other ≠ id) = id :: behind := by
  subst split
  have apart : ∀ other ∈ before, decide (other ≠ id) = true := by
    intro other earlier
    rw [decide_eq_true_eq]
    rintro rfl
    exact (List.nodup_append.1 distinct).2.2 other earlier other List.mem_cons_self rfl
  rw [List.dropWhile_append_of_pos apart]
  simp

/-- Whatever goes first, the line that stays in the end is the same. -/
private theorem find?_dropWhile_filter {ids : List InstrId} (distinct : ids.Nodup)
    (live : id ∈ ids) :
    ((ids.dropWhile fun other => other ≠ id).find? fun other => other ∉ first).bind (fun next =>
        ((ids.filter fun other => other ∉ first).dropWhile fun other => other ≠ next).find?
          fun other => other ∉ second) =
      (ids.dropWhile fun other => other ≠ id).find? fun other => other ∉ first ∪ second := by
  obtain ⟨before, behind, split⟩ := List.append_of_mem live
  rw [dropWhile_split distinct split]
  cases found : (id :: behind).find? fun other => other ∉ first with
  | none =>
    rw [List.find?_eq_none] at found
    refine (List.find?_eq_none.2 fun other listed => ?_).symm
    have leaves : other ∈ first := by simpa using found other listed
    simp [leaves]
  | some next =>
    obtain ⟨stays, passed, rest, parts, leaving⟩ := List.find?_eq_some_iff_append.1 found
    have whole : ids = (before ++ passed) ++ next :: rest := by
      rw [split, parts, List.append_assoc]
    have kept : ids.filter (fun other => other ∉ first) =
        (before ++ passed).filter (fun other => other ∉ first) ++
          next :: rest.filter fun other => other ∉ first := by
      rw [whole, List.filter_append, List.filter_cons, if_pos stays]
    have gone (other : InstrId) (listed : other ∈ passed) : other ∈ first := by
      simpa using leaving other listed
    have skipped : passed.find? (fun other => other ∉ first ∪ second) = none := by
      refine List.find?_eq_none.2 fun other listed => ?_
      simp [gone other listed]
    have agree : (next :: rest).find? (fun other => other ∉ first ∪ second) =
        ((next :: rest).filter fun other => other ∉ first).find? fun other => other ∉ second := by
      rw [List.find?_filter]
      congr 1
      funext other
      simp
    rw [Option.bind_some, dropWhile_split (distinct.filter _) kept, parts, List.find?_append,
      skipped, Option.none_or, agree, List.filter_cons, if_pos stays]

private theorem dropWhile_eq_drop (formed : body.WellFormed) (found : body.idAt? index = some id) :
    (body.ids.dropWhile fun other => other ≠ id) = body.ids.drop index := by
  rw [idAt?_eq] at found
  obtain ⟨inside, same⟩ := List.getElem?_eq_some_iff.1 found
  have behind : body.ids.drop index = id :: body.ids.drop (index + 1) := by
    rw [← same, ← List.drop_eq_getElem_cons inside]
  have split : body.ids = body.ids.take index ++ id :: body.ids.drop (index + 1) := by
    rw [← behind, List.take_append_drop]
  rw [dropWhile_split formed.distinct split, behind]

theorem survivor?_of_stays (formed : body.WellFormed) (live : id ∈ body.ids) (stays : id ∉ gone) :
    body.survivor? gone id = some id := by
  obtain ⟨before, behind, split⟩ := List.append_of_mem live
  rw [survivor?, dropWhile_split formed.distinct split]
  simp [stays]

theorem survivor?_isSome (formed : body.WellFormed) {place : Nat}
    (found : body.idAt? index = some id) (behind : index ≤ place)
    (here : body.idAt? place = some other) (stays : other ∉ gone) :
    (body.survivor? gone id).isSome := by
  have listed : other ∈ body.ids.drop index := by
    rw [idAt?_eq] at here
    refine List.mem_of_getElem? (i := place - index) ?_
    rw [List.getElem?_drop, Nat.add_sub_cancel' behind, here]
  rw [survivor?, dropWhile_eq_drop formed found, List.find?_isSome]
  exact ⟨other, listed, by simpa using stays⟩

/-- A line that goes alone leaves its place to the next one. -/
theorem survivor?_singleton (formed : body.WellFormed) (found : body.idAt? index = some id) :
    body.survivor? {id} id = body.idAt? (index + 1) := by
  have distinct := formed.distinct.sublist (List.drop_sublist index body.ids)
  have next : (body.ids.drop index)[1]? = body.idAt? (index + 1) := by
    rw [List.getElem?_drop, idAt?_eq]
  have first : (body.ids.drop index).head? = some id := by
    rw [List.head?_drop, ← idAt?_eq, found]
  rw [survivor?, dropWhile_eq_drop formed found, ← next]
  cases lines : body.ids.drop index with
  | nil => rfl
  | cons line behind =>
    rw [lines] at distinct first
    cases first
    cases behind with
    | nil => simp
    | cons successor rest =>
      have apart : successor ≠ id := by
        rintro rfl
        exact (List.nodup_cons.1 distinct).1 List.mem_cons_self
      simp [apart]

@[simp] theorem ids_without (body : Body) (gone : Finset InstrId) :
    (body.without gone).ids = body.ids.filter fun id => id ∉ gone := by
  simp only [ids, without, Array.toList_filter, List.filter_map]
  rfl

theorem mem_ids_without : id ∈ (body.without gone).ids ↔ id ∈ body.ids ∧ id ∉ gone := by
  simp

theorem survivor?_without (formed : body.WellFormed) (live : id ∈ body.ids) :
    (body.survivor? first id).bind ((body.without first).survivor? second) =
      body.survivor? (first ∪ second) id := by
  unfold survivor?
  rw [ids_without]
  exact find?_dropWhile_filter formed.distinct live

theorem mem_of_survivor? (found : body.survivor? gone id = some other) :
    other ∈ body.ids ∧ other ∉ gone := by
  refine ⟨?_, by simpa using List.find?_some found⟩
  exact (List.dropWhile_sublist _).subset (List.mem_of_find?_eq_some found)

end Body

variable {next first second both : InstrId → Option InstrId} {id source : InstrId}

theorem LabelPlace.shifted_shifted {place : LabelPlace}
    (agree : ∀ id, place = .line id → (first id).bind second = both id) :
    (place.shifted first).shifted second = place.shifted both := by
  cases place with
  | line id =>
    simp only [shifted, ← agree id rfl]
    cases first id <;> rfl
  | atEnd => rfl
  | unplaced => rfl

namespace Region

variable {region : Region}

theorem mem_anchors_of_starts (opens : id ∈ region.starts) : id ∈ region.anchors := by
  simp only [starts, anchors, List.mem_append] at opens ⊢
  rcases opens with first | filter
  · exact .inl (.inl (.inl first))
  · exact .inr filter

/-- What becomes of the lines at which a region is tied to its body. -/
theorem mem_anchors_shifted (room : ∀ id ∈ region.starts, (next id).isSome)
    (anchor : id ∈ (region.shifted next).anchors) : ∃ old ∈ region.anchors, next old = some id := by
  have started (old : InstrId) (opens : old ∈ region.starts) (moved : (next old).getD old = id) :
      ∃ old ∈ region.anchors, next old = some id := by
    refine ⟨old, mem_anchors_of_starts opens, ?_⟩
    obtain ⟨target, found⟩ := Option.isSome_iff_exists.1 (room old opens)
    rw [← moved, found, Option.getD_some]
  have stopped (old : Option InstrId) (ends : ∀ held ∈ old, held ∈ region.anchors)
      (moved : old.bind next = some id) : ∃ old ∈ region.anchors, next old = some id := by
    obtain ⟨held, rfl, found⟩ := Option.bind_eq_some_iff.1 moved
    exact ⟨held, ends held rfl, found⟩
  simp only [anchors, shifted, withBounds, List.mem_append, List.mem_cons, List.not_mem_nil,
    or_false, Option.mem_toList] at anchor
  rcases anchor with (((tried | handled) | triedEnd) | handledEnd) | filtered
  · exact started region.tryStart (by simp [starts]) tried.symm
  · exact started region.handlerStart (by simp [starts]) handled.symm
  · exact stopped region.tryEnd (by simp +contextual [anchors]) triedEnd
  · exact stopped region.handlerEnd (by simp +contextual [anchors]) handledEnd
  · obtain ⟨filter, opens, moved⟩ := Option.map_eq_some_iff.1 filtered
    exact started filter (by simp [starts, opens]) moved

theorem mem_starts_shifted (opens : id ∈ (region.shifted next).starts) :
    ∃ old ∈ region.starts, (next old).getD old = id := by
  simp only [starts, shifted, withBounds, List.mem_append, List.mem_cons, List.not_mem_nil,
    or_false, Option.mem_toList] at opens ⊢
  rcases opens with (tried | handled) | filtered
  · exact ⟨_, .inl (.inl rfl), tried.symm⟩
  · exact ⟨_, .inl (.inr rfl), handled.symm⟩
  · obtain ⟨filter, opens, moved⟩ := Option.map_eq_some_iff.1 filtered
    exact ⟨filter, .inr opens, moved⟩

theorem withBounds_congr {start otherStart : InstrId → InstrId}
    {stop otherStop : Option InstrId → Option InstrId}
    (starting : ∀ id ∈ region.starts, start id = otherStart id) (endless : stop none = otherStop none)
    (stopping : ∀ id ∈ region.anchors, stop (some id) = otherStop (some id)) :
    region.withBounds start stop = region.withBounds otherStart otherStop := by
  have ends (anchor : Option InstrId) (held : ∀ id ∈ anchor, id ∈ region.anchors) :
      stop anchor = otherStop anchor := by
    cases anchor with
    | none => exact endless
    | some id => exact stopping id (held id rfl)
  have filtered : region.filterStart.map start = region.filterStart.map otherStart := by
    cases opening : region.filterStart with
    | none => rfl
    | some filter => exact congrArg some (starting filter (by simp [starts, opening]))
  simp only [withBounds, filtered, starting region.tryStart (by simp [starts]),
    starting region.handlerStart (by simp [starts]),
    ends region.tryEnd (by simp +contextual [anchors]),
    ends region.handlerEnd (by simp +contextual [anchors])]

theorem shifted_shifted (agree : ∀ id ∈ region.anchors, (first id).bind second = both id)
    (room : ∀ id ∈ region.starts, (both id).isSome) :
    (region.shifted first).shifted second = region.shifted both := by
  have twice : (region.shifted first).shifted second =
      region.withBounds (fun id => (second ((first id).getD id)).getD ((first id).getD id))
        (fun anchor => (anchor.bind first).bind second) := by
    simp [shifted, withBounds, Function.comp_def]
  rw [twice]
  refine withBounds_congr (fun id opens => ?_) rfl agree
  have same := agree id (mem_anchors_of_starts opens)
  obtain ⟨last, arrives⟩ := Option.isSome_iff_exists.1 (room id opens)
  rw [arrives] at same ⊢
  obtain ⟨between, found, final⟩ := Option.bind_eq_some_iff.1 same
  simp [found, final]

theorem shifted_eq_self (stay : ∀ id ∈ region.anchors, next id = some id) :
    region.shifted next = region := by
  have same : region.withBounds id id = region := by simp [withBounds]
  conv_rhs => rw [← same]
  refine withBounds_congr (fun start opens => ?_) rfl stay
  rw [stay start (mem_anchors_of_starts opens)]
  rfl

/-- Moving the boundaries at one line is moving all where only those at this line go elsewhere. -/
theorem moved_eq_shifted (alone : ∀ id ∈ region.anchors, id ≠ source → next id = some id) :
    region.moved source (next source) = region.shifted next := by
  have single : region.moved source (next source) =
      region.withBounds (fun id => if id = source then (next source).getD id else id)
        (fun anchor => if anchor = some source then next source else anchor) := rfl
  rw [single]
  refine withBounds_congr (fun id opens => ?_) rfl fun id anchor => ?_
  · by_cases same : id = source
    · simp [same]
    · simp [same, alone id (mem_anchors_of_starts opens) same]
  · by_cases same : id = source
    · simp [same]
    · simp [same, alone id anchor same]

end Region

namespace Body

variable {body : Body} {gone more : Finset InstrId} {index : Nat}

private theorem eraseIdx_eq_filter {lines : List Line} {line : Line}
    (distinct : (lines.map Line.id).Nodup) (found : lines[index]? = some line) :
    lines.eraseIdx index = lines.filter fun other => other.id ∉ ({line.id} : Finset InstrId) := by
  obtain ⟨inside, same⟩ := List.getElem?_eq_some_iff.1 found
  have split : lines = lines.take index ++ line :: lines.drop (index + 1) := by
    rw [← same, ← List.drop_eq_getElem_cons inside, List.take_append_drop]
  have kept (part : List Line) (absent : line.id ∉ part.map Line.id) :
      part.filter (fun other => other.id ∉ ({line.id} : Finset InstrId)) = part := by
    refine List.filter_eq_self.2 fun other listed => ?_
    have apart : other.id ≠ line.id := fun same => absent (same ▸ List.mem_map_of_mem listed)
    simpa using apart
  rw [split, List.map_append, List.map_cons, List.nodup_append, List.nodup_cons] at distinct
  obtain ⟨_, ⟨behind, _⟩, before⟩ := distinct
  have front := kept (lines.take index) fun listed => before _ listed _ List.mem_cons_self rfl
  conv_rhs => rw [split]
  rw [List.eraseIdx_eq_take_drop_succ, List.filter_append, front, List.filter_cons,
    if_neg (by simp), kept _ behind]

/-- Erasing one line leaves the body without it. -/
theorem erased_eq_without (formed : body.WellFormed)
    (anchored : ∀ region ∈ body.regions, ∀ id ∈ region.anchors, id ∈ body.ids)
    (found : body.idAt? index = some id) : body.erased index = body.without {id} := by
  obtain ⟨line, here, rfl⟩ := Option.map_eq_some_iff.1 found
  have alone (other : InstrId) (live : other ∈ body.ids) (apart : other ≠ line.id) :
      body.survivor? {line.id} other = some other :=
    survivor?_of_stays formed live (by simpa using apart)
  have next := survivor?_singleton formed found
  have lines : body.lines.eraseIdxIfInBounds index =
      body.lines.filter fun other => other.id ∉ ({line.id} : Finset InstrId) := by
    apply Array.toList_inj.1
    rw [Array.toList_eraseIdxIfInBounds, Array.toList_filter]
    exact eraseIdx_eq_filter formed.distinct (Array.getElem?_toList ▸ here)
  have labels : body.labels.map (·.moved line.id (body.idAt? (index + 1))) =
      body.labels.map (·.shifted (body.survivor? {line.id})) := by
    refine Array.map_congr_left fun place present => ?_
    cases place with
    | line held =>
      obtain ⟨label, stands⟩ := Array.getElem?_of_mem present
      by_cases same : held = line.id
      · simp [LabelPlace.shifted, same, next]
      · have live := formed.held ⟨label⟩ held stands
        simp [LabelPlace.shifted, same, alone held live same, LabelPlace.before]
    | atEnd => rfl
    | unplaced => rfl
  have regions : body.regions.map (·.moved line.id (body.idAt? (index + 1))) =
      body.regions.map (·.shifted (body.survivor? {line.id})) := by
    refine List.map_congr_left fun region present => ?_
    rw [← next]
    exact Region.moved_eq_shifted fun id anchor => alone id (anchored region present id anchor)
  rw [erased_eq found, lines, labels, regions, without]

/-- Lines that go away one after the other go away together. -/
theorem Erasable.without_without (fit : body.Erasable (gone ∪ more)) :
    (body.without gone).without more = body.without (gone ∪ more) := by
  have agree (id : InstrId) (live : id ∈ body.ids) :
      (body.survivor? gone id).bind ((body.without gone).survivor? more) =
        body.survivor? (gone ∪ more) id :=
    survivor?_without fit.formed live
  have lines : (body.lines.filter fun line => line.id ∉ gone).filter (fun line => line.id ∉ more) =
      body.lines.filter fun line => line.id ∉ gone ∪ more := by
    rw [Array.filter_filter]
    congr 1
    funext line
    simp [Bool.and_comm]
  have labels : (body.labels.map (·.shifted (body.survivor? gone))).map
      (·.shifted ((body.without gone).survivor? more)) =
        body.labels.map (·.shifted (body.survivor? (gone ∪ more))) := by
    rw [Array.map_map]
    refine Array.map_congr_left fun place present => ?_
    obtain ⟨label, stands⟩ := Array.getElem?_of_mem present
    refine LabelPlace.shifted_shifted fun id line => agree id ?_
    exact fit.formed.held ⟨label⟩ id (line ▸ stands)
  have regions : (body.regions.map (·.shifted (body.survivor? gone))).map
      (·.shifted ((body.without gone).survivor? more)) =
        body.regions.map (·.shifted (body.survivor? (gone ∪ more))) := by
    rw [List.map_map]
    refine List.map_congr_left fun region present => ?_
    refine Region.shifted_shifted (fun id anchor => agree id ?_) (fit.room region present)
    exact fit.anchored region present id anchor
  have parts : (body.without gone).without more =
      { body with
        lines := (body.lines.filter fun line => line.id ∉ gone).filter fun line => line.id ∉ more
        labels := (body.labels.map (·.shifted (body.survivor? gone))).map
          (·.shifted ((body.without gone).survivor? more))
        regions := (body.regions.map (·.shifted (body.survivor? gone))).map
          (·.shifted ((body.without gone).survivor? more)) } := rfl
  rw [parts, lines, labels, regions, without]

/-- Lines can go away in two parts. -/
theorem Erasable.rest (fit : body.Erasable (gone ∪ more)) (formed : (body.without gone).WellFormed) :
    (body.without gone).Erasable more where
  formed := formed
  anchored := by
    intro region present id anchor
    obtain ⟨old, listed, rfl⟩ := List.mem_map.1 present
    have stays (start : InstrId) (opens : start ∈ old.starts) :
        (body.survivor? gone start).isSome := by
      have live := fit.anchored old listed start (Region.mem_anchors_of_starts opens)
      have room := fit.room old listed start opens
      rw [← survivor?_without fit.formed live] at room
      exact Option.isSome_of_isSome_bind room
    obtain ⟨source, _, moved⟩ := Region.mem_anchors_shifted stays anchor
    exact mem_ids_without.2 (mem_of_survivor? moved)
  room := by
    intro region present id opens
    obtain ⟨old, listed, rfl⟩ := List.mem_map.1 present
    obtain ⟨source, began, moved⟩ := Region.mem_starts_shifted opens
    have live := fit.anchored old listed source (Region.mem_anchors_of_starts began)
    obtain ⟨last, arrives⟩ := Option.isSome_iff_exists.1 (fit.room old listed source began)
    rw [← survivor?_without fit.formed live] at arrives
    obtain ⟨between, found, final⟩ := Option.bind_eq_some_iff.1 arrives
    rw [found, Option.getD_some] at moved
    rw [← moved, final]
    rfl

/-- A line that may go is not in the way of a region. -/
theorem Erasable.obstacle?_eq_none (fit : body.Erasable gone) (found : body.idAt? index = some id)
    (leaves : id ∈ gone) : body.obstacle? index true id = none := by
  rw [obstacle?, if_pos rfl, fixedTie?, List.findSome?_eq_none_iff]
  rintro ⟨region, number⟩ entry
  have present : region ∈ body.regions :=
    List.mem_of_getElem? (List.mk_mem_zipIdx_iff_getElem?.1 entry)
  refine if_neg fun tied => ?_
  simp only [Bool.and_eq_true, decide_eq_true_eq] at tied
  obtain ⟨last, begins⟩ := tied
  have opens : id ∈ region.starts := by
    simp only [Region.startsAt, Bool.or_eq_true, decide_eq_true_eq] at begins
    rcases begins with (rfl | rfl) | filter
    · simp [Region.starts]
    · simp [Region.starts]
    · simp [Region.starts, filter]
  have room := fit.room region present id opens
  rw [← Finset.insert_eq_of_mem leaves, Finset.insert_eq,
    ← survivor?_without fit.formed (mem_ids_of_idAt? found),
    survivor?_singleton fit.formed found, last] at room
  cases room

/-- A line that may go leaves the body without it. -/
theorem Erasable.apply_eraseLine (fit : body.Erasable gone) (live : id ∈ body.ids)
    (leaves : id ∈ gone) (method : String) :
    ∃ instr, (eraseLine id method).apply body = (.ok instr, body.without {id}) := by
  obtain ⟨index, listed⟩ := exists_indexOf? live
  have found := idAt?_of_indexOf? listed
  obtain ⟨line, here, rfl⟩ := Option.map_eq_some_iff.1 found
  refine ⟨line.instr, ?_⟩
  rw [eraseLine, Edit.apply_bind]
  simp only [Edit.apply_get, listed, Option.getD_some, apply_eraseIdx, here,
    fit.obstacle?_eq_none found leaves, erased_eq_without fit.formed fit.anchored found]

theorem Erasable.without_empty (fit : body.Erasable ∅) : body.without ∅ = body := by
  have stays (id : InstrId) (live : id ∈ body.ids) : body.survivor? ∅ id = some id :=
    survivor?_of_stays fit.formed live (Finset.notMem_empty id)
  have lines : (body.lines.filter fun line => line.id ∉ (∅ : Finset InstrId)) = body.lines := by
    simp
  have labels : body.labels.map (·.shifted (body.survivor? ∅)) = body.labels.map id := by
    refine Array.map_congr_left fun place present => ?_
    cases place with
    | line held =>
      obtain ⟨label, stands⟩ := Array.getElem?_of_mem present
      simp [LabelPlace.shifted, stays held (fit.formed.held ⟨label⟩ held stands), LabelPlace.before]
    | atEnd => rfl
    | unplaced => rfl
  have regions : body.regions.map (·.shifted (body.survivor? ∅)) = body.regions.map id := by
    refine List.map_congr_left fun region present => ?_
    exact Region.shifted_eq_self fun id anchor => stays id (fit.anchored region present id anchor)
  rw [without, lines, labels, regions, Array.map_id, List.map_id]

/-- Lines that may go all go, and nothing else happens. -/
theorem Erasable.apply_eraseEach {order : List InstrId} (fit : body.Erasable order.toFinset)
    (live : ∀ id ∈ order, id ∈ body.ids) (once : order.Nodup) (method : String) :
    (eraseEach order method).apply body = (.ok (), body.without order.toFinset) := by
  induction order generalizing body with
  | nil =>
    rw [List.toFinset_nil] at fit ⊢
    rw [fit.without_empty]
    rfl
  | cons id rest ih =>
    obtain ⟨absent, onceRest⟩ := List.nodup_cons.1 once
    obtain ⟨instr, erased⟩ := fit.apply_eraseLine (live id List.mem_cons_self) (by simp) method
    rw [List.toFinset_cons, Finset.insert_eq] at fit ⊢
    have formed : (body.without {id}).WellFormed := by
      obtain ⟨index, listed⟩ := exists_indexOf? (live id List.mem_cons_self)
      have found := idAt?_of_indexOf? listed
      rw [← erased_eq_without fit.formed fit.anchored found]
      exact fit.formed.erased found
    have liveRest : ∀ other ∈ rest, other ∈ (body.without {id}).ids := by
      intro other listed
      refine mem_ids_without.2 ⟨live other (List.mem_cons_of_mem _ listed), ?_⟩
      rw [Finset.mem_singleton]
      rintro rfl
      exact absent listed
    have further := ih (fit.rest formed) liveRest onceRest
    have next : eraseEach (id :: rest) method =
        (discard (eraseLine id method) >>= fun _ => eraseEach rest method) := rfl
    rw [next, Edit.apply_bind, Edit.apply_discard, erased]
    rw [fit.without_without] at further
    exact further

/-- The order in which lines are erased makes no difference. If every block of a region begins at or
in front of a line that stays, no erasure fails, and in the end exactly these lines are gone, with all
labels and boundaries that stood at one of them at the first line that stays behind it. -/
theorem erased_in_any_order {start : Body} (reachable : start.Reachable)
    (anchored : ∀ region ∈ start.regions, ∀ id ∈ region.anchors, id ∈ start.ids)
    (gone : Finset InstrId) (live : ∀ id ∈ gone, id ∈ start.ids)
    (room : ∀ region ∈ start.regions, ∀ id ∈ region.starts, ∃ first place survivor,
      start.idAt? first = some id ∧ first ≤ place ∧ start.idAt? place = some survivor ∧
        survivor ∉ gone)
    (order : List InstrId) (once : order.Nodup) (all : order.toFinset = gone) (method : String) :
    (eraseEach order method).apply start = (.ok (), start.without gone) := by
  have formed := reachable.wellFormed
  subst all
  refine Erasable.apply_eraseEach ⟨formed, anchored, ?_⟩ (by simpa using live) once method
  intro region present id opens
  obtain ⟨first, place, survivor, found, behind, here, stays⟩ := room region present id opens
  exact survivor?_isSome formed found behind here stays

/-- A body with a jump to the line at which its handler begins. -/
def jumpsToHandler : Body :=
  { Body.after {} [.newLabel, .append ⟨.leave, .label ⟨0⟩⟩, .append ⟨.nop, .none⟩,
      .append ⟨.pop, .none⟩, .append ⟨.ret, .none⟩, .placeLabel ⟨0⟩ 2] with
    regions := [⟨2, ⟨0⟩, some ⟨2⟩, ⟨2⟩, none, none, none⟩] }

/-- When the first line of the handler and then the one in front of it are erased, the label and both
boundaries are at the last line. -/
theorem erased_around_handler :
    (eraseEach [⟨2⟩, ⟨1⟩] "M").apply jumpsToHandler =
        (.ok (), jumpsToHandler.without {⟨1⟩, ⟨2⟩}) ∧
      (jumpsToHandler.without {⟨1⟩, ⟨2⟩}).regions =
        [⟨2, ⟨0⟩, some ⟨3⟩, ⟨3⟩, none, none, none⟩] ∧
      (jumpsToHandler.without {⟨1⟩, ⟨2⟩}).labels = #[.line ⟨3⟩] := by
  have reachable : jumpsToHandler.Reachable := .dressed (Reachable.empty.after _) _ _ _ _
  have ids : jumpsToHandler.ids = [⟨0⟩, ⟨1⟩, ⟨2⟩, ⟨3⟩] := by cbv
  refine ⟨erased_in_any_order reachable ?_ {⟨1⟩, ⟨2⟩} ?_ ?_ [⟨2⟩, ⟨1⟩] (by decide) (by decide) "M",
    by decide +kernel, by decide +kernel⟩
  · intro region present id anchor
    rw [List.mem_singleton.1 present] at anchor
    rw [ids]
    revert id
    decide
  · rw [ids]
    decide
  · intro region present id opens
    rw [List.mem_singleton.1 present] at opens
    have starts : id = ⟨0⟩ ∨ id = ⟨2⟩ := by simpa [Region.starts] using opens
    rcases starts with rfl | rfl
    · exact ⟨0, 3, ⟨3⟩, by cbv, by decide, by cbv, by decide⟩
    · exact ⟨2, 3, ⟨3⟩, by cbv, by decide, by cbv, by decide⟩

end Body
end Retrofit

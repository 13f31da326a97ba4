import Mathlib.Data.Finset.Basic
import Mathlib.Data.Finset.Dedup
import Mathlib.Data.List.InsertIdx
import Retrofit.Proofs.Body.Change

/-!
A body as one flat text: its lines in order, each behind the labels that stand at it, and at the end
the labels that wait for a line. Every change of a body is an edit of this text.
-/

namespace Retrofit

/-- A line behind its labels. -/
structure Listing.Entry where
  labels : Finset LabelId
  line : Line

/-- The text of a body: the lines with their labels, and the labels behind the last line. -/
@[ext] structure Listing where
  entries : List Listing.Entry
  ending : Finset LabelId

namespace Listing

/-- The text with labels put to those at an index, which are at the end where no line has it. -/
def joined (listing : Listing) (index : Nat) (labels : Finset LabelId) : Listing :=
  if index < listing.entries.length then
    { listing with
      entries := listing.entries.modify index fun entry =>
        { entry with labels := entry.labels ∪ labels } }
  else
    { listing with ending := listing.ending ∪ labels }

theorem getElem?_entries_joined (listing : Listing) (index : Nat) (labels : Finset LabelId)
    (place : Nat) :
    (listing.joined index labels).entries[place]? =
      listing.entries[place]?.map fun entry =>
        if index = place then { entry with labels := entry.labels ∪ labels } else entry := by
  unfold joined
  split
  · rw [List.getElem?_modify]
    rfl
  · next beyond =>
    by_cases same : index = place
    · have missing : listing.entries[place]? = none := List.getElem?_eq_none (by omega)
      simp [missing]
    · simp [same]

theorem ending_joined (listing : Listing) (index : Nat) (labels : Finset LabelId) :
    (listing.joined index labels).ending =
      listing.ending ∪ if index < listing.entries.length then ∅ else labels := by
  unfold joined
  split <;> simp

/-- The text without a label. -/
def without (listing : Listing) (label : LabelId) : Listing where
  entries := listing.entries.map fun entry => { entry with labels := entry.labels.erase label }
  ending := listing.ending.erase label

/-- The labels in front of a line. -/
def labelsOf (listing : Listing) (id : InstrId) : Finset LabelId :=
  ((listing.entries.find? fun entry => entry.line.id = id).map Entry.labels).getD ∅

/-- An edit of the text. -/
inductive Edit where
  | insertFront (index : Nat) (line : Line)
  | insertBehind (index : Nat) (line : Line)
  | erase (index : Nat)
  | mark (label : LabelId) (index : Nat)
  | transfer (source target : InstrId)
  | rewrite (instrs : List Instr)

/-- The text after an edit. A line is inserted in front of the labels at an index or behind them; an
erased line leaves its labels in place; marking takes a label from wherever it is; rewriting changes
nothing but the instructions. -/
def edited (listing : Listing) : Edit → Listing
  | .insertFront index line =>
    { listing with entries := listing.entries.insertIdx index ⟨∅, line⟩ }
  | .insertBehind index line =>
    match listing.entries[index]? with
    | some entry =>
      { listing with
        entries := (listing.entries.set index ⟨∅, entry.line⟩).insertIdx index
          ⟨entry.labels, line⟩ }
    | none => ⟨listing.entries ++ [⟨listing.ending, line⟩], ∅⟩
  | .erase index =>
    match listing.entries[index]? with
    | some entry =>
      { listing with entries := listing.entries.eraseIdx index }.joined index entry.labels
    | none => listing
  | .mark label index => (listing.without label).joined index {label}
  | .transfer source target =>
    { listing with
      entries := listing.entries.map fun entry =>
        { entry with
          labels := (if entry.line.id = source then ∅ else entry.labels) ∪
            if target = entry.line.id then listing.labelsOf source else ∅ } }
  | .rewrite instrs =>
    { listing with
      entries := listing.entries.zipWith
        (fun entry instr => { entry with line := ⟨entry.line.id, instr⟩ }) instrs }

end Listing

namespace Body

/-- The labels with a place. -/
def labelsOn (body : Body) (place : LabelPlace) : Finset LabelId :=
  (body.labelsPlaced place).toFinset

/-- A line of the body with its labels. -/
def entry (body : Body) (line : Line) : Listing.Entry := ⟨body.labelsOn (.line line.id), line⟩

/-- The text of a body. -/
def listing (body : Body) : Listing where
  entries := body.lines.toList.map body.entry
  ending := body.labelsOn .atEnd

variable {body after : Body} {index : Nat} {id : InstrId} {line : Line} {label : LabelId}
  {place : LabelPlace}

@[simp] theorem mem_labelsOn : label ∈ body.labelsOn place ↔ body.placeOf? label = some place := by
  rw [labelsOn, List.mem_toFinset, mem_labelsPlaced]

theorem entries_getElem? (body : Body) (index : Nat) :
    body.listing.entries[index]? = body.lines[index]?.map body.entry := by
  simp [listing]

@[simp] theorem length_entries (body : Body) : body.listing.entries.length = body.length := by
  simp [listing, length]

/-- No label stands at a line that is not there. -/
theorem WellFormed.labelsOn_line (formed : body.WellFormed) (absent : id ∉ body.ids) :
    body.labelsOn (.line id) = ∅ := by
  ext label
  rw [mem_labelsOn]
  exact iff_of_false (fun stands => absent (formed.held label id stands)) (Finset.notMem_empty _)

theorem WellFormed.index_eq (formed : body.WellFormed) {other : Nat} {second : Line}
    (first : body.lines[index]? = some line) (again : body.lines[other]? = some second)
    (same : second.id = line.id) : other = index := by
  have here := indexOf?_of_idAt? formed.distinct (idAt?_of_line first)
  have there := indexOf?_of_idAt? formed.distinct (idAt?_of_line again)
  rw [same, here] at there
  exact (Option.some.inj there).symm

theorem WellFormed.labelsOf_listing (formed : body.WellFormed) (id : InstrId) :
    body.listing.labelsOf id = body.labelsOn (.line id) := by
  unfold Listing.labelsOf
  cases found : body.listing.entries.find? fun entry => entry.line.id = id with
  | some entry =>
    obtain ⟨line, _, rfl⟩ := List.mem_map.1 (List.mem_of_find?_eq_some found)
    have accepted := List.find?_some found
    have same : line.id = id := of_decide_eq_true accepted
    subst same
    rfl
  | none =>
    refine (formed.labelsOn_line ?_).symm
    intro live
    obtain ⟨line, present, same⟩ := List.mem_map.1 live
    have missing := List.find?_eq_none.1 found _ (List.mem_map_of_mem present)
    simp [Body.entry, same] at missing

theorem labelsOn_of_places (same : ∀ label, after.placeOf? label = body.placeOf? label) :
    after.labelsOn = body.labelsOn := by
  funext place
  ext label
  simp [same]

private theorem mem_if {c : Prop} [Decidable c] {labels : Finset LabelId} :
    (label ∈ if c then labels else ∅) ↔ c ∧ label ∈ labels := by
  split <;> simp_all

private theorem mem_unless {c : Prop} [Decidable c] {labels : Finset LabelId} :
    (label ∈ if c then ∅ else labels) ↔ ¬ c ∧ label ∈ labels := by
  split <;> simp_all

/-- Labels that move leave nothing behind at a line and join those at their new one. -/
theorem labelsOn_line_moved {source : InstrId} {target : Option InstrId}
    (moved : ∀ label, after.placeOf? label = (body.placeOf? label).map (·.moved source target))
    (id : InstrId) :
    after.labelsOn (.line id) =
      (if id = source then ∅ else body.labelsOn (.line id)) ∪
        if target = some id then body.labelsOn (.line source) else ∅ := by
  ext label
  simp only [Finset.mem_union, mem_if, mem_unless, mem_labelsOn, moved]
  cases place : body.placeOf? label with
  | none => simp
  | some held =>
    cases held with
    | line old =>
      by_cases leaving : old = source
      · subst leaving
        cases target <;> simp [LabelPlace.before, eq_comm]
      · simp [leaving]
        rintro rfl
        exact leaving
    | atEnd => simp
    | unplaced => simp

theorem labelsOn_atEnd_moved {source : InstrId} {target : Option InstrId}
    (moved : ∀ label, after.placeOf? label = (body.placeOf? label).map (·.moved source target)) :
    after.labelsOn .atEnd =
      body.labelsOn .atEnd ∪ if target = none then body.labelsOn (.line source) else ∅ := by
  ext label
  simp only [Finset.mem_union, mem_if, mem_labelsOn, moved]
  cases place : body.placeOf? label with
  | none => simp
  | some held =>
    cases held with
    | line old =>
      by_cases leaving : old = source
      · cases target <;> simp [LabelPlace.before, leaving]
      · simp [leaving]
    | atEnd => simp
    | unplaced => simp

/-- The text of a body whose labels stay where they are. -/
theorem listing_of_places (same : ∀ label, after.placeOf? label = body.placeOf? label) :
    after.listing = ⟨after.lines.toList.map body.entry, body.labelsOn .atEnd⟩ := by
  have sets := labelsOn_of_places same
  have entries : after.entry = body.entry := funext fun line => by simp [entry, sets]
  rw [listing, entries, sets]

theorem listing_inserted (formed : body.WellFormed) (instr : Instr) (inside : index < body.length) :
    (body.inserted index instr).listing =
      body.listing.edited (.insertFront index ⟨⟨body.nextId⟩, instr⟩) := by
  have stay (label : LabelId) :
      (body.inserted index instr).placeOf? label = body.placeOf? label := by
    simp [Nat.ne_of_lt inside]
  rw [listing_of_places stay, lines_inserted, List.map_insertIdx, entry,
    formed.labelsOn_line formed.fresh]
  rfl

theorem WellFormed.ne_fresh (formed : body.WellFormed) (present : line ∈ body.lines.toList) :
    line.id ≠ ⟨body.nextId⟩ := by
  intro same
  exact formed.fresh (same ▸ List.mem_map_of_mem present)

/-- A new last line takes the labels at the end. -/
theorem listing_appended (formed : body.WellFormed) (instr : Instr) :
    (body.inserted body.length instr).listing =
      body.listing.edited (.insertBehind body.length ⟨⟨body.nextId⟩, instr⟩) := by
  have places (label : LabelId) : (body.inserted body.length instr).placeOf? label =
      (body.placeOf? label).map (·.settled ⟨body.nextId⟩) := by simp
  have atLine (id : InstrId) : (body.inserted body.length instr).labelsOn (.line id) =
      body.labelsOn (.line id) ∪ if id = ⟨body.nextId⟩ then body.labelsOn .atEnd else ∅ := by
    ext label
    simp only [Finset.mem_union, mem_if, mem_labelsOn, places]
    cases body.placeOf? label with
    | none => simp
    | some place => cases place <;> simp [LabelPlace.settled, eq_comm]
  have atEnd : (body.inserted body.length instr).labelsOn .atEnd = ∅ := by
    ext label
    rw [mem_labelsOn, places]
    cases body.placeOf? label with
    | none => simp
    | some place => cases place <;> simp [LabelPlace.settled]
  have kept : body.lines.toList.map (body.inserted body.length instr).entry =
      body.lines.toList.map body.entry := by
    refine List.map_congr_left fun line present => ?_
    simp [entry, atLine, formed.ne_fresh present]
  have new : (body.inserted body.length instr).entry ⟨⟨body.nextId⟩, instr⟩ =
      ⟨body.labelsOn .atEnd, ⟨⟨body.nextId⟩, instr⟩⟩ := by
    simp [entry, atLine, formed.labelsOn_line formed.fresh]
  have missing : body.listing.entries[body.length]? = none := by simp [length_entries]
  simp only [Listing.edited, missing]
  have size : body.length = (body.lines.toList.map body.entry).length := by simp [length]
  rw [listing, lines_inserted, List.map_insertIdx, kept, new, atEnd, size,
    List.insertIdx_length_self]
  rfl

private theorem map_entry_of_bared (formed : body.WellFormed) (here : body.lines[index]? = some line)
    {entry : Line → Listing.Entry} (bared : entry line = ⟨∅, line⟩)
    (others : ∀ other ∈ body.lines.toList, other.id ≠ line.id → entry other = body.entry other) :
    body.lines.toList.map entry = body.listing.entries.set index ⟨∅, line⟩ := by
  have inside := lt_of_idAt? (idAt?_of_line here)
  apply List.ext_getElem?
  intro place
  rw [List.getElem?_map, List.getElem?_set, length_entries, entries_getElem?, Array.getElem?_toList]
  cases there : body.lines[place]? with
  | none =>
    have elsewhere : index ≠ place := by
      rintro rfl
      simp [here] at there
    simp [elsewhere]
  | some other =>
    by_cases same : index = place
    · subst same
      cases here.symm.trans there
      simp [bared, inside]
    · have differ : other.id ≠ line.id := fun equal =>
        same (formed.index_eq here there equal).symm
      have present := List.mem_of_getElem? (Array.getElem?_toList ▸ there)
      simp [others other present differ, same]

/-- A new line that takes over the labels of the line at its index stands between the two. -/
theorem listing_displaced (formed : body.WellFormed) (instr : Instr) {displaced : InstrId}
    (found : body.idAt? index = some displaced) :
    ((body.inserted index instr).labelsMoved displaced ⟨body.nextId⟩).listing =
      body.listing.edited (.insertBehind index ⟨⟨body.nextId⟩, instr⟩) := by
  obtain ⟨line, here, rfl⟩ := Option.map_eq_some_iff.1 found
  have inside := lt_of_idAt? found
  have places (label : LabelId) :
      ((body.inserted index instr).labelsMoved line.id ⟨body.nextId⟩).placeOf? label =
        (body.placeOf? label).map (·.moved line.id (some ⟨body.nextId⟩)) := by
    simp [Nat.ne_of_lt inside]
  have atLine := labelsOn_line_moved places
  have present := List.mem_of_getElem? (Array.getElem?_toList ▸ here)
  have new : ((body.inserted index instr).labelsMoved line.id ⟨body.nextId⟩).entry
      ⟨⟨body.nextId⟩, instr⟩ = ⟨body.labelsOn (.line line.id), ⟨⟨body.nextId⟩, instr⟩⟩ := by
    have apart := (formed.ne_fresh present).symm
    simp [entry, atLine, apart, formed.labelsOn_line formed.fresh]
  have left : body.lines.toList.map
      ((body.inserted index instr).labelsMoved line.id ⟨body.nextId⟩).entry =
        body.listing.entries.set index ⟨∅, line⟩ := by
    refine map_entry_of_bared formed here ?_ fun other listed differ => ?_
    · have apart := (formed.ne_fresh present).symm
      simp [entry, atLine, apart]
    · have apart := (formed.ne_fresh listed).symm
      simp [entry, atLine, apart, differ]
  have found : body.listing.entries[index]? = some (body.entry line) := by
    rw [entries_getElem?, here]
    rfl
  have ending : ((body.inserted index instr).labelsMoved line.id ⟨body.nextId⟩).labelsOn .atEnd =
      body.labelsOn .atEnd := by
    simp [labelsOn_atEnd_moved places]
  rw [listing, ending]
  simp only [Listing.edited, found]
  show Listing.mk ((body.inserted index instr).lines.toList.map _) _ = _
  rw [lines_inserted, List.map_insertIdx, new, left]
  rfl

theorem entry_erased (formed : body.WellFormed) (here : body.lines[index]? = some line)
    {place : Nat} {other : Line} (there : body.lines[place]? = some other) (apart : place ≠ index) :
    (body.erased index).entry other =
      if index + 1 = place then
        { body.entry other with
          labels := (body.entry other).labels ∪ body.labelsOn (.line line.id) }
      else body.entry other := by
  have atLine := labelsOn_line_moved (placeOf?_erased (idAt?_of_line here))
  have differ : other.id ≠ line.id := fun equal => apart (formed.index_eq here there equal)
  have next : body.idAt? (index + 1) = some other.id ↔ index + 1 = place := by
    constructor
    · intro same
      obtain ⟨second, again, equal⟩ := Option.map_eq_some_iff.1 same
      exact formed.index_eq there again equal
    · rintro rfl
      exact idAt?_of_line there
  by_cases same : index + 1 = place
  · rw [if_pos same]
    simp [entry, atLine, differ, next.2 same]
  · rw [if_neg same]
    simp [entry, atLine, differ, mt next.1 same]

/-- An erased line leaves its labels to the line behind it. -/
theorem listing_erased (formed : body.WellFormed) (found : body.idAt? index = some id) :
    (body.erased index).listing = body.listing.edited (.erase index) := by
  obtain ⟨line, here, rfl⟩ := Option.map_eq_some_iff.1 found
  have inside := lt_of_idAt? found
  have gone : body.listing.entries[index]? = some (body.entry line) := by
    rw [entries_getElem?, here]
    rfl
  have size : (body.listing.entries.eraseIdx index).length = body.length - 1 := by
    rw [List.length_eraseIdx_of_lt (by rwa [length_entries]), length_entries]
  simp only [Listing.edited, gone]
  apply Listing.ext
  · apply List.ext_getElem?
    intro place
    rw [Listing.getElem?_entries_joined, entries_getElem?, ← Array.getElem?_toList, lines_erased,
      List.getElem?_eraseIdx, List.getElem?_eraseIdx, Array.getElem?_toList, Array.getElem?_toList,
      entries_getElem?, entries_getElem?]
    split
    · cases there : body.lines[place]? with
      | none => rfl
      | some other =>
        rw [Option.map_some, entry_erased formed here there (by omega), if_neg (by omega)]
        simp [Nat.ne_of_gt, *]
    · cases there : body.lines[place + 1]? with
      | none => rfl
      | some other =>
        rw [Option.map_some, entry_erased formed here there (by omega)]
        by_cases same : index = place <;> simp [same, entry]
  · rw [Listing.ending_joined, size]
    show (body.erased index).labelsOn .atEnd = _
    have last : body.idAt? (index + 1) = none ↔ ¬ index < body.length - 1 := by
      rw [idAt?_eq_none]
      omega
    simp only [labelsOn_atEnd_moved (placeOf?_erased found), last, ite_not]
    rfl

theorem labelsOn_placed (known : label.index < body.labels.size) (anchor place : LabelPlace) :
    (body.placed label anchor).labelsOn place =
      (body.labelsOn place).erase label ∪ if place = anchor then {label} else ∅ := by
  ext other
  simp only [Finset.mem_union, mem_if, mem_labelsOn, Finset.mem_erase, placeOf?_placed,
    Finset.mem_singleton]
  by_cases same : other = label
  · subst same
    obtain ⟨held, stands⟩ : ∃ held, body.placeOf? other = some held :=
      ⟨_, Array.getElem?_eq_getElem known⟩
    simp [stands, eq_comm]
  · simp [same]

theorem WellFormed.line_eq_before (formed : body.WellFormed) {place : Nat} {other : Line}
    (there : body.lines[place]? = some other) :
    LabelPlace.line other.id = .before (body.idAt? index) ↔ index = place := by
  constructor
  · intro same
    cases found : body.idAt? index with
    | none => simp [found, LabelPlace.before] at same
    | some id =>
      obtain ⟨line, listed, equal⟩ := Option.map_eq_some_iff.1 found
      refine formed.index_eq there listed ?_
      simpa [found, LabelPlace.before, equal, eq_comm] using same
  · rintro rfl
    rw [idAt?_of_line there]
    rfl

theorem atEnd_eq_before :
    LabelPlace.atEnd = .before (body.idAt? index) ↔ ¬ index < body.length := by
  cases found : body.idAt? index with
  | none => simpa [LabelPlace.before] using idAt?_eq_none.1 found
  | some id => simpa [LabelPlace.before] using lt_of_idAt? found

/-- A label that is put somewhere is taken from where it was. -/
theorem listing_placed (formed : body.WellFormed) (known : label.index < body.labels.size)
    (index : Nat) :
    (body.placed label (.before (body.idAt? index))).listing =
      body.listing.edited (.mark label index) := by
  have sets := labelsOn_placed known (.before (body.idAt? index))
  simp only [Listing.edited]
  apply Listing.ext
  · apply List.ext_getElem?
    intro place
    rw [Listing.getElem?_entries_joined, entries_getElem?]
    simp only [Listing.without, List.getElem?_map, entries_getElem?]
    show body.lines[place]?.map _ = _
    cases there : body.lines[place]? with
    | none => rfl
    | some other =>
      simp only [Option.map_some, entry, sets, formed.line_eq_before there]
      by_cases same : index = place <;> simp [same]
  · rw [Listing.ending_joined]
    show (body.placed label (.before (body.idAt? index))).labelsOn .atEnd = _
    simp only [sets, atEnd_eq_before, Listing.without, List.length_map, length_entries, ite_not]
    rfl

/-- Moved labels join those at the second line. -/
theorem listing_labelsMoved (formed : body.WellFormed) (source target : InstrId) :
    (body.labelsMoved source target).listing =
      body.listing.edited (.transfer source target) := by
  have atLine := labelsOn_line_moved (placeOf?_labelsMoved body source target)
  apply Listing.ext
  · simp only [Listing.edited, formed.labelsOf_listing]
    show body.lines.toList.map _ = (body.lines.toList.map body.entry).map _
    rw [List.map_map]
    refine List.map_congr_left fun line _ => ?_
    refine congrArg (Listing.Entry.mk · line) ?_
    ext label
    simp only [Finset.mem_union, mem_if, mem_unless, atLine]
    simp [entry]
  · show (body.labelsMoved source target).labelsOn .atEnd = _
    simp [labelsOn_atEnd_moved (placeOf?_labelsMoved body source target), Listing.edited, listing]

theorem listing_rewritten (ids : after.ids = body.ids) (labels : after.labels = body.labels) :
    after.listing = body.listing.edited (.rewrite after.instrs) := by
  have sets : after.labelsOn = body.labelsOn :=
    labelsOn_of_places fun label => by rw [placeOf?, placeOf?, labels]
  apply Listing.ext
  · apply List.ext_getElem?
    intro place
    have same : after.lines[place]?.map Line.id = body.lines[place]?.map Line.id := by
      rw [← idAt?, ← idAt?, idAt?_eq, idAt?_eq, ids]
    simp only [Listing.edited, List.getElem?_zipWith, entries_getElem?, instrs, List.getElem?_map,
      Array.getElem?_toList]
    cases now : after.lines[place]? with
    | none => simp
    | some line =>
      cases was : body.lines[place]? with
      | none => simp [now, was] at same
      | some old =>
        have equal : line.id = old.id := by simpa [now, was] using same
        simp [entry, sets, ← equal]
  · show after.labelsOn .atEnd = _
    rw [sets]
    rfl

end Body
end Retrofit

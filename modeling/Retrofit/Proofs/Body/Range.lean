import Retrofit.Proofs.Body.Change

/-!
Erasing consecutive lines at once is erasing them one by one, as long as none of them bounds a
region (`erasedRange_succ`).
-/

namespace Retrofit

theorem Region.boundsAt_eq_nil {region : Region} {id : InstrId} :
    region.boundsAt id = [] ↔
      region.tryStart ≠ id ∧ region.tryEnd ≠ some id ∧ region.handlerStart ≠ id ∧
        region.handlerEnd ≠ some id ∧ region.filterStart ≠ some id := by
  simp [boundsAt, List.filterMap_eq_nil_iff]

theorem Region.moved_of_boundsAt {region : Region} {id : InstrId} (free : region.boundsAt id = [])
    (target : Option InstrId) : region.moved id target = region := by
  obtain ⟨atTry, atTryEnd, atHandler, atHandlerEnd, atFilter⟩ := boundsAt_eq_nil.1 free
  obtain ⟨flags, tryStart, tryEnd, handlerStart, handlerEnd, filterStart, catchType⟩ := region
  cases filterStart with
  | none => simp_all [moved]
  | some filter => simp_all [moved]

namespace Body

variable {body : Body} {start count index : Nat} {id : InstrId}

/-- A line is tied to nothing exactly if no region has a boundary there. -/
theorem tie?_eq_none : body.tie? id = none ↔ ∀ region ∈ body.regions, region.boundsAt id = [] := by
  unfold tie?
  rw [List.findSome?_eq_none_iff]
  constructor
  · intro free region present
    obtain ⟨number, inside, rfl⟩ := List.getElem_of_mem present
    have entry : (body.regions[number], number) ∈ body.regions.zipIdx :=
      List.mk_mem_zipIdx_iff_getElem?.2 (List.getElem?_eq_getElem inside)
    have untied := free _ entry
    cases bounds : body.regions[number].boundsAt id with
    | nil => rfl
    | cons boundary rest => simp [bounds] at untied
  · rintro free ⟨region, number⟩ entry
    have present : region ∈ body.regions :=
      List.mem_of_getElem? (List.mk_mem_zipIdx_iff_getElem?.1 entry)
    simp [free region present]

/-- Whether a number of consecutive lines bound no region. -/
def untied (body : Body) (start count : Nat) : Bool :=
  (body.lines.extract start (start + count)).all fun line => (body.tie? line.id).isNone

theorem tie?_of_untied (free : body.untied start count) (low : start ≤ index)
    (high : index < start + count) (here : body.idAt? index = some id) : body.tie? id = none := by
  obtain ⟨line, found, rfl⟩ := Option.map_eq_some_iff.1 here
  obtain ⟨bound, rfl⟩ := Array.getElem?_eq_some_iff.1 found
  have present : body.lines[index] ∈ body.lines.extract start (start + count) := by
    rw [Array.mem_extract_iff_getElem]
    exact ⟨index - start, by omega, by simp [Nat.add_sub_cancel' low]⟩
  rw [untied, Array.all_eq_true_iff_forall_mem] at free
  exact Option.isNone_iff_eq_none.1 (free _ present)

theorem untied_of_succ (free : body.untied start (count + 1)) : body.untied start count := by
  rw [untied, Array.all_eq_true_iff_forall_mem]
  intro line present
  obtain ⟨offset, inside, rfl⟩ := Array.mem_extract_iff_getElem.1 present
  rw [tie?_of_untied free (by omega) (by omega)
    (idAt?_of_line (Array.getElem?_eq_getElem (by omega)))]
  rfl

theorem regions_moved_of_tie? (free : body.tie? id = none) (target : Option InstrId) :
    body.regions.map (·.moved id target) = body.regions := by
  rw [tie?_eq_none] at free
  calc body.regions.map (·.moved id target)
    _ = body.regions.map (fun region => region) :=
      List.map_congr_left fun region present => Region.moved_of_boundsAt (free region present) target
    _ = body.regions := by simp

/-- What an erasure does to the labels of consecutive lines. -/
theorem labels_erasedRange (body : Body) (start count : Nat) :
    (body.erasedRange start count).labels =
      body.labels.map (·.movedOff
        (fun id => (body.indexOf? id).any fun index => start ≤ index && index < start + count)
        (body.idAt? (start + count))) := by
  simp [erasedRange]

theorem lines_erasedRange (body : Body) (start count : Nat) :
    (body.erasedRange start count).lines.toList =
      body.lines.toList.take start ++ body.lines.toList.drop (start + count) := by
  simp [erasedRange, List.take_of_length_le]

private theorem eq_with_parts {body after : Body} (lines : after.lines.toList = body.lines.toList)
    (labels : after.labels = body.labels) (regions : after.regions = body.regions)
    (rest : { after with lines := body.lines, labels := body.labels, regions := body.regions } =
      body) : after = body := by
  have same : after.lines = body.lines := Array.toList_inj.1 lines
  rw [← rest, ← same, ← labels, ← regions]

@[simp] theorem erasedRange_zero (body : Body) (start : Nat) : body.erasedRange start 0 = body := by
  have nowhere : (fun index => decide (start ≤ index) && decide (index < start + 0)) =
      fun _ => false := by
    funext index
    simp only [Bool.and_eq_false_imp, decide_eq_true_eq, decide_eq_false_iff_not]
    omega
  refine eq_with_parts ?_ ?_ rfl rfl
  · simp [lines_erasedRange]
  · rw [labels_erasedRange, nowhere]
    apply Array.ext_getElem?
    intro number
    rw [Array.getElem?_map]
    cases body.labels[number]? with
    | none => rfl
    | some place => cases place <;> simp [LabelPlace.movedOff]

theorem idAt?_erasedRange (body : Body) (inside : start ≤ body.length) (index : Nat) :
    (body.erasedRange start count).idAt? index =
      if index < start then body.idAt? index else body.idAt? (index + count) := by
  rw [length_eq] at inside
  rw [idAt?_eq, ids_erasedRange, List.getElem?_append]
  simp only [List.length_take, Nat.min_eq_left inside, List.getElem?_take, List.getElem?_drop,
    ← idAt?_eq]
  split
  · rfl
  · congr 1
    omega

/-- A label that leaves one more line than others first goes with them, and then to the next line. -/
private theorem movedOff_succ (distinct : body.ids.Nodup) (found : body.idAt? (start + count) = some id)
    (target : Option InstrId) (place : LabelPlace) :
    place.movedOff (fun id => (body.indexOf? id).any fun index =>
        start ≤ index && index < start + (count + 1)) target =
      (place.movedOff (fun id => (body.indexOf? id).any fun index =>
        start ≤ index && index < start + count) (some id)).moved id target := by
  cases place with
  | line held =>
    by_cases same : held = id
    · subst same
      have last := indexOf?_of_idAt? distinct found
      simp [LabelPlace.movedOff, last]
    · cases listed : body.indexOf? held with
      | none => simp [LabelPlace.movedOff, listed, same]
      | some index =>
        have apart : index ≠ start + count := by
          rintro rfl
          exact same (Option.some.inj ((idAt?_of_indexOf? listed).symm.trans found))
        have within : (decide (start ≤ index) && decide (index < start + (count + 1))) =
            (decide (start ≤ index) && decide (index < start + count)) := by
          rw [Bool.eq_iff_iff]
          simp only [Bool.and_eq_true, decide_eq_true_eq]
          omega
        simp only [LabelPlace.movedOff, listed, Option.any_some, within]
        split
        · simp [LabelPlace.before]
        · simp [same]
  | atEnd => rfl
  | unplaced => rfl

/-- Erasing one more line is erasing the one that has moved up to the start. -/
theorem erasedRange_succ (distinct : body.ids.Nodup)
    (found : body.idAt? (start + count) = some id) (free : body.tie? id = none) :
    body.erasedRange start (count + 1) = (body.erasedRange start count).erased start := by
  have inside := lt_of_idAt? found
  have startInside : start ≤ body.length := by omega
  have here : (body.erasedRange start count).idAt? start = some id := by
    simp [idAt?_erasedRange body startInside, found]
  have next : (body.erasedRange start count).idAt? (start + 1) =
      body.idAt? (start + (count + 1)) := by
    rw [idAt?_erasedRange body startInside, if_neg (by omega)]
    congr 1
    omega
  refine eq_with_parts ?_ ?_ ?_ (by rw [erased_eq here]; rfl)
  · have front : (body.lines.toList.take start).length = start := by
      rw [List.length_take, Array.length_toList]
      exact Nat.min_eq_left startInside
    rw [lines_erased, lines_erasedRange, lines_erasedRange,
      List.eraseIdx_append_of_length_le (by omega), front, Nat.sub_self, List.eraseIdx_zero,
      List.tail_drop]
    rfl
  · rw [erased_eq here, next, labels_erasedRange]
    simp only [labels_erasedRange, found, Array.map_map]
    congr 1
    funext place
    exact movedOff_succ distinct found _ place
  · rw [erased_eq here]
    exact (regions_moved_of_tie? free _).symm

/-- Erasing consecutive lines that bound no region is erasing the line at the start again and
again. -/
theorem changes_erasedRange {writes : Instr → Prop} (formed : body.WellFormed)
    (inside : start + count ≤ body.length) (free : body.untied start count) :
    Changes writes false body (body.erasedRange start count) := by
  induction count with
  | zero => rw [erasedRange_zero]
  | succ count ih =>
    have earlier := ih (by omega) (untied_of_succ free)
    have last : start + count < body.lines.size := by
      rw [length] at inside
      omega
    have found : body.lines[start + count]? = some body.lines[start + count] :=
      Array.getElem?_eq_getElem last
    have bare := tie?_of_untied free (by omega) (by omega) (idAt?_of_line found)
    rw [erasedRange_succ formed.distinct (idAt?_of_line found) bare]
    refine earlier.tail (.erase start body.lines[start + count] ?_ bare)
    have front : (body.lines.toList.take start).length = start := by
      rw [List.length_take, Array.length_toList]
      omega
    rw [← Array.getElem?_toList, lines_erasedRange, List.getElem?_append_right (by omega), front]
    simp

end Body
end Retrofit

import Mathlib
import Retrofit.Proofs.Atomicity
import Retrofit.Proofs.Body.Blocks

/-!
Erasing some consecutive lines is all or nothing, and where it succeeds it comes to erasing them one
by one: `Cursor.eraseNext_all_or_nothing`. Erasures one by one that get stuck have already taken out
the lines in front of the one that stays.
-/

namespace Retrofit

theorem Region.boundsAt_eq_nil_iff_not_mem {region : Region} {id : InstrId} :
    region.boundsAt id = [] ↔ id ∉ region.anchors := by
  simp only [boundsAt_eq_nil, anchors, List.mem_append, List.mem_cons, List.not_mem_nil, or_false,
    Option.mem_toList, not_or, ne_comm (b := id), ne_eq]
  tauto

namespace Body

variable {body after : Body} {start count index : Nat} {id : InstrId}

/-- Some consecutive lines have gone away, and no others. The labels that stood there have gone to
the line behind them, or behind the last line; all else is as it was. -/
structure WithoutLines (body : Body) (start count : Nat) (after : Body) : Prop where
  lines : after.lines.toList =
    body.lines.toList.take start ++ body.lines.toList.drop (start + count)
  moved : ∀ index id label, start ≤ index → index < start + count → body.idAt? index = some id →
    body.placeOf? label = some (.line id) →
      after.placeOf? label = some (.before (body.idAt? (start + count)))
  kept : ∀ label, (∀ index id, start ≤ index → index < start + count → body.idAt? index = some id →
      body.placeOf? label ≠ some (.line id)) → after.placeOf? label = body.placeOf? label
  rest : { after with lines := body.lines, labels := body.labels } = body

private theorem exists_within (formed : body.WellFormed) :
    (body.indexOf? id).any (fun index => start ≤ index && index < start + count) = true ↔
      ∃ index, start ≤ index ∧ index < start + count ∧ body.idAt? index = some id := by
  rw [Option.any_eq_true]
  simp only [Bool.and_eq_true, decide_eq_true_eq]
  constructor
  · rintro ⟨index, listed, behind, before⟩
    exact ⟨index, behind, before, idAt?_of_indexOf? listed⟩
  · rintro ⟨index, behind, before, here⟩
    exact ⟨index, indexOf?_of_idAt? formed.distinct here, behind, before⟩

theorem placeOf?_erasedRange (body : Body) (start count : Nat) (label : LabelId) :
    (body.erasedRange start count).placeOf? label =
      (body.placeOf? label).map (·.movedOff
        (fun id => (body.indexOf? id).any fun index => start ≤ index && index < start + count)
        (body.idAt? (start + count))) := by
  rw [placeOf?, labels_erasedRange, Array.getElem?_map]
  rfl

theorem WellFormed.withoutLines (formed : body.WellFormed) (start count : Nat) :
    body.WithoutLines start count (body.erasedRange start count) where
  lines := lines_erasedRange body start count
  moved := by
    intro index id label behind before here placed
    have leaving := (exists_within formed).2 ⟨index, behind, before, here⟩
    rw [placeOf?_erasedRange, placed, Option.map_some, LabelPlace.movedOff, if_pos leaving]
  kept := by
    intro label elsewhere
    rw [placeOf?_erasedRange]
    rcases placed : body.placeOf? label with _ | _ | _ | id
    · rfl
    · rfl
    · rfl
    · refine congrArg some (if_neg fun leaving => ?_)
      obtain ⟨index, behind, before, here⟩ := (exists_within formed).1 leaving
      exact elsewhere index id behind before here placed
  rest := rfl

/-- No line of the range bounds a region. -/
def Loose (body : Body) (start count : Nat) : Prop :=
  ∀ index id, start ≤ index → index < start + count → body.idAt? index = some id →
    ∀ region ∈ body.regions, id ∉ region.anchors

theorem untied_iff_loose : body.untied start count = true ↔ body.Loose start count := by
  constructor
  · intro free index id behind before here region present
    have bare := tie?_eq_none.1 (tie?_of_untied free behind before here) region present
    exact Region.boundsAt_eq_nil_iff_not_mem.1 bare
  · intro loose
    rw [untied, Array.all_eq_true_iff_forall_mem]
    intro line listed
    obtain ⟨offset, inside, rfl⟩ := Array.mem_extract_iff_getElem.1 listed
    have within : start + offset < body.lines.size := by omega
    have here := idAt?_of_line (Array.getElem?_eq_getElem within)
    have free := loose _ _ (by omega) (by omega) here
    rw [Option.isNone_iff_eq_none, tie?_eq_none]
    exact fun region present => Region.boundsAt_eq_nil_iff_not_mem.2 (free region present)

theorem idAt?_erasedRange_start (body : Body) (start count : Nat) :
    (body.erasedRange start count).idAt? start = body.idAt? (start + count) := by
  by_cases inside : start ≤ body.length
  · rw [idAt?_erasedRange body inside, if_neg (Nat.lt_irrefl start)]
  · rw [idAt?_eq_none.2 (show body.length ≤ start + count by omega), idAt?_eq_none, length_eq,
      ids_erasedRange, List.length_append, List.length_take, List.length_drop, ← length_eq]
    omega

end Body

namespace Cursor

variable {cursor : Cursor} {count : Nat}

/-- Erasing a range succeeds exactly if it lies in the body and bounds no region. -/
theorem eraseNext_eq_ok_iff :
    ((eraseNext count).apply cursor).1 = .ok () ↔
      cursor.index + count ≤ cursor.body.length ∧ cursor.body.Loose cursor.index count := by
  rw [apply_eraseNext, ← Body.untied_iff_loose, ← firstTie?_eq_none]
  split
  · simp; omega
  · next inside =>
    cases firstTie? cursor.body cursor.index
        (cursor.body.lines.extract cursor.index (cursor.index + count)).toList with
    | none => simp; omega
    | some found => simp

/-- A line that bounds a region cannot be erased, and neither can one that is not there. -/
theorem erase_fails (stuck : ∀ id, cursor.body.idAt? cursor.index = some id →
    cursor.body.tie? id ≠ none) : ∃ error, erase.apply cursor = (.error error, cursor) := by
  rw [apply_erase, apply_onBody, Body.apply_eraseIdx]
  rcases here : cursor.body.lines[cursor.index]? with _ | line
  · exact ⟨_, rfl⟩
  · obtain ⟨obstacle, tied⟩ := Option.ne_none_iff_exists'.1 (stuck _ (Body.idAt?_of_line here))
    have held : cursor.body.obstacle? cursor.index false line.id = some obstacle := tied
    dsimp only
    rw [held]
    exact ⟨_, rfl⟩

/-- Erasures one by one take out the first lines, all of them or up to one that stays. -/
theorem exists_erased (formed : cursor.body.WellFormed) (count : Nat) :
    ∃ done ≤ count, ((eraseRepeatedly count).apply cursor).2 =
      { cursor with body := cursor.body.erasedRange cursor.index done } := by
  induction count with
  | zero => exact ⟨0, Nat.le_refl 0, by simp [eraseRepeatedly]⟩
  | succ count ih =>
    obtain ⟨done, fewer, left⟩ := ih
    rw [eraseRepeatedly, Edit.apply_bind]
    rcases ran : (eraseRepeatedly count).apply cursor with ⟨error | ⟨⟩, between⟩ <;>
      rw [ran] at left
    · exact ⟨done, by omega, left⟩
    · replace left : between = _ := left
      have here : between.body.idAt? between.index = cursor.body.idAt? (cursor.index + done) := by
        rw [left]
        exact Body.idAt?_erasedRange_start cursor.body cursor.index done
      have tied (id : InstrId) : between.body.tie? id = cursor.body.tie? id := by
        rw [left]
        rfl
      show ∃ done ≤ count + 1, ((discard erase).apply between).2 = _
      by_cases free : ∃ id, between.body.idAt? between.index = some id ∧ between.body.tie? id = none
      · obtain ⟨id, found, bare⟩ := free
        refine ⟨done + 1, by omega, ?_⟩
        rw [apply_erase_of_tie? found bare, left,
          Body.erasedRange_succ formed.distinct (here.symm.trans found) ((tied id).symm.trans bare)]
      · obtain ⟨error, fails⟩ := erase_fails fun id found bare => free ⟨id, found, bare⟩
        refine ⟨done, by omega, ?_⟩
        rw [Edit.apply_discard, fails, left]

/-- Erasing a range is all or nothing. It succeeds exactly if the range lies in the body and none of
its lines bounds a region, and then leaves the body without these lines and the cursor where it is,
as erasing the lines one by one does. If it fails, nothing has changed, where erasures one by one
would have taken out the first lines. The end of the range is computed exactly, whatever the
count. -/
theorem eraseNext_all_or_nothing (reached : cursor.body.Reachable) (count : Nat) :
    (((eraseNext count).apply cursor).1 = .ok () ↔
      cursor.index + count ≤ cursor.body.length ∧ cursor.body.Loose cursor.index count) ∧
    (∀ left, (eraseNext count).apply cursor = (.ok (), left) →
      left = { cursor with body := left.body } ∧
        cursor.body.WithoutLines cursor.index count left.body ∧
        (eraseRepeatedly count).apply cursor = (.ok (), left)) ∧
    (∀ error left, (eraseNext count).apply cursor = (.error error, left) →
      left = cursor ∧
        ∃ done ≤ count, cursor.body.WithoutLines cursor.index done
          ((eraseRepeatedly count).apply cursor).2.body) ∧
    (cursor.body.length < cursor.index + count →
      ((eraseNext count).apply cursor).1 =
        .error (.outOfBounds (min (cursor.index + count) largestIndex) cursor.body.length)) := by
  have formed := reached.wellFormed
  refine ⟨eraseNext_eq_ok_iff, ?success, ?failure, ?beyond⟩
  case success =>
    intro left done
    obtain ⟨inside, loose⟩ := eraseNext_eq_ok_iff.1 (congrArg Prod.fst done)
    have free := Body.untied_iff_loose.2 loose
    have singly := apply_eraseRepeatedly formed inside free
    have once : (eraseNext count).apply cursor =
        (.ok (), { cursor with body := cursor.body.erasedRange cursor.index count }) := by
      rw [apply_eraseNext, if_neg (Nat.not_lt.2 inside), firstTie?_eq_none.2 free]
    rw [once] at done
    cases done
    exact ⟨rfl, formed.withoutLines cursor.index count, singly⟩
  case failure =>
    intro error left failed
    refine ⟨traceless_eraseNext cursor count error left failed, ?_⟩
    obtain ⟨done, fewer, erased⟩ := exists_erased formed count
    rw [erased]
    exact ⟨done, fewer, formed.withoutLines cursor.index done⟩
  case beyond =>
    intro outside
    rw [apply_eraseNext, if_pos outside]

/-- Four lines, of which the second and the third bear labels and the last begins a region. -/
def labelsBeforeRegion : Body :=
  { Body.after {} [.append ⟨.nop, .none⟩, .append ⟨.nop, .none⟩, .append ⟨.nop, .none⟩,
      .append ⟨.ret, .none⟩, .newLabel, .placeLabel ⟨0⟩ 1, .newLabel, .placeLabel ⟨1⟩ 2] with
    regions := [{ tryStart := ⟨3⟩, tryEnd := none, handlerStart := ⟨3⟩, handlerEnd := none }] }

/-- The lines with labels go away together, and their labels move to the region. With the line
behind them they stay, although two of three erasures one by one succeed. -/
theorem eraseNext_before_region :
    ((eraseNext 2).apply ⟨labelsBeforeRegion, "M", 1, true⟩).1 = .ok () ∧
      ((eraseNext 2).apply ⟨labelsBeforeRegion, "M", 1, true⟩).2.body.labels =
        #[.line ⟨3⟩, .line ⟨3⟩] ∧
      ((eraseNext 3).apply ⟨labelsBeforeRegion, "M", 1, true⟩).2 =
        ⟨labelsBeforeRegion, "M", 1, true⟩ ∧
      ((eraseRepeatedly 3).apply ⟨labelsBeforeRegion, "M", 1, true⟩).2.body.length = 2 := by
  have reached : labelsBeforeRegion.Reachable := (Body.Reachable.empty.after _).dressed _ _ _ _
  let cursor : Cursor := ⟨labelsBeforeRegion, "M", 1, true⟩
  have succeeded : ((eraseNext 2).apply cursor).1 = .ok () := by cbv
  have failed : ((eraseNext 3).apply cursor).1 =
      .error (.invalidRemoval "M" 3 (.anchors ⟨3⟩ [.tryStart, .handlerStart] 0)) := by cbv
  obtain ⟨_, _, untouched, _⟩ := @eraseNext_all_or_nothing cursor reached 3
  exact ⟨succeeded, by cbv, (untouched _ _ (Prod.ext failed rfl)).1, by cbv⟩

end Cursor
end Retrofit

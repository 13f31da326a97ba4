import Retrofit.Proofs.Body.Blocks
import Retrofit.Proofs.Body.Width

/-!
What a line keeps while a body changes around it. The lines that stay do so in the order in which
they came (`Descends`), and a line that is neither erased nor written keeps its instruction, or gets
its long form (`Retains`).
-/

namespace Retrofit.Body

/-- The first line comes somewhere before the second. -/
def Before (body : Body) (first second : InstrId) : Prop :=
  ∃ place stop, body.indexOf? first = some place ∧ body.indexOf? second = some stop ∧ place < stop

/-- One body has come out of another: it has given out no fewer identities, lines that were gone
stay away, and those in both come in the same order. -/
structure Descends (start body : Body) : Prop where
  nextId_le : start.nextId ≤ body.nextId
  gone : ∀ id : InstrId, id.index < start.nextId → id ∉ start.ids → id ∉ body.ids
  ordered : ∀ first second : InstrId, first ∈ start.ids → second ∈ start.ids → first ∈ body.ids →
    second ∈ body.ids → (start.Before first second ↔ body.Before first second)

variable {start body after : Body} {index place stop : Nat} {first second id other : InstrId}
  {writes : Instr → Prop} {moving : Bool}

theorem before_iff (here : body.indexOf? first = some place)
    (there : body.indexOf? second = some stop) : body.Before first second ↔ place < stop := by
  constructor
  · rintro ⟨_, _, foundFirst, foundSecond, less⟩
    cases here.symm.trans foundFirst
    cases there.symm.trans foundSecond
    exact less
  · exact fun less => ⟨place, stop, here, there, less⟩

theorem before_of_ids (same : after.ids = body.ids) :
    after.Before first second ↔ body.Before first second := by
  unfold Before
  rw [indexOf?_eq, indexOf?_eq, indexOf?_eq, indexOf?_eq, same]

theorem before_inserted (formed : body.WellFormed) (instr : Instr) (inside : index ≤ body.length)
    (firstLive : first ∈ body.ids) (secondLive : second ∈ body.ids) :
    (body.inserted index instr).Before first second ↔ body.Before first second := by
  obtain ⟨place, here⟩ := exists_indexOf? firstLive
  obtain ⟨stop, there⟩ := exists_indexOf? secondLive
  rw [before_iff (indexOf?_inserted formed instr inside here)
    (indexOf?_inserted formed instr inside there), before_iff here there]
  unfold pushedDown
  split <;> split <;> omega

theorem before_erased (formed : body.WellFormed) (found : body.idAt? index = some id)
    (firstLive : first ∈ (body.erased index).ids) (secondLive : second ∈ (body.erased index).ids) :
    (body.erased index).Before first second ↔ body.Before first second := by
  obtain ⟨firstApart, wasFirst⟩ := (formed.mem_ids_erased found first).1 firstLive
  obtain ⟨secondApart, wasSecond⟩ := (formed.mem_ids_erased found second).1 secondLive
  obtain ⟨place, here⟩ := exists_indexOf? wasFirst
  obtain ⟨stop, there⟩ := exists_indexOf? wasSecond
  have line := indexOf?_of_idAt? formed.distinct found
  -- Neither line is the erased one, so neither index is its index.
  have elsewhere {other : InstrId} {spot : Nat} (apart : other ≠ id)
      (listed : body.indexOf? other = some spot) : spot ≠ index := by
    rintro rfl
    exact apart (Option.some.inj ((idAt?_of_indexOf? listed).symm.trans (idAt?_of_indexOf? line)))
  have firstElsewhere := elsewhere firstApart here
  have secondElsewhere := elsewhere secondApart there
  rw [before_iff (indexOf?_erased formed found firstApart here)
    (indexOf?_erased formed found secondApart there), before_iff here there]
  unfold pulledUp
  split <;> split <;> omega

theorem Descends.refl (body : Body) : body.Descends body where
  nextId_le := Nat.le_refl _
  gone _ _ missing := missing
  ordered _ _ _ _ _ _ := Iff.rfl

/-- A line at both ends was there all the time. -/
theorem Descends.live_between (issued : ∀ id ∈ start.ids, id.index < start.nextId)
    (earlier : start.Descends body) (later : body.Descends after) (was : id ∈ start.ids)
    (live : id ∈ after.ids) : id ∈ body.ids := by
  by_contra missing
  have known := Nat.lt_of_lt_of_le (issued id was) earlier.nextId_le
  exact later.gone id known missing live

theorem Descends.trans (issued : ∀ id ∈ start.ids, id.index < start.nextId)
    (earlier : start.Descends body) (later : body.Descends after) : start.Descends after where
  nextId_le := Nat.le_trans earlier.nextId_le later.nextId_le
  gone id known missing :=
    later.gone id (Nat.lt_of_lt_of_le known earlier.nextId_le) (earlier.gone id known missing)
  ordered first second wasFirst wasSecond firstLive secondLive := by
    have firstBetween := earlier.live_between issued later wasFirst firstLive
    have secondBetween := earlier.live_between issued later wasSecond secondLive
    exact (earlier.ordered first second wasFirst wasSecond firstBetween secondBetween).trans
      (later.ordered first second firstBetween secondBetween firstLive secondLive)

theorem Change.descends (formed : body.WellFormed) (changed : Change writes moving body after) :
    body.Descends after where
  nextId_le := changed.nextId_le
  gone _ known missing := changed.gone known missing
  ordered first second wasFirst wasSecond firstLive secondLive := by
    cases changed with
    | insert index instr inside =>
      exact (before_inserted formed instr inside wasFirst wasSecond).symm
    | erase index line found =>
      exact (before_erased formed (idAt?_of_line found) firstLive secondLive).symm
    | write index instr => exact (before_of_ids (ids_changeAt body index _)).symm
    | widen chosen => exact (before_of_ids (ids_widenedAt body chosen)).symm
    | _ => exact (before_of_ids rfl).symm

theorem Changes.descends (formed : body.WellFormed) (changed : Changes writes moving body after) :
    body.Descends after := by
  induction changed with
  | refl => exact .refl body
  | tail earlier step ih =>
    exact ih.trans formed.issued (step.descends (formed.changes earlier))

/-- The line is still there. Unless it may have been written, it holds the same instruction, or the
long form of it. -/
structure Retains (id : InstrId) (written : Prop) (body after : Body) : Prop where
  live : id ∈ after.ids
  kept : ¬ written → ∀ instr, body.get? id = some instr →
    after.get? id = some instr ∨ after.get? id = some instr.widened

variable {written further : Prop}

theorem Retains.trans (first : Retains id written start body)
    (second : Retains id further body after) : Retains id (written ∨ further) start after where
  live := second.live
  kept spared instr held := by
    obtain ⟨early, late⟩ := not_or.1 spared
    rcases first.kept early instr held with same | long
    · exact second.kept late instr same
    · have kept := second.kept late instr.widened long
      rw [Instr.widened_widened, or_self] at kept
      exact .inr kept

theorem Retains.mono (retained : Retains id written body after) (more : written → further) :
    Retains id further body after :=
  ⟨retained.live, fun spared => retained.kept fun happened => spared (more happened)⟩

theorem Retains.of_get? (live : id ∈ after.ids) (same : after.get? id = body.get? id) :
    Retains id written body after :=
  ⟨live, fun _ _ held => .inl (same.trans held)⟩

theorem Retains.refl (live : id ∈ body.ids) : Retains id written body body := .of_get? live rfl

theorem retains_inserted (formed : body.WellFormed) (live : id ∈ body.ids) (instr : Instr)
    (inside : index ≤ body.length) : Retains id written body (body.inserted index instr) := by
  refine .of_get? ?_ (get?_inserted body index instr ?_)
  · rw [length_eq] at inside
    rw [ids_inserted, List.mem_insertIdx inside]
    exact .inr live
  · rintro rfl
    exact formed.fresh live

theorem retains_changeAt (live : id ∈ body.ids) (change : Instr → Instr)
    (seen : body.idAt? index = some id → written) :
    Retains id written body (body.changeAt index change) where
  live := by simpa using live
  kept spared instr held :=
    .inl ((get?_changeAt change fun here => spared (seen here)).trans held)

/-- Widening takes the instruction of a line to its long form, or leaves it alone. -/
theorem retains_widenedAt (live : id ∈ body.ids) (chosen : Line × Nat → Bool) :
    Retains id written body (body.widenedAt chosen) where
  live := by simpa using live
  kept _ instr held := by
    have sought : (fun line : Line => decide (line.id = id)) ∘ (fun entry : Line × Nat =>
        if chosen entry then entry.1.widened else entry.1) =
          (fun line : Line => decide (line.id = id)) ∘ Prod.fst := by
      funext entry
      simp only [Function.comp_apply]
      split <;> rfl
    have listed := map_fst_layoutFrom 0 body.lines.toList
    rw [← toList_layout] at listed
    rw [get?, ← Array.find?_toList, ← listed, List.find?_map, Option.map_map] at held
    rw [get?, ← Array.find?_toList, widenedAt, Array.toList_map, List.find?_map, sought]
    obtain ⟨entry, found, rfl⟩ := Option.map_eq_some_iff.1 held
    rw [found, Option.map_some, Option.map_some]
    cases chosen entry with
    | false => exact .inl rfl
    | true => exact .inr rfl

private theorem find?_without {accepts : α → Bool} {items : List α} {index : Nat} {item : α}
    (here : items[index]? = some item) (other : accepts item = false) :
    (items.eraseIdx index).find? accepts = items.find? accepts := by
  induction items generalizing index with
  | nil => cases here
  | cons first rest ih =>
    cases index with
    | zero =>
      cases here
      simp [other]
    | succ index => rw [List.eraseIdx_cons_succ, List.find?_cons, List.find?_cons, ih here]

theorem get?_erased (found : body.idAt? index = some other) (apart : id ≠ other) :
    (body.erased index).get? id = body.get? id := by
  obtain ⟨line, here, rfl⟩ := Option.map_eq_some_iff.1 found
  rw [get?, get?, ← Array.find?_toList, ← Array.find?_toList, lines_erased]
  rw [← Array.getElem?_toList] at here
  rw [find?_without here (decide_eq_false apart.symm)]

private theorem idAt?_inj (distinct : body.ids.Nodup) (here : body.idAt? index = some id)
    (there : body.idAt? place = some id) : index = place :=
  Option.some.inj ((indexOf?_of_idAt? distinct here).symm.trans (indexOf?_of_idAt? distinct there))

/-- Erasing consecutive lines leaves exactly the other ones. -/
theorem WellFormed.mem_ids_erasedRange (formed : body.WellFormed) {start count : Nat}
    (inside : start + count ≤ body.length) : id ∈ (body.erasedRange start count).ids ↔
      id ∈ body.ids ∧ ¬ ∃ offset < count, body.idAt? (start + offset) = some id := by
  have early : start ≤ body.length := by omega
  constructor
  · intro live
    obtain ⟨index, found⟩ := exists_indexOf? live
    have here := idAt?_of_indexOf? found
    rw [idAt?_erasedRange body early] at here
    split at here
    · refine ⟨mem_ids_of_idAt? here, ?_⟩
      rintro ⟨offset, _, doomed⟩
      have same := idAt?_inj formed.distinct here doomed
      omega
    · refine ⟨mem_ids_of_idAt? here, ?_⟩
      rintro ⟨offset, near, doomed⟩
      have same := idAt?_inj formed.distinct here doomed
      omega
  · rintro ⟨live, spared⟩
    obtain ⟨index, found⟩ := exists_indexOf? live
    have here := idAt?_of_indexOf? found
    rcases Nat.lt_or_ge index start with front | back
    · have stays : (body.erasedRange start count).idAt? index = _ :=
        idAt?_erasedRange body early index
      rw [if_pos front, here] at stays
      exact mem_ids_of_idAt? stays
    · have behind : start + count ≤ index := by
        by_contra near
        refine spared ⟨index - start, by omega, ?_⟩
        rwa [Nat.add_sub_cancel' back]
      have stays : (body.erasedRange start count).idAt? (index - count) = _ :=
        idAt?_erasedRange body early (index - count)
      rw [if_neg (by omega), Nat.sub_add_cancel (by omega), here] at stays
      exact mem_ids_of_idAt? stays

theorem Changes.retains (formed : body.WellFormed)
    (changed : Changes (fun _ => False) moving body after) (was : id ∈ body.ids)
    (live : id ∈ after.ids) : Retains id False body after := by
  induction changed with
  | refl => exact .refl live
  | @tail between after earlier step ih =>
    have steady := formed.changes earlier
    have known := Nat.lt_of_lt_of_le (formed.issued id was) (Changes.nextId_le earlier)
    have there : id ∈ between.ids := by
      by_contra missing
      exact step.gone known missing live
    suffices retained : Retains id False between after by
      exact ((ih there).trans retained).mono (by simp)
    cases step with
    | insert _ _ _ wrote => exact wrote.elim
    | write _ _ wrote => exact wrote.elim
    | widen chosen => exact retains_widenedAt there chosen
    | erase index line found =>
      have here := idAt?_of_line found
      have apart := ((steady.mem_ids_erased here id).1 live).1
      exact .of_get? live (get?_erased here apart)
    | _ => exact .of_get? live rfl

end Retrofit.Body

import Mathlib.Data.List.Sort
import Mathlib.Order.Bounds.Basic
import Retrofit.Proofs.Cursor.Operation

/-!
Searches are exact in both directions. Going to a window ends at the nearest of the places where it
matches, the list of all occurrences has each of them once, and going from one to the next comes
past all of them: `Cursor.search_exact`.
-/

namespace Retrofit

private theorem head?_eq_some_iff {before : Nat → Nat → Prop} [Std.Asymm before] {places : List Nat}
    {start : Nat} (ordered : places.Pairwise before) :
    places.head? = some start ↔
      start ∈ places ∧ ∀ place ∈ places, start = place ∨ before start place := by
  cases places with
  | nil => simp
  | cons first rest =>
    obtain ⟨earliest, _⟩ := List.pairwise_cons.1 ordered
    rw [List.head?_cons, Option.some_inj]
    constructor
    · rintro rfl
      refine ⟨List.mem_cons_self, fun place listed => ?_⟩
      rcases List.mem_cons.1 listed with rfl | behind
      · exact .inl rfl
      · exact .inr (earliest place behind)
    · rintro ⟨listed, leads⟩
      rcases List.mem_cons.1 listed with rfl | behind
      · rfl
      · rcases leads first List.mem_cons_self with rfl | turned
        · rfl
        · exact absurd turned (Std.Asymm.asymm _ _ (earliest start behind))

private theorem head?_eq_some_iff_isLeast {places : List Nat} (ascending : places.Pairwise (· < ·))
    {start : Nat} : places.head? = some start ↔ IsLeast {place | place ∈ places} start := by
  simp only [head?_eq_some_iff ascending, ← le_iff_eq_or_lt]
  rfl

private theorem head?_eq_some_iff_isGreatest {places : List Nat}
    (descending : places.Pairwise (· > ·)) {start : Nat} :
    places.head? = some start ↔ IsGreatest {place | place ∈ places} start := by
  simp only [head?_eq_some_iff descending, gt_iff_lt, eq_comm (a := start), ← le_iff_eq_or_lt]
  rfl

namespace Cursor

variable {cursor : Cursor} {window : Window} {landing : Landing} {start : Nat}

theorem mem_hits_next :
    start ∈ cursor.hits .next window ↔
      cursor.index ≤ start ∧ window.MatchesAt cursor.body start := by
  rw [hits, List.mem_filter, indices, List.mem_range'_1, Window.matchesAt_iff]
  constructor
  · rintro ⟨⟨behind, below⟩, opens⟩
    exact ⟨behind, by omega, opens⟩
  · rintro ⟨behind, inside, opens⟩
    exact ⟨⟨behind, by omega⟩, opens⟩

theorem mem_hits_previous :
    start ∈ cursor.hits .previous window ↔
      start < cursor.index ∧ window.MatchesAt cursor.body start := by
  rw [hits, List.mem_filter, indices, List.mem_reverse, List.mem_range, Window.matchesAt_iff]
  constructor
  · rintro ⟨below, opens⟩
    exact ⟨by omega, by omega, opens⟩
  · rintro ⟨before, inside, opens⟩
    exact ⟨by omega, opens⟩

theorem pairwise_hits_next : (cursor.hits .next window).Pairwise (· < ·) :=
  List.Pairwise.filter _ List.pairwise_lt_range'

theorem pairwise_hits_previous : (cursor.hits .previous window).Pairwise (· > ·) :=
  List.Pairwise.filter _ (List.pairwise_reverse.2 List.pairwise_lt_range)

theorem nearest?_next_eq_some :
    cursor.nearest? .next (window.opensAt cursor.body) = some start ↔
      IsLeast {place | cursor.index ≤ place ∧ window.MatchesAt cursor.body place} start := by
  rw [nearest?_eq, ← hits, head?_eq_some_iff_isLeast pairwise_hits_next]
  simp only [mem_hits_next]

theorem nearest?_previous_eq_some :
    cursor.nearest? .previous (window.opensAt cursor.body) = some start ↔
      IsGreatest {place | place < cursor.index ∧ window.MatchesAt cursor.body place} start := by
  rw [nearest?_eq, ← hits, head?_eq_some_iff_isGreatest pairwise_hits_previous]
  simp only [mem_hits_previous]

theorem nearest?_eq_none {direction : Direction} :
    cursor.nearest? direction (window.opensAt cursor.body) = none ↔
      cursor.hits direction window = [] := by
  rw [nearest?_eq, ← hits, List.head?_eq_none_iff]

/-- The cursor after a search that has found the window: in front of it or behind it, and behind the
labels there if asked for. -/
def stoppedAt (cursor : Cursor) (landing : Landing) (window : Window) (start : Nat) : Cursor :=
  { cursor with
    index := if landing = .behind then start + window.length else start
    behindLabels := landing = .behindLabels }

theorem landed_eq_stoppedAt :
    cursor.landed landing window start = cursor.stoppedAt landing window start := by
  cases landing <;> rfl

theorem stoppedAt_inj {other : Nat} :
    cursor.stoppedAt landing window start = cursor.stoppedAt landing window other ↔
      start = other := by
  constructor
  · intro same
    have index := congrArg Cursor.index same
    simp only [stoppedAt] at index
    split at index <;> omega
  · rintro rfl
    rfl

theorem apply_trySeek_eq_found {direction : Direction} :
    (trySeek direction window landing).apply cursor =
        (.ok true, cursor.stoppedAt landing window start) ↔
      cursor.nearest? direction (window.opensAt cursor.body) = some start := by
  rw [apply_trySeek]
  cases cursor.nearest? direction (window.opensAt cursor.body) with
  | none => simp
  | some found => simp [landed_eq_stoppedAt, stoppedAt_inj]

theorem apply_trySeek_eq_missed {direction : Direction} :
    (trySeek direction window landing).apply cursor = (.ok false, cursor) ↔
      cursor.hits direction window = [] := by
  rw [apply_trySeek, ← nearest?_eq_none]
  cases cursor.nearest? direction (window.opensAt cursor.body) <;> simp

private theorem eq_of_ascending {places others : List Nat} (first : places.Pairwise (· < ·))
    (second : others.Pairwise (· < ·)) (same : ∀ place, place ∈ places ↔ place ∈ others) :
    places = others :=
  first.eq_of_mem_iff second same

theorem hits_next_eq :
    cursor.hits .next window =
      (window.places cursor.body).filter fun place => cursor.index ≤ place := by
  refine eq_of_ascending pairwise_hits_next (Window.pairwise_places.filter _) fun place => ?_
  rw [mem_hits_next, List.mem_filter, Window.mem_places, decide_eq_true_eq, and_comm]

theorem reverse_hits_previous_eq :
    (cursor.hits .previous window).reverse =
      (window.places cursor.body).filter fun place => place < cursor.index := by
  refine eq_of_ascending (List.pairwise_reverse.2 pairwise_hits_previous)
    (Window.pairwise_places.filter _) fun place => ?_
  rw [List.mem_reverse, mem_hits_previous, List.mem_filter, Window.mem_places, decide_eq_true_eq,
    and_comm]

/-- The places in front of the cursor and those from it on are all places there are. -/
theorem reverse_hits_append_hits :
    (cursor.hits .previous window).reverse ++ cursor.hits .next window =
      window.places cursor.body := by
  refine eq_of_ascending ?_ Window.pairwise_places fun place => ?_
  · refine List.pairwise_append.2
      ⟨List.pairwise_reverse.2 pairwise_hits_previous, pairwise_hits_next, ?_⟩
    intro place before other behind
    have lower := (mem_hits_previous.1 (List.mem_reverse.1 before)).1
    have upper := (mem_hits_next.1 behind).1
    omega
  · rw [List.mem_append, List.mem_reverse, mem_hits_previous, mem_hits_next, Window.mem_places,
      ← or_and_right]
    exact and_iff_right (Nat.lt_or_ge place cursor.index)

/-- The indices in a direction at which a window of the width fits in, nearest first. -/
def fitting (cursor : Cursor) (width : Nat) : Direction → List Nat
  | .next =>
    if cursor.body.length < width then []
    else List.range' cursor.index (cursor.body.length - width + 1 - cursor.index)
  | .previous =>
    if cursor.body.length < width then []
    else (List.range (min cursor.index (cursor.body.length - width + 1))).reverse

theorem mem_fitting_next {width : Nat} :
    start ∈ cursor.fitting width .next ↔
      cursor.index ≤ start ∧ start + width ≤ cursor.body.length := by
  rw [fitting]
  split
  · simp; omega
  · rw [List.mem_range'_1]
    omega

theorem mem_fitting_previous {width : Nat} :
    start ∈ cursor.fitting width .previous ↔
      start < cursor.index ∧ start + width ≤ cursor.body.length := by
  rw [fitting]
  split
  · simp; omega
  · rw [List.mem_reverse, List.mem_range]
    omega

theorem pairwise_fitting_next {width : Nat} : (cursor.fitting width .next).Pairwise (· < ·) := by
  rw [fitting]
  split
  · exact .nil
  · exact List.pairwise_lt_range'

theorem pairwise_fitting_previous {width : Nat} :
    (cursor.fitting width .previous).Pairwise (· > ·) := by
  rw [fitting]
  split
  · exact .nil
  · exact List.pairwise_reverse.2 List.pairwise_lt_range

theorem filter_fitting (direction : Direction) :
    (cursor.fitting window.length direction).filter (window.opensAt cursor.body) =
      cursor.hits direction window := by
  cases direction with
  | next =>
    refine eq_of_ascending (pairwise_fitting_next.filter _) pairwise_hits_next fun place => ?_
    rw [List.mem_filter, mem_fitting_next, mem_hits_next, Window.MatchesAt, Window.opensAt_iff,
      and_assoc]
  | previous =>
    refine pairwise_fitting_previous.filter _ |>.eq_of_mem_iff pairwise_hits_previous
      fun place => ?_
    rw [List.mem_filter, mem_fitting_previous, mem_hits_previous, Window.MatchesAt,
      Window.opensAt_iff, and_assoc]

theorem hits_of_nearest?
    (found : cursor.nearest? .next (window.opensAt cursor.body) = some start) :
    cursor.hits .next window = start :: (cursor.placed (start + 1)).hits .next window := by
  obtain ⟨⟨behind, here⟩, lowest⟩ := nearest?_next_eq_some.1 found
  have beyond (place : Nat) : place ∈ (cursor.placed (start + 1)).hits .next window ↔
      start < place ∧ window.MatchesAt cursor.body place := mem_hits_next
  refine eq_of_ascending pairwise_hits_next ?_ fun place => ?_
  · exact List.pairwise_cons.2 ⟨fun place listed => ((beyond place).1 listed).1, pairwise_hits_next⟩
  · rw [mem_hits_next, List.mem_cons, beyond]
    constructor
    · rintro ⟨ahead, suits⟩
      have above : start ≤ place := lowest ⟨ahead, suits⟩
      rcases Nat.eq_or_lt_of_le above with rfl | later
      · exact .inl rfl
      · exact .inr ⟨later, suits⟩
    · rintro (rfl | ⟨later, suits⟩)
      · exact ⟨behind, here⟩
      · exact ⟨by omega, suits⟩

theorem apply_seek_eq_ok {direction : Direction} {there : Cursor} :
    (seek direction window landing).apply cursor = (.ok (), there) ↔
      ∃ start, cursor.nearest? direction (window.opensAt cursor.body) = some start ∧
        cursor.stoppedAt landing window start = there := by
  rw [apply_seek]
  cases cursor.nearest? direction (window.opensAt cursor.body) <;> simp [landed_eq_stoppedAt]

theorem apply_moveTo_eq_ok {index : Nat} {there : Cursor} :
    (moveTo index).apply cursor = (.ok (), there) ↔
      index ≤ cursor.body.length ∧ cursor.placed index = there := by
  rw [apply_moveTo]
  split <;> simp <;> omega

/-- Going to the next place where the window opens, one line further, to the next place, and so on,
up to the first move that fails: marks at the places that the cursor comes to. -/
def visits (window : Window) (cursor : Cursor) : List Mark :=
  match _found : (seek .next window).apply cursor with
  | (.error _, _) => []
  | (.ok (), there) =>
    there.mark ::
      match _stepped : (moveTo (there.index + 1)).apply there with
      | (.error _, _) => []
      | (.ok (), onward) => visits window onward
termination_by cursor.body.length + 1 - cursor.index
decreasing_by
  obtain ⟨start, nearest, rfl⟩ := apply_seek_eq_ok.1 _found
  obtain ⟨inside, rfl⟩ := apply_moveTo_eq_ok.1 _stepped
  have ahead := le_of_nearest? nearest
  simp [stoppedAt, placed] at inside ⊢
  omega

theorem hits_next_eq_nil (beyond : cursor.body.length < cursor.index) :
    cursor.hits .next window = [] := by
  refine List.eq_nil_iff_forall_not_mem.2 fun place listed => ?_
  obtain ⟨ahead, fits, _⟩ := mem_hits_next.1 listed
  omega

/-- Whoever goes from place to place comes past all that a search for all places lists. -/
theorem visits_eq_occurrences (window : Window) (cursor : Cursor) :
    visits window cursor = cursor.occurrences .next window := by
  induction cursor using visits.induct window with
  | case1 cursor error left failed =>
    have missed : cursor.nearest? .next (window.opensAt cursor.body) = none := by
      rw [apply_seek] at failed
      split at failed
      · assumption
      · cases failed
    rw [visits.eq_1, failed, occurrences, nearest?_eq_none.1 missed]
    rfl
  | case2 cursor there found ih =>
    obtain ⟨start, nearest, rfl⟩ := apply_seek_eq_ok.1 found
    rw [visits.eq_1, found, occurrences, hits_of_nearest? nearest]
    refine congrArg (_ :: ·) ?_
    split
    · next error left stuck =>
      -- The place is the end itself, as the empty window opens there.
      have beyond : cursor.body.length < start + 1 := by
        rw [apply_moveTo] at stuck
        split at stuck
        · assumption
        · cases stuck
      rw [hits_next_eq_nil beyond]
      rfl
    · next onward stepped =>
      rw [ih onward stepped]
      obtain ⟨_, rfl⟩ := apply_moveTo_eq_ok.1 stepped
      rfl

/-- Marks at some places. -/
def marksAt (cursor : Cursor) (places : List Nat) : List Mark :=
  places.map fun place => (cursor.placed place).mark

/-- Searches are exact. Going to the next window, or to the previous one, ends at the nearest place
at which the window matches in that direction, and stops there as asked; exactly where there is none
it fails, and the cursor stays. A search for all occurrences marks all such places once each,
nearest first, so that those in front of the cursor, turned around, and those from it on are all
that the body has; it would find the same if it looked only where the window fits in. Going on from
place to place comes past the same ones. -/
theorem search_exact (cursor : Cursor) (window : Window) :
    (∀ landing start,
      (trySeek .next window landing).apply cursor =
          (.ok true, cursor.stoppedAt landing window start) ↔
        IsLeast {place | cursor.index ≤ place ∧ window.MatchesAt cursor.body place} start) ∧
    (∀ landing, (trySeek .next window landing).apply cursor = (.ok false, cursor) ↔
      ∀ place, cursor.index ≤ place → ¬ window.MatchesAt cursor.body place) ∧
    (∀ landing start,
      (trySeek .previous window landing).apply cursor =
          (.ok true, cursor.stoppedAt landing window start) ↔
        IsGreatest {place | place < cursor.index ∧ window.MatchesAt cursor.body place} start) ∧
    (∀ landing, (trySeek .previous window landing).apply cursor = (.ok false, cursor) ↔
      ∀ place, place < cursor.index → ¬ window.MatchesAt cursor.body place) ∧
    (window.places cursor.body).Pairwise (· < ·) ∧
    (∀ place, place ∈ window.places cursor.body ↔ window.MatchesAt cursor.body place) ∧
    cursor.occurrences .next window =
      cursor.marksAt ((window.places cursor.body).filter fun place => cursor.index ≤ place) ∧
    cursor.occurrences .previous window =
      cursor.marksAt
        ((window.places cursor.body).filter fun place => place < cursor.index).reverse ∧
    (cursor.occurrences .previous window).reverse ++ cursor.occurrences .next window =
      cursor.marksAt (window.places cursor.body) ∧
    (∀ direction, cursor.occurrences direction window = cursor.marksAt
      ((cursor.fitting window.length direction).filter (window.opensAt cursor.body))) ∧
    visits window cursor = cursor.occurrences .next window := by
  have marked (direction : Direction) : cursor.occurrences direction window =
      cursor.marksAt (cursor.hits direction window) := rfl
  refine ⟨?foundNext, ?missedNext, ?foundPrevious, ?missedPrevious, Window.pairwise_places,
    fun _ => Window.mem_places, ?behind, ?before, ?both, ?fitting,
    visits_eq_occurrences window cursor⟩
  case foundNext =>
    intro landing start
    rw [apply_trySeek_eq_found, nearest?_next_eq_some]
  case missedNext =>
    intro landing
    simp only [apply_trySeek_eq_missed, List.eq_nil_iff_forall_not_mem, mem_hits_next, not_and]
  case foundPrevious =>
    intro landing start
    rw [apply_trySeek_eq_found, nearest?_previous_eq_some]
  case missedPrevious =>
    intro landing
    simp only [apply_trySeek_eq_missed, List.eq_nil_iff_forall_not_mem, mem_hits_previous, not_and]
  case behind => rw [marked, hits_next_eq]
  case before => rw [marked, ← reverse_hits_previous_eq, List.reverse_reverse]
  case both =>
    rw [marked, marked, ← reverse_hits_append_hits, marksAt, marksAt, marksAt, ← List.map_reverse,
      List.map_append]
  case fitting =>
    intro direction
    rw [marked, filter_fitting]

/-- Places may overlap, and an empty window matches at the end, too. -/
example :
    Window.places [.opcode .nop, .opcode .nop] (.ofInstrs (.replicate 3 ⟨.nop, .none⟩)) = [0, 1] ∧
      Window.places [] (.ofInstrs (.replicate 3 ⟨.nop, .none⟩)) = [0, 1, 2, 3] := by
  cbv

end Cursor
end Retrofit

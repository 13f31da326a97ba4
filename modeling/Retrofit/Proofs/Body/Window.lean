import Retrofit.Body.Window
import Retrofit.Proofs.Body.Views

/-!
Where a window matches: it fits into the code, and each of its matchers accepts its instruction.
These are the indices up to the end at which it opens (`Window.matchesAt_iff`).
-/

namespace Retrofit.Window

variable {body : Body} {window : Window} {start : Nat}

/-- The window fits into the code at the index, and each of its matchers accepts the instruction
that it lies over. -/
def MatchesAt (window : Window) (body : Body) (start : Nat) : Prop :=
  start + window.length ≤ body.length ∧
    ∀ offset matcher, window[offset]? = some matcher →
      ∃ instr, body.instrAt? (start + offset) = some instr ∧ matcher instr = true

/-- What a window demands of the instructions holds where it opens, and nowhere else. -/
theorem opensAt_iff :
    window.opensAt body start = true ↔
      ∀ offset matcher, window[offset]? = some matcher →
        ∃ instr, body.instrAt? (start + offset) = some instr ∧ matcher instr = true := by
  induction window generalizing start with
  | nil => simp [opensAt]
  | cons first rest ih =>
    rw [opensAt, Bool.and_eq_true, ih, Option.any_eq_true]
    constructor
    · rintro ⟨here, behind⟩ (_ | offset) matcher listed
      · cases listed
        exact here
      · have later := behind offset matcher listed
        rwa [Nat.add_assoc, Nat.add_comm 1] at later
    · intro suits
      refine ⟨suits 0 first rfl, fun offset matcher listed => ?_⟩
      have later := suits (offset + 1) matcher listed
      rwa [Nat.add_assoc, Nat.add_comm 1]

theorem length_of_opensAt (opens : window.opensAt body start = true) (nonempty : window ≠ []) :
    start + window.length ≤ body.length := by
  have last : window.length - 1 < window.length :=
    Nat.sub_one_lt (mt List.length_eq_zero_iff.1 nonempty)
  obtain ⟨instr, here, _⟩ := opensAt_iff.1 opens _ _ (List.getElem?_eq_getElem last)
  rw [Body.instrAt?_eq] at here
  have inside := (List.getElem?_eq_some_iff.1 here).1
  rw [← Body.length_eq_instrs] at inside
  omega

theorem matchesAt_iff :
    window.MatchesAt body start ↔ start ≤ body.length ∧ window.opensAt body start = true := by
  constructor
  · rintro ⟨fits, suits⟩
    exact ⟨by omega, opensAt_iff.2 suits⟩
  · rintro ⟨inside, opens⟩
    refine ⟨?_, opensAt_iff.1 opens⟩
    by_cases nonempty : window = []
    · simpa [nonempty] using inside
    · exact length_of_opensAt opens nonempty

/-- All indices at which the window matches, in order. -/
def places (window : Window) (body : Body) : List Nat :=
  (List.range (body.length + 1)).filter (window.opensAt body)

theorem mem_places : start ∈ window.places body ↔ window.MatchesAt body start := by
  rw [places, List.mem_filter, List.mem_range, Nat.lt_succ_iff, matchesAt_iff]

theorem pairwise_places : (window.places body).Pairwise (· < ·) :=
  List.Pairwise.filter _ List.pairwise_lt_range

end Retrofit.Window

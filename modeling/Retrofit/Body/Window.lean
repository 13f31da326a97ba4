import Retrofit.Body.Basic
import Retrofit.Instr.Matcher

/-!
Windows: runs of consecutive instructions that satisfy a list of matchers one by one.
-/

namespace Retrofit

abbrev Window := List Matcher

namespace Window

/-- Whether the window opens at the index: the instructions from there on satisfy its matchers. An
empty window opens everywhere. -/
def opensAt (body : Body) : Window → Nat → Bool
  | [], _ => true
  | matcher :: window, index =>
    (body.instrAt? index).any matcher && opensAt body window (index + 1)

def opens : Window → List Instr → Bool
  | [], _ => true
  | _ :: _, [] => false
  | matcher :: window, instr :: instrs => matcher instr && opens window instrs

/-- A window opens at an index if it opens the code from there on. -/
theorem opensAt_eq (body : Body) (window : Window) (index : Nat) :
    window.opensAt body index = window.opens (body.instrs.drop index) := by
  induction window generalizing index with
  | nil => rfl
  | cons matcher window ih =>
    rw [opensAt, Body.instrAt?_eq, ih]
    rcases inside : body.instrs[index]? with _ | instr
    · rw [List.getElem?_eq_none_iff] at inside
      simp [List.drop_of_length_le inside, opens]
    · obtain ⟨bound, rfl⟩ := List.getElem?_eq_some_iff.1 inside
      rw [List.drop_eq_getElem_cons bound, opens]
      rfl

end Window
end Retrofit

/-!
Sets of code points as ascending ranges.
-/

namespace Retrofit.Text

/-- Ranges of code points, first and last included. -/
abbrev Ranges := List (Nat × Nat)

namespace Ranges

def contains : Ranges → Nat → Bool
  | [], _ => false
  | (first, last) :: rest, point =>
    (first ≤ point && point ≤ last) || Ranges.contains rest point

def count (ranges : Ranges) : Nat :=
  ranges.foldl (fun total range => total + (range.2 + 1 - range.1)) 0

/-- Each range is in order and ends before the next one begins, with a gap. -/
def ascending : Ranges → Bool
  | [] => true
  | [(first, last)] => first ≤ last
  | (first, last) :: (next, stop) :: rest =>
    first ≤ last && last + 1 < next && ascending ((next, stop) :: rest)

theorem contains_iff {ranges : Ranges} {point : Nat} :
    ranges.contains point = true ↔ ∃ range ∈ ranges, range.1 ≤ point ∧ point ≤ range.2 := by
  induction ranges with
  | nil => simp [contains]
  | cons range rest ih => simp [contains, ih]

end Ranges
end Retrofit.Text

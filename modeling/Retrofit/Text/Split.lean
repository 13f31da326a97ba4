/-!
Cutting text at a separator.
-/

namespace Retrofit.Text

/-- The parts before and behind the last occurrence of the separator. -/
def cutLast? (separator : List Char) : List Char → Option (List Char × List Char)
  | [] => none
  | c :: rest =>
    match cutLast? separator rest with
    | some (before, behind) => some (c :: before, behind)
    | none =>
      if separator.isPrefixOf (c :: rest) then
        some ([], (c :: rest).drop separator.length)
      else
        none

def pieces (separator : Char) : List Char → List (List Char)
  | [] => [[]]
  | c :: rest =>
    if c = separator then
      [] :: pieces separator rest
    else
      match pieces separator rest with
      | [] => [[c]]
      | piece :: others => (c :: piece) :: others

/-- The part behind the last occurrence of a character, or the whole text without one. -/
def behindLast (separator : Char) (text : String) : String :=
  match cutLast? [separator] text.toList with
  | some (_, behind) => String.ofList behind
  | none => text

def beginsWith (text opening : String) : Bool :=
  opening.toList.isPrefixOf text.toList

def endsWith (text ending : String) : Bool :=
  ending.toList.isSuffixOf text.toList

/-- The two halves of a cut, joined by the separator, are the whole text. -/
theorem eq_of_cutLast? {separator text before behind : List Char}
    (found : cutLast? separator text = some (before, behind)) :
    text = before ++ separator ++ behind := by
  induction text generalizing before with
  | nil => simp [cutLast?] at found
  | cons c rest ih =>
    unfold cutLast? at found
    split at found
    next inner _ same =>
      obtain ⟨rfl, rfl⟩ := by simpa using found
      simp [ih same]
    next =>
      split at found
      next opens =>
        obtain ⟨rfl, rfl⟩ := by simpa using found
        obtain ⟨tail, joined⟩ := List.isPrefixOf_iff_prefix.1 opens
        simp [← joined]
      next => simp at found

theorem cutLast?_eq_none {c : Char} {text : List Char} (absent : c ∉ text) (separator : List Char) :
    cutLast? (c :: separator) text = none := by
  induction text with
  | nil => rfl
  | cons d rest ih =>
    obtain ⟨apart, beyond⟩ : c ≠ d ∧ c ∉ rest := by simpa using absent
    rw [cutLast?, ih beyond]
    simp [apart]

theorem cutLast?_doubled {c : Char} (before : List Char) {behind : List Char}
    (absent : c ∉ behind) : cutLast? [c, c] (before ++ [c, c] ++ behind) = some (before, behind) := by
  -- the second of the two characters does not begin a separator, as none follows it
  have single : cutLast? [c, c] (c :: behind) = none := by
    rw [cutLast?, cutLast?_eq_none absent]
    cases behind with
    | nil => simp
    | cons d rest =>
      have apart : c ≠ d := fun same => absent (same ▸ List.mem_cons_self)
      simp [apart]
  induction before with
  | nil =>
    show cutLast? [c, c] (c :: c :: behind) = _
    rw [cutLast?, single]
    simp
  | cons d rest ih =>
    show cutLast? [c, c] (d :: (rest ++ [c, c] ++ behind)) = _
    rw [cutLast?, ih]

theorem pieces_ne_nil (separator : Char) (text : List Char) : pieces separator text ≠ [] := by
  cases text with
  | nil => simp [pieces]
  | cons c rest =>
    unfold pieces
    split
    · simp
    · split <;> simp

/-- Joining the pieces with the separator gives the text back. -/
theorem intercalate_pieces (separator : Char) (text : List Char) :
    List.intercalate [separator] (pieces separator text) = text := by
  induction text with
  | nil => simp [pieces, List.intercalate]
  | cons c rest ih =>
    unfold pieces
    split
    next same =>
      subst same
      cases split : pieces c rest with
      | nil => exact absurd split (pieces_ne_nil c rest)
      | cons piece others => simpa [split, List.intercalate] using ih
    next =>
      split
      next none => exact absurd none (pieces_ne_nil separator rest)
      next piece others split =>
        rw [split] at ih
        cases others <;> simpa [List.intercalate] using ih

end Retrofit.Text

import Retrofit.Proofs.Edit
import Retrofit.Rule.Ledger

/-!
What a ledger holds: the first value claimed for an aspect of a subject. A claim is accepted where it
is for the value that is held, if any (`enter_eq_ok`), and members are told apart by their texts.
-/

namespace Retrofit

theorem Text.natural_inj {number other : Nat} : natural number = natural other ↔ number = other := by
  refine ⟨fun same => ?_, congrArg natural⟩
  have digits := congrArg (Nat.ofDigitChars 10 · 0) (String.ofList_injective same)
  simpa only [Nat.ofDigitChars_ten_toDigits] using digits

/-- No two members have the same text. -/
theorem MemberId.text_inj {member other : MemberId} : member.text = other.text ↔ member = other := by
  refine ⟨fun same => ?_, congrArg text⟩
  have letters := congrArg String.toList same
  -- texts of different sorts differ in their first letter
  cases member <;> cases other <;>
    simp [text, kindName, String.toList_append, String.toList_inj, Text.natural_inj] at letters
  case type.type => exact congrArg (MemberId.type ⟨·⟩) letters
  case method.method => exact congrArg (MemberId.method ⟨·⟩) letters
  case field.field => exact congrArg (MemberId.field ⟨·⟩) letters

namespace Ledger

/-- The ledger in which the claim stands, unless there is one already for the aspect. -/
def holding (ledger : Ledger) (claim : Claim) : Ledger :=
  match ledger.value? claim.subject claim.aspect with
  | none => ⟨ledger.claims ++ [claim]⟩
  | some _ => ledger

theorem value?_append (claims : List Claim) (claim : Claim) (subject aspect : String) :
    value? ⟨claims ++ [claim]⟩ subject aspect =
      (value? ⟨claims⟩ subject aspect).or
        (if claim.subject = subject ∧ claim.aspect = aspect then some claim.value else none) := by
  rw [value?, value?, List.find?_append, List.find?_singleton]
  cases claims.find? fun claim => claim.subject = subject && claim.aspect = aspect with
  | some held => rfl
  | none => by_cases same : claim.subject = subject ∧ claim.aspect = aspect <;> simp [same]

/-- The first claim stands. -/
theorem value?_holding (ledger : Ledger) (claim : Claim) (subject aspect : String) :
    (ledger.holding claim).value? subject aspect =
      (ledger.value? subject aspect).or
        (if claim.subject = subject ∧ claim.aspect = aspect then some claim.value else none) := by
  rw [holding]
  split
  · exact value?_append ledger.claims claim subject aspect
  · next held =>
    by_cases same : claim.subject = subject ∧ claim.aspect = aspect
    · obtain ⟨rfl, rfl⟩ := same
      rw [held, Option.some_or]
    · rw [if_neg same, Option.or_none]

theorem enter_eq_ok {name : String} {claim : Claim} {ledger after : Ledger} :
    (enter name claim).apply ledger = (.ok (), after) ↔
      (∀ value, ledger.value? claim.subject claim.aspect = some value → value = claim.value) ∧
        after = ledger.holding claim := by
  rw [enter, Edit.apply_bind, Edit.apply_get, holding]
  dsimp only
  cases held : ledger.value? claim.subject claim.aspect with
  | none => simp [eq_comm]
  | some value =>
    dsimp only
    by_cases same : value = claim.value
    · simp [same, eq_comm]
    · simp [same]

end Ledger
end Retrofit

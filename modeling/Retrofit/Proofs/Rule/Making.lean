import Retrofit.Proofs.Body.Making
import Retrofit.Proofs.Rule.Upkeep

/-!
Which types code makes objects of does not change when a request on it is served, or fails to be:
the built-in rules for bodies neither write nor remove an instruction that makes an object
(`Rule.upheld_made`).
-/

namespace Retrofit

theorem Instr.made?_bare (opcode : Opcode) : (⟨opcode, .none⟩ : Instr).made? = none := by
  rw [made?]
  split
  · next carries => cases carries
  · rfl

/-- A change of an instruction in its line neither makes an object nor keeps one from being made. -/
theorem Instr.Rework.made?_eq {old new : Instr} (reworked : old.Rework new) :
    new.made? = old.made? := by
  have other {instr : Instr} {opcode : Opcode} (same : instr.opcode.lengthened = opcode)
      (apart : opcode ≠ .newobj) : instr.made? = none := by
    refine made?_eq_none fun makes => apart ?_
    rw [← same, makes]
    rfl
  cases reworked with
  | widen => exact made?_widened old
  | callDirectly => rfl
  | substitute calls => rw [made?_bare, made?_eq_none (by simp [calls])]
  | turn skips admits => rw [other skips (by decide), other admits (by decide)]
  | reload loaded loads => rw [made?_eq_none (by simp [loads]), made?_eq_none (by simp [loaded])]

/-- The body under the cursor makes objects of the given types. -/
def Cursor.Makes (types : List String) (cursor : Cursor) : Prop := cursor.body.made = types

theorem Rule.upheld_made (types : List String) : Upheld fun body => body.made = types where
  labels _ makes := makes
  inserted _ _ other _ makes := (Body.made_inserted (Instr.made?_eq_none other)).trans makes
  reworked reworks makes :=
    (Body.made_changeAt fun old here => (reworks old here).made?_eq).trans makes
  erased calls makes := by
    refine (Body.made_erased fun old here => Instr.made?_eq_none fun same => ?_).trans makes
    have call := calls old here
    rw [same] at call
    exact absurd call (by decide)

end Retrofit

import Retrofit.Edit
import Retrofit.Module.Member

/-!
The ledger of a run: which value each aspect of each subject has been claimed for. The first claim
stands, a second one for another value is a conflict.
-/

namespace Retrofit

/-- A value claimed for an aspect of a subject. -/
structure Claim where
  subject : String
  aspect : String
  value : String
deriving DecidableEq

/-- The claims made so far, in order. -/
structure Ledger where
  claims : List Claim := []

namespace Ledger

def size (ledger : Ledger) : Nat := ledger.claims.length

def value? (ledger : Ledger) (subject aspect : String) : Option String :=
  (ledger.claims.find? fun claim => claim.subject = subject && claim.aspect = aspect).map
    Claim.value

/-- Enters a claim. A conflict is reported under the given name. -/
def enter (name : String) (claim : Claim) : Edit Ledger Unit := do
  let ledger ← get
  match ledger.value? claim.subject claim.aspect with
  | none => set { ledger with claims := ledger.claims ++ [claim] }
  | some value =>
    if value ≠ claim.value then
      throw (.conflict name claim.aspect value claim.value)

/-- Claims a value for an aspect of a subject known by its name. -/
def claim (subject aspect value : String) : Edit Ledger Unit :=
  enter subject ⟨subject, aspect, value⟩

/-- Claims a value for an aspect of a member. The claim follows the member through renaming; the
name only serves to report a conflict. -/
def claimFor (member : MemberId) (name aspect value : String) : Edit Ledger Unit :=
  enter name ⟨member.text, aspect, value⟩

end Ledger
end Retrofit

import Retrofit.Assembly.Identity
import Retrofit.Assembly.Version
import Retrofit.Text.Quoted

/-!
References to other assemblies, and when two of them mean the same one.
-/

namespace Retrofit

/-- A reference to an assembly by name, version, culture and signer. -/
structure AssemblyRef where
  name : String
  version : Version
  culture : Option String := none
  identity : Option Identity := none
deriving DecidableEq

namespace AssemblyRef

def token? (algorithm : HashAlgorithm) (ref : AssemblyRef) : Option UInt64 :=
  ref.identity.map (Identity.tokenUnder algorithm)

/-- Two references mean the same assembly if the names agree, and the tokens where both have one.
Versions do not matter. -/
def denotesSame (algorithm : HashAlgorithm) (left right : AssemblyRef) : Bool :=
  left.name = right.name &&
    match left.token? algorithm, right.token? algorithm with
    | some leftToken, some rightToken => leftToken = rightToken
    | _, _ => true

def text (ref : AssemblyRef) : String :=
  ref.name ++ ", Version=" ++ ref.version.text
    ++ ", Culture=" ++ ref.culture.getD "neutral"
    ++ ", PublicKeyToken=" ++ ((ref.token? .sha1).map Identity.tokenText).getD "null"

theorem denotesSame_refl (algorithm : HashAlgorithm) (ref : AssemblyRef) :
    denotesSame algorithm ref ref = true := by
  unfold denotesSame
  cases ref.token? algorithm <;> simp

theorem denotesSame_comm (algorithm : HashAlgorithm) (left right : AssemblyRef) :
    denotesSame algorithm left right = denotesSame algorithm right left := by
  unfold denotesSame
  cases left.token? algorithm <;> cases right.token? algorithm <;> simp [eq_comm]

end AssemblyRef

/-- A condition on references. -/
inductive ReferenceFilter where
  | named (name : String)
  | opening (text : String)
  | token (value : UInt64)
  | custom (accepts : AssemblyRef → Bool)

namespace ReferenceFilter

def accepts (algorithm : HashAlgorithm) (ref : AssemblyRef) : ReferenceFilter → Bool
  | .named name => ref.name = name
  | .opening text => Text.beginsWith ref.name text
  | .token value => ref.token? algorithm = some value
  | .custom accepts => accepts ref

def text : ReferenceFilter → String
  | .named name => "Name(" ++ Text.quoted name ++ ")"
  | .opening text => "NamePrefix(" ++ Text.quoted text ++ ")"
  | .token value => "PublicKeyToken(" ++ Text.paddedHex 16 value.toNat ++ ")"
  | .custom _ => "Custom(..)"

end ReferenceFilter
end Retrofit

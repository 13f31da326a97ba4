import Retrofit.Text.Digits

/-!
The names that instructions and jump targets go by within one method body.
-/

namespace Retrofit

/-- The identity of an instruction. A body gives each out once. -/
structure InstrId where
  index : Nat
deriving DecidableEq

def InstrId.text (id : InstrId) : String := "I_" ++ Text.paddedDecimal 4 id.index

/-- A name that branches jump to. -/
structure LabelId where
  index : Nat
deriving DecidableEq

def LabelId.text (label : LabelId) : String := "L_" ++ Text.paddedDecimal 4 label.index

end Retrofit

/-!
Binary floating point formats: what a bit pattern stands for.
-/

namespace Retrofit.Decimal

/-- The layout of a binary floating point format. -/
structure Format where
  fractionBits : Nat
  exponentBits : Nat

def Format.single : Format := ⟨23, 8⟩

def Format.double : Format := ⟨52, 11⟩

/-- A positive number of a format: `significand · 2 ^ exponent`. Its lower neighbour is nearer than
its upper one where the exponent changes. -/
structure Binary where
  significand : Nat
  exponent : Int
  nearerBelow : Bool

/-- What a bit pattern stands for, apart from its sign. -/
inductive Magnitude where
  | nan
  | infinite
  | zero
  | positive (number : Binary)

namespace Format

/-- The amount by which stored exponents exceed the real ones. -/
def bias (format : Format) : Nat := (1 <<< (format.exponentBits - 1)) - 1

def isNegative (format : Format) (bits : Nat) : Bool :=
  (bits >>> (format.fractionBits + format.exponentBits)) % 2 = 1

def magnitude (format : Format) (bits : Nat) : Magnitude :=
  let fraction := bits % (1 <<< format.fractionBits)
  let stored := (bits >>> format.fractionBits) % (1 <<< format.exponentBits)
  let lowest : Int := 1 - format.bias - format.fractionBits
  if stored = (1 <<< format.exponentBits) - 1 then
    if fraction = 0 then .infinite else .nan
  else if stored = 0 then
    if fraction = 0 then .zero else .positive ⟨fraction, lowest, false⟩
  else
    .positive
      ⟨(1 <<< format.fractionBits) + fraction, lowest + (stored - 1), fraction = 0 && 1 < stored⟩

end Format
end Retrofit.Decimal

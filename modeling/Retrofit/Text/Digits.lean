/-!
Numbers as digits.
-/

namespace Retrofit.Text

def hexDigits (number : Nat) : List Char := Nat.toDigits 16 number

/-- Zeros in front up to the width. -/
def zeroFilled (width : Nat) (digits : List Char) : List Char :=
  List.replicate (width - digits.length) '0' ++ digits

/-- A number in decimal, with zeros in front up to the width. -/
def paddedDecimal (width number : Nat) : String :=
  String.ofList (zeroFilled width (Nat.toDigits 10 number))

/-- A number in lower case hexadecimal, with zeros in front up to the width. -/
def paddedHex (width number : Nat) : String :=
  String.ofList (zeroFilled width (hexDigits number))

def natural (number : Nat) : String := String.ofList (Nat.toDigits 10 number)

/-- A whole number in decimal, with a sign when it is negative. -/
def integer (number : Int) : String :=
  if number < 0 then "-" ++ natural number.natAbs else natural number.natAbs

/-- Texts joined by a comma and a blank. -/
def commaSeparated (items : List String) : String := ", ".intercalate items

end Retrofit.Text

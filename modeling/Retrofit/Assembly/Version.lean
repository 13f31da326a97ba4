import Retrofit.Error
import Retrofit.Text.Split

/-!
Version numbers of assemblies: four components, written with dots between them.
-/

namespace Retrofit

/-- A version with its four components, most significant first. -/
structure Version where
  major : UInt16
  minor : UInt16
  build : UInt16
  revision : UInt16
deriving DecidableEq

namespace Version

def components (version : Version) : List UInt16 :=
  [version.major, version.minor, version.build, version.revision]

/-- The version with the given components; further ones are zero. -/
def ofComponents (components : List UInt16) : Version :=
  let component (index : Nat) : UInt16 := components[index]?.getD 0
  ⟨component 0, component 1, component 2, component 3⟩

instance : Ord Version where
  compare left right := compare left.components right.components

def text (version : Version) : String :=
  ".".intercalate (version.components.map fun component => Text.natural component.toNat)

def digitsValue (digits : List Char) : Nat :=
  digits.foldl (fun value digit => 10 * value + (digit.toNat - '0'.toNat)) 0

/-- A component: decimal digits for a number of 16 bits, at least one, perhaps with a plus sign in
front. -/
def component? (text : List Char) : Option UInt16 :=
  let digits := match text with
    | '+' :: rest => rest
    | _ => text
  if digits ≠ [] ∧ digits.all Char.isDigit ∧ digitsValue digits < UInt16.size then
    some (UInt16.ofNat (digitsValue digits))
  else
    none

/-- Reads the components in order and stops at the first that is none. -/
def readComponents : List (List Char) → Except PatchError (List UInt16)
  | [] => .ok []
  | piece :: rest =>
    match component? piece with
    | none => .error (.malformed (.versionComponent (String.ofList piece)))
    | some component => (readComponents rest).map (component :: ·)

/-- Reads a version of one to four components; missing ones are zero. -/
def parse (text : String) : Except PatchError Version :=
  let pieces := Text.pieces '.' text.toList
  if 4 < pieces.length then
    .error (.malformed (.versionFormat text))
  else
    (readComponents pieces).map ofComponents

end Version
end Retrofit

/-!
What the digests share: messages of bytes, filled up to whole blocks of sixteen words.
-/

namespace Retrofit.Digest

/-- The number with the given bytes, most significant first. -/
def fromBigEndian (bytes : List UInt8) : Nat :=
  bytes.foldl (fun number byte => number * 256 + byte.toNat) 0

/-- The number with the given bytes, least significant first. -/
def fromLittleEndian (bytes : List UInt8) : Nat :=
  fromBigEndian bytes.reverse

/-- The lowest bytes of a number, least significant first. -/
def toLittleEndian : Nat → Nat → List UInt8
  | 0, _ => []
  | width + 1, number => UInt8.ofNat number :: toLittleEndian width (number / 256)

/-- The lowest bytes of a number, most significant first. -/
def toBigEndian (width number : Nat) : List UInt8 :=
  (toLittleEndian width number).reverse

/-- The message, a single one bit, zeros, and the length of the message in bits: whole blocks of 64
bytes. -/
def padded (lengthField : Nat → List UInt8) (message : List UInt8) : List UInt8 :=
  let zeros := (119 - message.length % 64) % 64
  message ++ 0x80 :: List.replicate zeros 0 ++ lengthField (8 * message.length)

def groups (size : Nat) (elements : List α) : List (List α) :=
  (List.range (elements.length / size)).map fun index => (elements.drop (size * index)).take size

theorem padded_length {lengthField : Nat → List UInt8} (message : List UInt8)
    (wide : ∀ bits, (lengthField bits).length = 8) :
    (padded lengthField message).length % 64 = 0 := by
  simp only [padded, List.length_append, List.length_cons, List.length_replicate, wide]
  omega

@[simp] theorem length_toLittleEndian (width number : Nat) :
    (toLittleEndian width number).length = width := by
  induction width generalizing number with
  | zero => rfl
  | succ width ih => simp [toLittleEndian, ih]

@[simp] theorem length_toBigEndian (width number : Nat) :
    (toBigEndian width number).length = width := by
  simp [toBigEndian]

def rotateLeft (word : UInt32) (places : UInt32) : UInt32 :=
  word <<< places ||| word >>> (32 - places)

end Retrofit.Digest

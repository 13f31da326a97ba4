import Retrofit.Digest.Blocks

/-!
The SHA-1 digest.
-/

namespace Retrofit.Digest.Sha1

/-- The five words carried from block to block. -/
structure State where
  a : UInt32
  b : UInt32
  c : UInt32
  d : UInt32
  e : UInt32

def initial : State := ⟨0x67452301, 0xefcdab89, 0x98badcfe, 0x10325476, 0xc3d2e1f0⟩

/-- Puts the next word of the schedule in front of the words so far, newest first. -/
def extend (words : List UInt32) : List UInt32 :=
  let back (distance : Nat) : UInt32 := (words[distance - 1]?).getD 0
  rotateLeft (back 3 ^^^ back 8 ^^^ back 14 ^^^ back 16) 1 :: words

/-- The 80 words that a block supplies, one for each step. -/
def schedule (block : List UInt8) : List UInt32 :=
  let words := (groups 4 block).map fun bytes => UInt32.ofNat (fromBigEndian bytes)
  (Nat.repeat extend 64 words.reverse).reverse

def mix (state : State) (step : Nat) : UInt32 × UInt32 :=
  let ⟨_, b, c, d, _⟩ := state
  match step / 20 with
  | 0 => ((b &&& c) ||| (~~~b &&& d), 0x5a827999)
  | 1 => (b ^^^ c ^^^ d, 0x6ed9eba1)
  | 2 => ((b &&& c) ||| (b &&& d) ||| (c &&& d), 0x8f1bbcdc)
  | _ => (b ^^^ c ^^^ d, 0xca62c1d6)

def advance (state : State) (step : Nat × UInt32) : State :=
  let (mixed, constant) := mix state step.1
  let sum := rotateLeft state.a 5 + mixed + state.e + constant + step.2
  ⟨sum, state.a, rotateLeft state.b 30, state.c, state.d⟩

def compress (state : State) (block : List UInt8) : State :=
  let final := ((List.range 80).zip (schedule block)).foldl advance state
  ⟨state.a + final.a, state.b + final.b, state.c + final.c, state.d + final.d, state.e + final.e⟩

def digest (message : List UInt8) : List UInt8 :=
  let final := (groups 64 (padded (toBigEndian 8) message)).foldl compress initial
  [final.a, final.b, final.c, final.d, final.e].flatMap fun word => toBigEndian 4 word.toNat

theorem length_digest (message : List UInt8) : (digest message).length = 20 := by
  simp [digest]

end Retrofit.Digest.Sha1

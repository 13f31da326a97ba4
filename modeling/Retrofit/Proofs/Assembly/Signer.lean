import Mathlib
import Retrofit.Assembly.Reference

/-!
Whether the key of a signer and the token that a row holds in its place name the same signer.

A row holds the last eight bytes of the digest of the key in reverse order. A token is computed from
a key without turning the bytes round: `Identity.key_and_storedToken` says what both come to, and
that they agree exactly if the bytes read the same both ways.
-/

namespace Retrofit

namespace Digest

variable {bytes left right : List UInt8}

@[simp] theorem fromLittleEndian_nil : fromLittleEndian [] = 0 := rfl

@[simp] theorem fromLittleEndian_cons (byte : UInt8) (bytes : List UInt8) :
    fromLittleEndian (byte :: bytes) = fromLittleEndian bytes * 256 + byte.toNat := by
  simp [fromLittleEndian, fromBigEndian]

theorem fromLittleEndian_lt (bytes : List UInt8) : fromLittleEndian bytes < 256 ^ bytes.length := by
  induction bytes with
  | nil => simp
  | cons byte bytes ih =>
    have low := byte.toNat_lt
    rw [fromLittleEndian_cons, List.length_cons, pow_succ]
    omega

/-- Bytes can be read off the number they make up. -/
@[simp] theorem toLittleEndian_fromLittleEndian (bytes : List UInt8) :
    toLittleEndian bytes.length (fromLittleEndian bytes) = bytes := by
  induction bytes with
  | nil => rfl
  | cons byte bytes ih =>
    have low := byte.toNat_lt
    have lowest : UInt8.ofNat (fromLittleEndian bytes * 256 + byte.toNat) = byte := by
      apply UInt8.toNat_inj.1
      rw [UInt8.toNat_ofNat']
      omega
    have others : (fromLittleEndian bytes * 256 + byte.toNat) / 256 = fromLittleEndian bytes := by
      omega
    rw [fromLittleEndian_cons, List.length_cons, toLittleEndian, lowest, others, ih]

theorem fromLittleEndian_inj (same : left.length = right.length) :
    fromLittleEndian left = fromLittleEndian right ↔ left = right := by
  refine ⟨fun equal => ?_, congrArg _⟩
  rw [← toLittleEndian_fromLittleEndian left, same, equal, toLittleEndian_fromLittleEndian]

end Digest

namespace Identity

variable {key bytes left right stored : List UInt8}

/-- The token that a row holds in place of a key: the last eight bytes of the digest of the key, in
reverse order. -/
def storedToken (key : List UInt8) : List UInt8 :=
  ((Digest.Sha1.digest key).drop 12).reverse

/-- Bytes in hexadecimal, in their order. -/
def hexText (bytes : List UInt8) : String :=
  String.join (bytes.map fun byte => Text.paddedHex 2 byte.toNat)

/-- The text of a signed reference, by the bytes of its token. -/
def signedText (name : String) (version : Version) (culture : Option String)
    (token : List UInt8) : String :=
  name ++ ", Version=" ++ version.text ++ ", Culture=" ++ culture.getD "neutral"
    ++ ", PublicKeyToken=" ++ hexText token

/-- A key and the bytes of a token name one signer: both can be read, they come to the same token,
references with them that agree in the name mean the same assembly, and both are printed with the
bytes of the token. -/
def SameSigner (key stored : List UInt8) : Prop :=
  ∃ byKey byToken, ofBytes key true = .ok byKey ∧ ofBytes stored false = .ok byToken ∧
    byKey.tokenUnder .sha1 = byToken.tokenUnder .sha1 ∧
    (∀ name version otherVersion culture otherCulture,
      AssemblyRef.denotesSame .sha1 ⟨name, version, culture, some byKey⟩
        ⟨name, otherVersion, otherCulture, some byToken⟩ = true) ∧
    ∀ identity ∈ [byKey, byToken], ∀ name version culture,
      AssemblyRef.text ⟨name, version, culture, some identity⟩ =
        signedText name version culture stored

/-- The token with the given eight bytes. -/
def ofEight (bytes : List UInt8) : UInt64 := UInt64.ofNat (Digest.fromLittleEndian bytes)

theorem toNat_ofEight (eight : bytes.length = 8) :
    (ofEight bytes).toNat = Digest.fromLittleEndian bytes := by
  have below := Digest.fromLittleEndian_lt bytes
  rw [eight] at below
  exact UInt64.toNat_ofNat_of_lt below

theorem ofEight_inj (leftEight : left.length = 8) (rightEight : right.length = 8) :
    ofEight left = ofEight right ↔ left = right := by
  rw [← UInt64.toNat_inj, toNat_ofEight leftEight, toNat_ofEight rightEight,
    Digest.fromLittleEndian_inj (leftEight.trans rightEight.symm)]

/-- A token is printed as its eight bytes, in their order. -/
theorem tokenText_ofEight (eight : bytes.length = 8) :
    tokenText (ofEight bytes) = hexText bytes := by
  rw [tokenText, toNat_ofEight eight, ← eight, Digest.toLittleEndian_fromLittleEndian, hexText]

theorem length_storedToken (key : List UInt8) : (storedToken key).length = 8 := by
  simp [storedToken, Digest.Sha1.length_digest]

/-- What is computed from a key are the bytes of the token that rows hold, the other way round. -/
theorem keyToken_sha1 (key : List UInt8) :
    keyToken .sha1 key = ofEight (storedToken key).reverse := by
  simp [keyToken, ofEight, storedToken, HashAlgorithm.digest, Digest.Sha1.length_digest]

theorem exists_ofBytes_key (key : List UInt8) : ∃ byKey, ofBytes key true = .ok byKey ∧
    byKey.tokenUnder .sha1 = ofEight (storedToken key).reverse := by
  rw [← keyToken_sha1]
  unfold ofBytes
  by_cases standard : key.length = 16
  · exact ⟨.standardKey key, by simp [standard], rfl⟩
  · exact ⟨.publicKey key, by simp [standard], rfl⟩

theorem ofBytes_eight (eight : stored.length = 8) :
    ofBytes stored false = .ok (.token (ofEight stored)) := by
  simp [ofBytes, ofEight, eight, List.take_of_length_le]

end Identity

namespace AssemblyRef

variable {algorithm : HashAlgorithm} {name : String} {version otherVersion : Version}
  {culture otherCulture : Option String} {mine other : Identity} {bytes : List UInt8}

/-- Two signed references of one name mean the same assembly exactly if the tokens agree. -/
theorem denotesSame_signed :
    denotesSame algorithm ⟨name, version, culture, some mine⟩
        ⟨name, otherVersion, otherCulture, some other⟩ = true ↔
      mine.tokenUnder algorithm = other.tokenUnder algorithm := by
  simp [denotesSame, token?]

theorem text_signed (eight : bytes.length = 8)
    (token : mine.tokenUnder .sha1 = Identity.ofEight bytes) :
    text ⟨name, version, culture, some mine⟩ =
      Identity.signedText name version culture bytes := by
  simp only [text, token?, Option.map_some, Option.getD_some, token,
    Identity.tokenText_ofEight eight, Identity.signedText]

end AssemblyRef

namespace Identity

variable {key stored : List UInt8}

/-- Of all tokens with eight bytes a key goes with one: the end of its digest, as it stands. -/
theorem sameSigner_iff (eight : stored.length = 8) :
    SameSigner key stored ↔ (storedToken key).reverse = stored := by
  have turned : (storedToken key).reverse.length = 8 := by simp [length_storedToken]
  obtain ⟨byKey, readKey, tokenOfKey⟩ := exists_ofBytes_key key
  have readToken := ofBytes_eight eight
  constructor
  case mp =>
    rintro ⟨byKey', byToken, readKey', readToken', agree, -, -⟩
    obtain rfl := Except.ok.inj (readKey.symm.trans readKey')
    obtain rfl := Except.ok.inj (readToken.symm.trans readToken')
    exact (ofEight_inj turned eight).1 (tokenOfKey.symm.trans agree)
  case mpr =>
    intro same
    rw [same] at tokenOfKey
    refine ⟨byKey, .token (ofEight stored), readKey, readToken, tokenOfKey, ?denotes, ?texts⟩
    case denotes =>
      intro name version otherVersion culture otherCulture
      exact AssemblyRef.denotesSame_signed.2 tokenOfKey
    case texts =>
      intro identity mine name version culture
      have token : identity.tokenUnder .sha1 = ofEight stored := by
        rcases List.mem_pair.1 mine with rfl | rfl
        · exact tokenOfKey
        · rfl
      exact AssemblyRef.text_signed eight token

/-- A key and the token that rows hold for it can both be read. A reference with the token is
printed with the bytes as they are stored, one with the key with these bytes in reverse. So the two
name one signer, and mean the same assembly, exactly if the bytes read the same both ways; with the
bytes in the order of the digest they always would. -/
theorem key_and_storedToken (key : List UInt8) :
    ∃ byKey byToken, ofBytes key true = .ok byKey ∧
      ofBytes (storedToken key) false = .ok byToken ∧
      (∀ name version culture,
        AssemblyRef.text ⟨name, version, culture, some byKey⟩ =
            signedText name version culture (storedToken key).reverse ∧
          AssemblyRef.text ⟨name, version, culture, some byToken⟩ =
            signedText name version culture (storedToken key)) ∧
      (byKey.tokenUnder .sha1 = byToken.tokenUnder .sha1 ↔
        (storedToken key).reverse = storedToken key) ∧
      (∀ name version otherVersion culture otherCulture,
        AssemblyRef.denotesSame .sha1 ⟨name, version, culture, some byKey⟩
            ⟨name, otherVersion, otherCulture, some byToken⟩ = true ↔
          (storedToken key).reverse = storedToken key) ∧
      (SameSigner key (storedToken key) ↔ (storedToken key).reverse = storedToken key) ∧
      SameSigner key (storedToken key).reverse := by
  have eight := length_storedToken key
  have turned : (storedToken key).reverse.length = 8 := by simp [eight]
  obtain ⟨byKey, readKey, tokenOfKey⟩ := exists_ofBytes_key key
  have agree : byKey.tokenUnder .sha1 = ofEight (storedToken key) ↔
      (storedToken key).reverse = storedToken key := by
    rw [tokenOfKey, ofEight_inj turned eight]
  refine ⟨byKey, .token (ofEight (storedToken key)), readKey, ofBytes_eight eight, ?texts, agree,
    ?denotes, sameSigner_iff eight, (sameSigner_iff turned).2 rfl⟩
  case texts =>
    intro name version culture
    exact ⟨AssemblyRef.text_signed turned tokenOfKey, AssemblyRef.text_signed eight rfl⟩
  case denotes =>
    intro name version otherVersion culture otherCulture
    exact AssemblyRef.denotesSame_signed.trans agree

/-- The short key of the standard libraries. -/
def librariesKey : List UInt8 := [0, 0, 0, 0, 0, 0, 0, 0, 4, 0, 0, 0, 0, 0, 0, 0]

set_option maxRecDepth 4000 in
theorem storedToken_librariesKey :
    storedToken librariesKey = [0xb7, 0x7a, 0x5c, 0x56, 0x19, 0x34, 0xe0, 0x89] := by
  decide +kernel

/-- The key of the standard libraries and the token in the references to them do not name the same
signer. -/
theorem librariesKey_not_sameSigner :
    storedToken librariesKey = [0xb7, 0x7a, 0x5c, 0x56, 0x19, 0x34, 0xe0, 0x89] ∧
      ¬ SameSigner librariesKey (storedToken librariesKey) := by
  refine ⟨storedToken_librariesKey, ?_⟩
  rw [sameSigner_iff (length_storedToken librariesKey), storedToken_librariesKey]
  decide

end Identity
end Retrofit

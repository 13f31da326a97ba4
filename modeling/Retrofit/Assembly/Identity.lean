import Retrofit.Digest.Md5
import Retrofit.Digest.Sha1
import Retrofit.Error

/-!
Strong names of assemblies: public keys, and the tokens that stand for them.
-/

namespace Retrofit

/-- The digests from which tokens are taken. -/
inductive HashAlgorithm where
  | md5 | sha1
deriving DecidableEq

namespace HashAlgorithm

def id : HashAlgorithm → Nat
  | .md5 => 0x8003
  | .sha1 => 0x8004

def ofId (id : Nat) : Except PatchError HashAlgorithm :=
  if id = 0x8003 then .ok .md5
  else if id = 0x8004 then .ok .sha1
  else .error (.malformed (.unsupportedHash id))

def digest : HashAlgorithm → List UInt8 → List UInt8
  | .md5 => Digest.Md5.digest
  | .sha1 => Digest.Sha1.digest

end HashAlgorithm

/-- What a reference knows of the key that signed an assembly: the key itself, the short key of the
standard libraries, or a token. -/
inductive Identity where
  | publicKey (bytes : List UInt8)
  | token (value : UInt64)
  | standardKey (bytes : List UInt8)
deriving DecidableEq

namespace Identity

/-- The identity in a row of metadata, which holds a key or the eight bytes of a token. -/
def ofBytes (bytes : List UInt8) (isKey : Bool) : Except PatchError Identity :=
  if isKey then
    .ok (if bytes.length = 16 then .standardKey bytes else .publicKey bytes)
  else if bytes.length < 8 then
    .error (.malformed (.shortToken bytes.length))
  else
    .ok (.token (UInt64.ofNat (Digest.fromLittleEndian (bytes.take 8))))

/-- The token of a key: the last eight bytes of its digest, least significant first. -/
def keyToken (algorithm : HashAlgorithm) (key : List UInt8) : UInt64 :=
  let digest := algorithm.digest key
  UInt64.ofNat (Digest.fromLittleEndian (digest.drop (digest.length - 8)))

def tokenUnder (algorithm : HashAlgorithm) : Identity → UInt64
  | .publicKey bytes => keyToken algorithm bytes
  | .standardKey bytes => keyToken algorithm bytes
  | .token value => value

/-- The bytes of a token in hexadecimal, in the order of storage. -/
def tokenText (token : UInt64) : String :=
  String.join ((Digest.toLittleEndian 8 token.toNat).map fun byte => Text.paddedHex 2 byte.toNat)

end Identity
end Retrofit

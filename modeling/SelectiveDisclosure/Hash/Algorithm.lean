import SelectiveDisclosure.Hash.Blake3

namespace SelectiveDisclosure

abbrev Hash := Octets 32

abbrev Hasher := String → Option String → Hash

inductive HashAlgorithm where
  | sha256
  | blake3
deriving DecidableEq, Inhabited

namespace HashAlgorithm

def digest : HashAlgorithm → List UInt8 → Hash
  | .sha256 => Sha256.digest
  | .blake3 => Blake3.digest

def hasher (a : HashAlgorithm) : Hasher :=
  fun value nonce => a.digest (utf8 (nonce.getD "") ++ utf8 value)

end HashAlgorithm

end SelectiveDisclosure

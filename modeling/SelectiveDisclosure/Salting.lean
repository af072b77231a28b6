import SelectiveDisclosure.Hash.Algorithm
import SelectiveDisclosure.Text.Hex
import SelectiveDisclosure.SortedMap

namespace SelectiveDisclosure

abbrev NonceMap := SortedMap Hash String

def NonceMap.restrictedTo (m : NonceMap) (digests : List Hash) : NonceMap :=
  SortedMap.ofList (digests.filterMap fun d => (m.get? d).map fun nonce => (d, nonce))

abbrev NonceSource := Nat → Hash → String

structure HashedStatement where
  statement : String
  digest : Hash
  nonce : String
  saltedHash : Hash
deriving DecidableEq

def saltedHash (hasher : Hasher) (digest : Hash) (nonce : String) : Hash :=
  hasher digest.hex (some nonce)

def hashStatement (hasher : Hasher) (statement nonce : String) : HashedStatement :=
  let digest := hasher statement none
  ⟨statement, digest, nonce, saltedHash hasher digest nonce⟩

def hashStatementsFrom (hasher : Hasher) (nonces : NonceMap) (source : NonceSource) :
    Nat → List String → List HashedStatement
  | _, [] => []
  | drawn, s :: rest =>
      let digest := hasher s none
      match nonces.get? digest with
      | some nonce =>
          hashStatement hasher s nonce :: hashStatementsFrom hasher nonces source drawn rest
      | none =>
          hashStatement hasher s (source drawn digest) ::
            hashStatementsFrom hasher nonces source (drawn + 1) rest

def hashStatements (hasher : Hasher) (nonces : NonceMap) (source : NonceSource)
    (statements : List String) : List HashedStatement :=
  hashStatementsFrom hasher nonces source 0 statements

def nonceMapOf (hashed : List HashedStatement) : NonceMap :=
  SortedMap.ofList (hashed.map fun h => (h.digest, h.nonce))

-- The version and variant bits of a version 4 identifier are set.
def versionedBits (n : Nat) : Nat :=
  (n &&& 0xFFFFFFFFFFFF4FFFBFFFFFFFFFFFFFFF) ||| 0x00000000000040008000000000000000

def uuidText (n : Nat) : String :=
  let cs := (bigEndianBytes 16 (versionedBits n)).flatMap Hex.encodeByte
  String.ofList (cs.take 8 ++ '-' :: ((cs.drop 8).take 4 ++ '-' :: ((cs.drop 12).take 4 ++
    '-' :: ((cs.drop 16).take 4 ++ '-' :: cs.drop 20))))

end SelectiveDisclosure

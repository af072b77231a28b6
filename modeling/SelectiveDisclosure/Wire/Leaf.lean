import SelectiveDisclosure.Wire.Decoder
import SelectiveDisclosure.Did.Document

namespace SelectiveDisclosure.Wire

def hash : Decoder Hash := parsed (Hex.decodeExactly 32) .hex

def did : Decoder Did := parsed Did.parse .did

def keyUri : Decoder KeyUri := parsed KeyUri.parse .keyUri

def documentId : Decoder DocumentId := parsed DocumentId.parse .documentId

def time : Decoder Instant := parsed Rfc3339.read .time

def bytes : Decoder (List UInt8) := parsed Hex.decode .hex

def publicKey : Decoder PublicKey
  | c, source => do
      let key ← bytes c source
      match Octets.ofList? 33 key with
      | some key => return key
      | none => throw (.refused (.byteCount key.length))

def content : Decoder Content
  | c, source => do
      let j ← json c source
      (Content.ofJson j).mapError fun e => .refused (.content e)

def hashKey (s : String) : Except DecodeError Hash :=
  (Hex.decodeExactly 32 s).mapError fun e => .refused (.hex e)

def nonceMap : Decoder NonceMap := hashMap string hashKey

def hashAlgorithms : List (String × HashAlgorithm) := [("sha256", .sha256), ("blake3", .blake3)]

def hashAlgorithm : Decoder HashAlgorithm := enumeration hashAlgorithms

def decompositions : List (String × Decomposition) := [("top-level", .topLevel), ("leaf", .leaf)]

def decomposition : Decoder Decomposition := enumeration decompositions

def relationships : List (String × Relationship) := Relationship.all.map fun r => (r.text, r)

def relationship : Decoder Relationship := enumeration relationships

def ofHash (h : Hash) : Json := .string h.hex

def ofDid (d : Did) : Json := .string d.text

def ofKeyUri (u : KeyUri) : Json := .string u.text

def ofDocumentId (i : DocumentId) : Json := .string i.text

def ofTime (t : Instant) : Json := .string (Rfc3339.text t)

def ofPublicKey (k : PublicKey) : Json := .string k.hex

def ofStrings (l : List String) : Json := .array (l.map .string)

def ofHashes (l : List Hash) : Json := .array (l.map ofHash)

def ofNonceMap (m : NonceMap) : Json := .object (m.entries.map fun e => (e.1.hex, .string e.2))

def ofHashAlgorithm : HashAlgorithm → Json
  | .sha256 => .string "sha256"
  | .blake3 => .string "blake3"

def ofDecomposition : Decomposition → Json
  | .topLevel => .string "top-level"
  | .leaf => .string "leaf"

def ofRelationship (r : Relationship) : Json := .string r.text

end SelectiveDisclosure.Wire

import SelectiveDisclosure.Protocol
import SelectiveDisclosure.Salting
import SelectiveDisclosure.Signing
import SelectiveDisclosure.Time.Rfc3339

namespace SelectiveDisclosure

structure DocumentId where
  hash : Hash
deriving DecidableEq, Inhabited

inductive DocumentIdError where
  | missingScheme
  | multibase
deriving DecidableEq

def DocumentIdError.message : DocumentIdError → String
  | .missingScheme => "no 'doc:' prefix"
  | .multibase => "invalid multibase hash"

namespace DocumentId

def scheme : List Char := ['d', 'o', 'c', ':']

def text (i : DocumentId) : String :=
  String.ofList (scheme ++ Multibase.encodeBase58 i.hash.toList)

def parse (s : String) : Except DocumentIdError DocumentId :=
  match scheme.isPrefixOf? s.toList with
  | none => .error .missingScheme
  | some rest => match Multibase.decode? rest with
    | none => .error .multibase
    | some (code, bytes) =>
        if code ≠ Multibase.base58Code then .error .multibase
        else match Octets.ofList? 32 bytes with
          | some hash => .ok ⟨hash⟩
          | none => .error .multibase

end DocumentId

structure Metadata where
  templates : List String
  labels : List String
deriving DecidableEq, Inhabited

def Metadata.isEmpty (m : Metadata) : Bool := m.templates.isEmpty && m.labels.isEmpty

structure Terms where
  contentHashes : List Hash
  issuer : Did
  holder : Did
  evidenceIds : List DocumentId
  authorization : Option String
  registry : Option String
  createdAt : Instant
  validUntil : Option Instant
deriving DecidableEq, Inhabited

def sortHashes (hashes : List Hash) : List Hash :=
  hashes.mergeSort fun a b => (compare a b).isLE

def hashTexts (hashes : List Hash) : Content :=
  .array ((sortHashes hashes).map fun h => .string h.hex)

namespace Terms

def payload (t : Terms) : Content :=
  .object
    [("authorization", .string (t.authorization.getD "")),
     ("contentHashes", hashTexts t.contentHashes),
     ("createdAt", .string (Rfc3339.secondsText t.createdAt)),
     ("evidenceIds", .array (t.evidenceIds.map fun i => .string i.text)),
     ("holder", .string t.holder.text),
     ("issuer", .string t.issuer.text),
     ("registry", .string (t.registry.getD "")),
     ("validUntil", .string ((t.validUntil.map Rfc3339.secondsText).getD ""))]

def documentHash (hasher : Hasher) (t : Terms) : Except ContentError Hash := do
  return hasher (← t.payload.encode) none

end Terms

structure Header where
  identifier : DocumentId
  terms : Terms
  documentHash : Hash
  issuerSignature : DidSignature
  metadata : Metadata
deriving DecidableEq, Inhabited

structure Document where
  header : Header
  content : Content
  nonces : NonceMap

inductive IntegrityError where
  | invalidContent (cause : DecompositionError)
  | missingNonce (digest : Hash)
  | contentHashesMismatch
  | documentHashMismatch
  | identifierMismatch
  | encoding (cause : ContentError)
deriving DecidableEq

def IntegrityError.message : IntegrityError → String
  | .invalidContent cause => "invalid content: " ++ cause.message
  | .missingNonce digest => "no nonce for statement digest " ++ digest.hex
  | .contentHashesMismatch => "content hashes don't match content"
  | .documentHashMismatch => "document hash doesn't match"
  | .identifierMismatch => "identifier doesn't match document hash"
  | .encoding cause => "encoding document hash: " ++ cause.message

namespace Document

def committedStatements (d : Document) (p : Protocol) (source : NonceSource) :
    Except IntegrityError (List (Statement × HashedStatement)) := do
  let statements ← (d.content.decompose p.decomposition).mapError .invalidContent
  let hashed := hashStatements p.hasher d.nonces source (statements.map Statement.encoded)
  match hashed.find? fun h => !d.nonces.contains h.digest with
  | some missing => throw (.missingNonce missing.digest)
  | none => return statements.zip hashed

def checkIntegrity (d : Document) (p : Protocol) (source : NonceSource) :
    Except IntegrityError Unit := do
  let committed ← d.committedStatements p source
  if sortHashes (committed.map fun c => c.2.saltedHash) ≠ d.header.terms.contentHashes then
    throw .contentHashesMismatch
  let hash ← (d.header.terms.documentHash p.hasher).mapError .encoding
  if hash ≠ d.header.documentHash then throw .documentHashMismatch
  if DocumentId.mk hash ≠ d.header.identifier then throw .identifierMismatch

end Document

end SelectiveDisclosure

import SelectiveDisclosure.Document

namespace SelectiveDisclosure

structure Application where
  content : Content
  holder : Option Did
  evidenceIds : List DocumentId
  authorization : Option String
  registry : Option String
  createdAt : Option Instant
  validUntil : Option Instant
  metadata : Metadata

inductive OptionalText where
  | authorization
  | registry
deriving DecidableEq

def OptionalText.name : OptionalText → String
  | .authorization => "authorization"
  | .registry => "registry"

inductive IssuanceError where
  | missingHolder
  | invalidContent (cause : DecompositionError)
  | invalidWindow
  | emptyText (field : OptionalText)
  | encoding (cause : ContentError)
  | signing (cause : SigningError)
deriving DecidableEq

def IssuanceError.message : IssuanceError → String
  | .missingHolder => "required field missing: holder"
  | .invalidContent cause => "invalid content: " ++ cause.message
  | .invalidWindow => "document must be valid until a time after its creation"
  | .emptyText field => "field must not be empty: " ++ field.name
  | .encoding cause => "encoding document hash: " ++ cause.message
  | .signing cause => "signing failed: " ++ cause.message

def repeatedStatement : List Hash → List (Statement × HashedStatement) → Option Statement
  | _, [] => none
  | seen, (s, h) :: rest =>
      if seen.contains h.digest then some s else repeatedStatement (h.digest :: seen) rest

namespace Application

def checkWindow (created : Instant) : Option Instant → Except IssuanceError Unit
  | none => .ok ()
  | some until_ => if created.before until_ then .ok () else .error .invalidWindow

def checkText (field : OptionalText) (value : Option String) : Except IssuanceError Unit :=
  if value = some "" then .error (.emptyText field) else .ok ()

def issue (a : Application) (p : Protocol) (signer : Signer) (now : Instant)
    (source : NonceSource) : Except IssuanceError Document := do
  let some holder := a.holder | throw .missingHolder
  let created := (a.createdAt.getD now).truncate
  let validUntil := a.validUntil.map Instant.truncate
  checkWindow created validUntil
  checkText .authorization a.authorization
  checkText .registry a.registry
  let statements ← (a.content.decompose p.decomposition).mapError .invalidContent
  let hashed := hashStatements p.hasher SortedMap.empty source (statements.map Statement.encoded)
  if let some s := repeatedStatement [] (statements.zip hashed) then
    throw (.invalidContent (.duplicateStatement s.name))
  let terms : Terms :=
    ⟨sortHashes (hashed.map HashedStatement.saltedHash), signer.keyUri.did, holder, a.evidenceIds,
      a.authorization, a.registry, created, validUntil⟩
  let hash ← (terms.documentHash p.hasher).mapError .encoding
  let signature ← (signer.signWithin p.signingTimeout.toNat hash.toList).mapError .signing
  return ⟨⟨⟨hash⟩, terms, hash, ⟨signer.keyUri, signature⟩, a.metadata⟩, a.content, nonceMapOf hashed⟩

end Application

end SelectiveDisclosure

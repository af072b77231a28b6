import SelectiveDisclosure.Presentation
import SelectiveDisclosure.Did.Registry

namespace SelectiveDisclosure

inductive ProofKind where
  | statement
  | digest
  | signature
  | selfSignature
  | validity
deriving DecidableEq

def ProofKind.title : ProofKind → String
  | .statement => "statement proof"
  | .digest => "digest proof"
  | .signature => "signature proof"
  | .selfSignature => "self-signature proof"
  | .validity => "validity check"

inductive TamperKind where
  | digestMismatch
  | duplicateName
  | encoding
  | missingNonce
  | saltedHashMismatch
deriving DecidableEq

def TamperKind.message : TamperKind → String
  | .digestMismatch => "value doesn't match digest"
  | .duplicateName => "attribute disclosed more than once"
  | .encoding => "value can't be encoded"
  | .missingNonce => "no nonce for digest"
  | .saltedHashMismatch => "salted hash doesn't match digest and nonce"

inductive AuthorizationFailure where
  | missingRelationship (relationship : Relationship)
  | wrongController (expected actual : Did)
deriving DecidableEq

def AuthorizationFailure.message : AuthorizationFailure → String
  | .missingRelationship relationship => "not an " ++ relationship.text ++ " key"
  | .wrongController expected actual =>
      "controlled by " ++ actual.text ++ ", expected " ++ expected.text

inductive ProofError where
  | statementTampered (name : String) (reason : TamperKind)
  | nothingDisclosed
  | digestNotCommitted (saltedHash : Hash)
  | duplicateContentHashes
  | documentHashMismatch
  | identifierMismatch
  | issuerSignatureInvalid
  | holderSignatureInvalid
  | challengeMismatch
  | keyNotAuthorized (keyUri : KeyUri) (reason : AuthorizationFailure)
  | keyResolution (cause : ResolveError)
  | documentExpired
  | documentNotYetValid
deriving DecidableEq

def ProofError.message : ProofError → String
  | .statementTampered name reason =>
      "statement '" ++ name ++ "' was tampered with: " ++ reason.message
  | .nothingDisclosed => "no statements disclosed"
  | .digestNotCommitted saltedHash =>
      "salted hash " ++ saltedHash.hex ++ " is not committed to by the document"
  | .duplicateContentHashes => "content hashes contain duplicates"
  | .documentHashMismatch => "document hash doesn't match its contents"
  | .identifierMismatch => "identifier doesn't match document hash"
  | .issuerSignatureInvalid => "invalid issuer signature"
  | .holderSignatureInvalid => "invalid holder signature"
  | .challengeMismatch => "presentation is bound to a different challenge"
  | .keyNotAuthorized keyUri reason =>
      "key " ++ keyUri.text ++ " not authorized: " ++ reason.message
  | .keyResolution cause => "key resolution: " ++ cause.message
  | .documentExpired => "document is expired"
  | .documentNotYetValid => "document is not valid yet"

structure Expectations where
  challenge : String
  issuer : Option Did
  checkValidity : Bool

def require (condition : Bool) (error : ProofError) : Except ProofError Unit :=
  if condition then .ok () else .error error

namespace Presentation

def proveStatement (hasher : Hasher) (nonces : NonceMap) (s : DisclosedStatement) :
    Except TamperKind Unit := do
  let encoded ← (encodeStatement s.name s.value).mapError fun _ => .encoding
  if hasher encoded none ≠ s.digest then throw .digestMismatch
  match nonces.get? s.digest with
  | none => throw .missingNonce
  | some nonce =>
      if saltedHash hasher s.digest nonce ≠ s.saltedHash then throw .saltedHashMismatch

def proveStatementsFrom (hasher : Hasher) (nonces : NonceMap) :
    List String → List DisclosedStatement → Except ProofError Unit
  | _, [] => return ()
  | seen, s :: rest => do
      require (!seen.contains s.name) (.statementTampered s.name .duplicateName)
      (proveStatement hasher nonces s).mapError (.statementTampered s.name)
      proveStatementsFrom hasher nonces (s.name :: seen) rest

def proveStatements (p : Presentation) (hasher : Hasher) : Except ProofError Unit := do
  require (!p.disclosed.isEmpty) .nothingDisclosed
  proveStatementsFrom hasher p.nonces [] p.disclosed

def proveCommitted (committed : List Hash) : List DisclosedStatement → Except ProofError Unit
  | [] => return ()
  | s :: rest => do
      require (committed.contains s.saltedHash) (.digestNotCommitted s.saltedHash)
      proveCommitted committed rest

def proveDigests (p : Presentation) (hasher : Hasher) : Except ProofError Unit := do
  let committed := p.header.terms.contentHashes
  require (decide committed.Nodup) .duplicateContentHashes
  proveCommitted committed p.disclosed
  let hash ← (p.header.terms.documentHash hasher).mapError fun _ => .documentHashMismatch
  require (hash = p.header.documentHash) .documentHashMismatch
  require (DocumentId.mk hash = p.header.identifier) .identifierMismatch

def authorize (key : ResolvedKey) (r : Relationship) (controller : Did) :
    Except ProofError Unit := do
  require (key.allows r) (.keyNotAuthorized key.keyUri (.missingRelationship r))
  require (key.controller = controller)
    (.keyNotAuthorized key.keyUri (.wrongController controller key.controller))

def proveIssuerSignature (p : Presentation) (resolver : Resolver) (timeout : Nat)
    (e : Expectations) : Except ProofError Unit := do
  let signature := p.header.issuerSignature
  let key ← (resolver.resolveWithin timeout signature.keyUri).mapError .keyResolution
  authorize key .assertionMethod p.header.terms.issuer
  if let some expected := e.issuer then authorize key .assertionMethod expected
  (signature.verify p.header.documentHash.toList key.publicKey).mapError
    fun _ => .issuerSignatureInvalid

def proveHolderSignature (p : Presentation) (resolver : Resolver) (timeout : Nat)
    (e : Expectations) : Except ProofError Unit := do
  require (p.challenge = e.challenge) .challengeMismatch
  let signature := p.holderSignature
  let key ← (resolver.resolveWithin timeout signature.keyUri).mapError .keyResolution
  authorize key .authentication p.header.terms.holder
  let payload ← (p.payload e.challenge).mapError fun _ => .holderSignatureInvalid
  (signature.verify (utf8 payload) key.publicKey).mapError fun _ => .holderSignatureInvalid

def proveValidity (p : Presentation) (now : Instant) : Except ProofError Unit := do
  let now := now.truncate
  require (p.header.terms.createdAt.truncate.notAfter now) .documentNotYetValid
  match p.header.terms.validUntil with
  | none => return ()
  | some limit => require (now.before limit.truncate) .documentExpired

end Presentation

structure ProofOutcome where
  kind : ProofKind
  result : Except ProofError Unit

def ProofOutcome.failure? (o : ProofOutcome) : Option ProofError :=
  match o.result with
  | .ok _ => none
  | .error e => some e

structure VerifiedPresentation where
  identifier : DocumentId
  issuer : Did
  holder : Did
  values : SortedMap String Content

structure VerificationReport where
  outcomes : List ProofOutcome
  claimed : VerifiedPresentation

namespace VerificationReport

def failures (r : VerificationReport) : List (ProofKind × ProofError) :=
  r.outcomes.filterMap fun o => o.failure?.map fun e => (o.kind, e)

def isVerified (r : VerificationReport) : Bool := r.failures.isEmpty

def result (r : VerificationReport) :
    Except (List (ProofKind × ProofError)) VerifiedPresentation :=
  if r.failures.isEmpty then .ok r.claimed else .error r.failures

def failureMessage (failures : List (ProofKind × ProofError)) : String :=
  "verification failed" ++
    String.join ((failures.zip (": " :: failures.map fun _ => "; ")).map fun ((kind, e), mark) =>
      mark ++ kind.title ++ ": " ++ e.message)

end VerificationReport

namespace Presentation

def claimed (p : Presentation) : VerifiedPresentation :=
  ⟨p.header.identifier, p.header.terms.issuer, p.header.terms.holder,
    SortedMap.ofList (p.disclosed.map fun s => (s.name, s.value))⟩

def verify (p : Presentation) (protocol : Protocol) (resolver : Resolver) (e : Expectations)
    (now : Instant) : VerificationReport :=
  let timeout := protocol.resolveTimeout.toNat
  let always : List ProofOutcome :=
    [⟨.statement, p.proveStatements protocol.hasher⟩,
     ⟨.digest, p.proveDigests protocol.hasher⟩,
     ⟨.signature, p.proveIssuerSignature resolver timeout e⟩,
     ⟨.selfSignature, p.proveHolderSignature resolver timeout e⟩]
  ⟨if e.checkValidity then always ++ [⟨.validity, p.proveValidity now⟩] else always, p.claimed⟩

end Presentation

end SelectiveDisclosure
